/-
  ListenerReview/Proofs/Layout/Balance.lean
  =========================================
  **The counts of a cache account for its entries.**

  Every miss is followed by storing the layout that was missing, so it puts one entry
  into the cache; an entry leaves it by being evicted, which is counted, or by a
  clearing, which is not.  With room for at least one entry, the misses are therefore
  the entries that are still there, the evictions, and the entries that clearings
  dropped (`Formatter.Work.cleared`).  Without any room there is nothing to find, to
  keep or to evict.

  Dropping the oldest entry moves one from the size to the evictions
  (`FormatCache.balance_evictOldest`), so storing under a new source raises the sum of
  both by one (`FormatCache.balance_insert`).  All else is what one answer and one
  request make of that (`Formatter.balance_format`, `Work.balance_step`), and a run is
  an induction over its requests.
-/
import ListenerReview.Proofs.Layout.Counts
import Mathlib.Order.Basic

namespace ListenerReview

/-! ### Counts that only grow -/

/-- Counts come before others if none of them is greater. -/
instance : LE CacheCounts where
  le a b := a.hits ≤ b.hits ∧ a.misses ≤ b.misses ∧ a.evictions ≤ b.evictions

instance : Preorder CacheCounts where
  le_refl a := ⟨Nat.le_refl a.hits, Nat.le_refl a.misses, Nat.le_refl a.evictions⟩
  le_trans a b c hab hbc :=
    ⟨hab.1.trans hbc.1, hab.2.1.trans hbc.2.1, hab.2.2.trans hbc.2.2⟩

/-! ### One operation -/

namespace FormatCache

variable {cache : FormatCache}

/-- An entry that is evicted is counted. -/
theorem balance_evictOldest (h : cache.Queued) :
    cache.evictOldest.size + cache.evictOldest.counts.evictions =
      cache.size + cache.counts.evictions := by
  have hsize := (queued_evictOldest h).size_eq
  rcases horder : cache.order with _ | ⟨oldest, order⟩
  · simp [evictOldest, horder]
  · obtain ⟨-, horder', -⟩ := evictOldest_of_cons horder
    rw [hsize, h.size_eq, horder, horder']
    simp only [evictOldest, horder, List.length_cons]
    omega

theorem evictions_le_insert (cache : FormatCache) (source layout : String) :
    cache.counts.evictions ≤ (cache.insert source layout).counts.evictions := by
  unfold insert evictOldest append
  repeat' split
  all_goals simp

/-- A layout that is stored under a new source is one more entry, and may cost one that was
    there. -/
theorem balance_insert (h : cache.Queued) (hroom : cache.capacity ≠ 0) {source : String}
    (hnew : source ∉ cache.order) (layout : String) :
    (cache.insert source layout).size + (cache.insert source layout).counts.evictions =
      cache.size + cache.counts.evictions + 1 := by
  have hsize := (queued_insert h source layout).size_eq
  rcases insert_cases h source layout with ⟨hzero, -⟩ | ⟨hmem, -⟩ |
    ⟨-, ⟨oldest, order, horder⟩, -, hinsert⟩ | ⟨-, -, hinsert⟩
  · exact absurd hzero hroom
  · exact absurd hmem hnew
  · have hevicted := balance_evictOldest h
    rw [(queued_evictOldest h).size_eq] at hevicted
    rw [hsize, hinsert]
    simp only [append, List.length_append, List.length_singleton]
    omega
  · rw [hsize, hinsert, h.size_eq]
    simp only [append, List.length_append, List.length_singleton]
    omega

end FormatCache

namespace Formatter

/-! ### One answer -/

variable {formatter : Formatter}

/-- One answer never lowers a count. -/
theorem counts_le_format (formatter : Formatter) (source : String) :
    formatter.cache.counts ≤ (formatter.format source).2.cache.counts := by
  obtain ⟨hhits, hmisses⟩ := counts_format formatter source
  refine ⟨by omega, by omega, ?_⟩
  rcases format_cases formatter source with ⟨-, hformat⟩ | ⟨-, -, hformat⟩ |
    ⟨-, -, layout, hentry, hformat⟩ | ⟨-, -, habsent, hformat⟩
  · simp [hformat]
  · simp [hformat]
  · simp [hformat, FormatCache.counts_get_of_some hentry]
  · have hevictions := FormatCache.evictions_le_insert (formatter.cache.get source).2 source
      (Layout.reformatString formatter.indentUnit source)
    rw [FormatCache.counts_get_of_none habsent] at hevictions
    simpa [hformat] using hevictions

/-- A miss is one more entry or eviction, and nothing else is. -/
theorem balance_format (h : formatter.cache.Queued) (hroom : formatter.cache.capacity ≠ 0)
    (source : String) :
    (formatter.format source).2.cache.size + (formatter.format source).2.cache.counts.evictions =
      formatter.cache.size + formatter.cache.counts.evictions +
        (formatter.misses source).toNat := by
  obtain ⟨hentries, horder, hcapacity⟩ := FormatCache.get_keeps formatter.cache source
  rcases format_cases formatter source with ⟨rfl, hformat⟩ | ⟨-, -, hformat⟩ |
    ⟨-, -, layout, hentry, hformat⟩ | ⟨hne, -, habsent, hformat⟩
  · simp [misses, hformat]
  · simp [misses, hformat]
  · simp [misses, hformat, FormatCache.size, hentries, FormatCache.counts_get_of_some hentry]
  · have hnew : source ∉ (formatter.cache.get source).2.order := by
      rw [horder, ← h.mem_entries_iff]
      simpa using habsent
    have hstored := FormatCache.balance_insert (FormatCache.queued_get h source)
      (hcapacity ▸ hroom) hnew (Layout.reformatString formatter.indentUnit source)
    simpa [misses, hformat, hne, FormatCache.size, hentries,
      FormatCache.counts_get_of_none habsent] using hstored

/-- Without any room nothing is found. -/
theorem not_cacheHit (h : formatter.cache.Queued) (hzero : formatter.cache.capacity = 0)
    (source : String) : (formatter.format source).1.cacheHit = false := by
  have hle := h.size_le
  rw [hzero, Nat.le_zero, List.length_eq_zero_iff] at hle
  rcases format_cases formatter source with ⟨-, hformat⟩ | ⟨-, -, hformat⟩ |
    ⟨-, -, layout, hentry, -⟩ | ⟨-, -, -, hformat⟩
  · rw [hformat]
  · rw [hformat]
  · have hmem : source ∈ formatter.cache.order := by
      rw [← h.mem_entries_iff, Std.HashMap.mem_iff_isSome_getElem?, hentry]
      rfl
    rw [hle] at hmem
    cases hmem
  · rw [hformat]

/-- Without any room nothing is evicted. -/
theorem evictions_format (hzero : formatter.cache.capacity = 0) (source : String) :
    (formatter.format source).2.cache.counts.evictions = formatter.cache.counts.evictions := by
  obtain ⟨-, -, hcapacity⟩ := FormatCache.get_keeps formatter.cache source
  rcases format_cases formatter source with ⟨-, hformat⟩ | ⟨-, -, hformat⟩ |
    ⟨-, -, layout, hentry, hformat⟩ | ⟨-, -, habsent, hformat⟩
  · simp [hformat]
  · simp [hformat]
  · simp [hformat, FormatCache.counts_get_of_some hentry]
  · simp [hformat, FormatCache.insert, hcapacity, hzero, FormatCache.counts_get_of_none habsent]

/-! ### Requests -/

/-- Whether a request has a formatter of the given ceiling look into its cache. -/
def Request.looksUp (ceiling : Nat) : Request → Bool
  | .format source => Formatter.looksUp ceiling source
  | .formatText source => Formatter.looksUp ceiling source
  | .clear => false

namespace Work

/-- The entries that a request drops without counting them. -/
def clears (work : Work) : Request → Nat
  | .clear => work.formatter.cache.size
  | _ => 0

/-- The entries that requests drop without counting them, one request after the other. -/
def cleared : Work → List Request → Nat
  | _, [] => 0
  | work, request :: requests => work.clears request + (work.step request).cleared requests

variable {unit : String} {capacity ceiling : Nat} {work : Work}

/-- A request asks about a source, in one way or the other, or has the formatter forget. -/
theorem request_cases (work : Work) (request : Request) :
    (∃ source,
      work.step request = ⟨(work.formatter.format source).2, work.missedWith source⟩ ∧
        (∀ ceiling, request.looksUp ceiling = Formatter.looksUp ceiling source) ∧
        work.clears request = 0) ∨
      request = .clear := by
  cases request with
  | format source => exact Or.inl ⟨source, rfl, fun _ => rfl, rfl⟩
  | formatText source => exact Or.inl ⟨source, rfl, fun _ => rfl, rfl⟩
  | clear => exact Or.inr rfl

theorem counts_le_step (work : Work) (request : Request) :
    work.formatter.cache.counts ≤ (work.step request).formatter.cache.counts := by
  rcases request_cases work request with ⟨source, hstep, -⟩ | rfl
  · rw [hstep]
    exact counts_le_format work.formatter source
  · exact le_refl work.formatter.cache.counts

theorem counts_le_foldl (work : Work) (requests : List Request) :
    work.formatter.cache.counts ≤ (requests.foldl step work).formatter.cache.counts := by
  induction requests generalizing work with
  | nil => exact le_refl work.formatter.cache.counts
  | cons request requests ih => exact (counts_le_step work request).trans (ih (work.step request))

/-- One request is at most one hit or one miss. -/
theorem lookups_step (h : Sound unit capacity ceiling work) (request : Request) :
    let later := (work.step request).formatter.cache.counts
    later.hits + later.misses =
      work.formatter.cache.counts.hits + work.formatter.cache.counts.misses +
        (request.looksUp ceiling).toNat := by
  rcases request_cases work request with ⟨source, hstep, hlooks, -⟩ | rfl
  · obtain ⟨hhits, hmisses⟩ := counts_format work.formatter source
    have hone := toNat_cacheHit_add_toNat_misses work.formatter source
    rw [h.ceiling_eq] at hone
    simp only [hstep, hlooks]
    omega
  · rfl

/-- The requests that look into the cache are hits and misses. -/
theorem lookups_foldl (h : Sound unit capacity ceiling work) (requests : List Request) :
    let later := (requests.foldl step work).formatter.cache.counts
    later.hits + later.misses =
      work.formatter.cache.counts.hits + work.formatter.cache.counts.misses +
        requests.countP (Request.looksUp ceiling) := by
  induction requests generalizing work with
  | nil => rfl
  | cons request requests ih =>
    have hrest := ih (sound_step h request)
    have hone := lookups_step h request
    simp only [List.foldl_cons, countP_cons_toNat] at hrest ⊢
    omega

/-! ### Room for entries -/

/-- The misses are the entries, the evictions and `gone` entries that went uncounted. -/
def Balanced (gone : Nat) (work : Work) : Prop :=
  work.formatter.cache.counts.misses =
    work.formatter.cache.size + work.formatter.cache.counts.evictions + gone

theorem balanced_new (unit : String) (capacity ceiling : Nat) :
    Balanced 0 ⟨new unit capacity ceiling, []⟩ := by
  simp [Balanced, new, FormatCache.empty, FormatCache.size]

theorem balanced_step (h : Sound unit capacity ceiling work) (hroom : capacity ≠ 0) {gone : Nat}
    (hbalanced : Balanced gone work) (request : Request) :
    Balanced (gone + work.clears request) (work.step request) := by
  unfold Balanced at hbalanced ⊢
  rcases request_cases work request with ⟨source, hstep, -, hclears⟩ | rfl
  · have hmisses := (counts_format work.formatter source).2
    have hstored := balance_format h.queued (h.capacity_eq ▸ hroom) source
    simp only [hstep, hclears]
    omega
  -- the entries move from the size to those that went uncounted
  · have hempty : (work.step .clear).formatter.cache.size = 0 :=
      (FormatCache.queued_clear work.formatter.cache).size_eq
    have hcounts : (work.step .clear).formatter.cache.counts = work.formatter.cache.counts := rfl
    simp only [hempty, hcounts, clears]
    omega

theorem balanced_foldl (h : Sound unit capacity ceiling work) (hroom : capacity ≠ 0) {gone : Nat}
    (hbalanced : Balanced gone work) (requests : List Request) :
    Balanced (gone + work.cleared requests) (requests.foldl step work) := by
  induction requests generalizing work gone with
  | nil => exact hbalanced
  | cons request requests ih =>
    have hrest := ih (sound_step h request) (balanced_step h hroom hbalanced request)
    rwa [Nat.add_assoc] at hrest

/-! ### No room -/

/-- A formatter that remembers nothing has found nothing and evicted nothing. -/
def Unused (work : Work) : Prop :=
  work.formatter.cache.counts.hits = 0 ∧ work.formatter.cache.counts.evictions = 0

theorem unused_step (h : Sound unit 0 ceiling work) (hunused : work.Unused) (request : Request) :
    (work.step request).Unused := by
  obtain ⟨hhits, hevictions⟩ := hunused
  rcases request_cases work request with ⟨source, hstep, -⟩ | rfl
  · have hfound := (counts_format work.formatter source).1
    rw [not_cacheHit h.queued h.capacity_eq] at hfound
    rw [hstep]
    exact ⟨hfound.trans hhits, (evictions_format h.capacity_eq source).trans hevictions⟩
  · exact ⟨hhits, hevictions⟩

theorem unused_foldl (h : Sound unit 0 ceiling work) (hunused : work.Unused)
    (requests : List Request) : (requests.foldl step work).Unused := by
  induction requests generalizing work with
  | nil => exact hunused
  | cons request requests ih => exact ih (sound_step h request) (unused_step h hunused request)

end Work

/-- **The counts of a cache account for its entries.**  After any requests, hits and misses are as
    many as the requests that looked into the cache: those that asked about a source that is
    neither empty nor over the ceiling.  With room for at least one entry, the misses are the
    entries, the evictions and the entries that clearings dropped; without any, nothing was found,
    kept or evicted.  No further request lowers a count. -/
theorem counts_after (unit : String) (capacity ceiling : Nat) (requests : List Request) :
    let cache := (Work.after unit capacity ceiling requests).formatter.cache
    let counts := cache.counts
    counts.hits + counts.misses = requests.countP (Request.looksUp ceiling) ∧
      (if capacity = 0 then counts.hits = 0 ∧ counts.evictions = 0 ∧ cache.size = 0
      else counts.misses = cache.size + counts.evictions +
        Work.cleared ⟨new unit capacity ceiling, []⟩ requests) ∧
      ∀ more, counts ≤
        (Work.after unit capacity ceiling (requests ++ more)).formatter.cache.counts := by
  intro cache counts
  have hnew := Work.sound_new unit capacity ceiling
  have h : (Work.after unit capacity ceiling requests).Sound unit capacity ceiling :=
    Work.sound_foldl hnew requests
  refine ⟨?_, ?_, ?_⟩
  · have hlookups := Work.lookups_foldl hnew requests
    exact hlookups.trans (Nat.zero_add _)
  · by_cases hzero : capacity = 0
    · subst hzero
      obtain ⟨hhits, hevictions⟩ := Work.unused_foldl hnew ⟨rfl, rfl⟩ requests
      have hle := h.queued.size_le
      rw [h.capacity_eq, ← h.queued.size_eq] at hle
      rw [if_pos rfl]
      exact ⟨hhits, hevictions, Nat.le_zero.mp hle⟩
    · have hbalanced :=
        Work.balanced_foldl hnew hzero (Work.balanced_new unit capacity ceiling) requests
      rw [Nat.zero_add] at hbalanced
      rw [if_neg hzero]
      exact hbalanced
  · intro more
    unfold Work.after
    rw [List.foldl_append]
    exact Work.counts_le_foldl _ more

end Formatter

end ListenerReview
