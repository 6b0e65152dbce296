/-
  ListenerReview/Proofs/Layout/Distinct.lean
  ==========================================
  **A formatter lays out every source at least once, and with enough room only once.**

  A new formatter is asked for the layouts of sources, one after the other.  What it
  misses is exactly the sources that it looks for (`Work.toFinset_missed`): one that it
  finds was missed before.  So it misses at least as often as there are different
  sources to look for.

  The keys of the cache are the last misses that there is room for.  As long as there
  is room for all different sources, they are all of the misses, so nothing is missed
  twice (`Work.nodup_missed`), nothing is evicted, and the cache holds every one of
  the sources.  A formatter that holds every source that it will look for misses
  nothing and stores nothing (`formatAll_of_held`).
-/
import ListenerReview.Proofs.Layout.Balance
import Mathlib.Data.Finset.Card
import Mathlib.Data.List.Induction

namespace ListenerReview.Formatter

/-- The different sources that a formatter of the given ceiling looks for. -/
def distinct (ceiling : Nat) (sources : List String) : Finset String :=
  (sources.filter (looksUp ceiling)).toFinset

theorem mem_distinct {ceiling : Nat} {sources : List String} {source : String} :
    source ∈ distinct ceiling sources ↔ source ∈ sources ∧ looksUp ceiling source = true := by
  simp [distinct]

theorem distinct_subset_concat (ceiling : Nat) (sources : List String) (source : String) :
    distinct ceiling sources ⊆ distinct ceiling (sources ++ [source]) := by
  intro other hother
  rw [mem_distinct] at hother ⊢
  exact ⟨List.mem_append_left _ hother.1, hother.2⟩

/-! ### One answer -/

variable {formatter : Formatter}

/-- A formatter looks for a source exactly when it finds or misses it. -/
theorem looksUp_eq (formatter : Formatter) (source : String) :
    looksUp formatter.ceiling source =
      ((formatter.format source).1.cacheHit || formatter.misses source) := by
  have hsum : ∀ a b c : Bool, a.toNat + b.toNat = c.toNat → c = (a || b) := by decide
  exact hsum _ _ _ (toNat_cacheHit_add_toNat_misses formatter source)

theorem absent_of_misses {source : String} (h : formatter.misses source = true) :
    formatter.cache.entries[source]? = none := by
  rcases format_cases formatter source with ⟨rfl, -⟩ | ⟨-, -, hformat⟩ |
    ⟨-, -, layout, -, hformat⟩ | ⟨-, -, habsent, -⟩
  · simp [misses] at h
  · simp [misses, hformat] at h
  · simp [misses, hformat] at h
  · exact habsent

/-- A source that is held is not missed, and asking for it changes no entry. -/
theorem format_of_held {source : String}
    (h : looksUp formatter.ceiling source = true → source ∈ formatter.cache.entries) :
    formatter.misses source = false ∧
      (formatter.format source).2.cache.entries = formatter.cache.entries := by
  obtain ⟨hentries, -, -⟩ := FormatCache.get_keeps formatter.cache source
  rcases format_cases formatter source with ⟨rfl, hformat⟩ | ⟨-, -, hformat⟩ |
    ⟨-, -, layout, -, hformat⟩ | ⟨hne, hfits, habsent, -⟩
  · simp [misses, hformat]
  · simp [misses, hformat]
  · simp [misses, hformat, hentries]
  · have hlooks : looksUp formatter.ceiling source = true := by
      simp [looksUp, hne, Nat.not_lt.mpr hfits]
    exact absurd (h hlooks) (by simpa using habsent)

/-- When every source to look for is held, none is missed and no entry changes. -/
theorem formatAll_of_held {sources : List String}
    (h : ∀ source ∈ distinct formatter.ceiling sources, source ∈ formatter.cache.entries) :
    (formatter.formatAll sources).2.cache.counts.misses = formatter.cache.counts.misses ∧
      (formatter.formatAll sources).2.cache.entries = formatter.cache.entries := by
  induction sources generalizing formatter with
  | nil => exact ⟨rfl, rfl⟩
  | cons source sources ih =>
    have hfirst : looksUp formatter.ceiling source = true → source ∈ formatter.cache.entries :=
      fun hlooks => h source (mem_distinct.mpr ⟨List.mem_cons_self, hlooks⟩)
    obtain ⟨hfound, hentries⟩ := format_of_held hfirst
    have hlater : ∀ other ∈ distinct (formatter.format source).2.ceiling sources,
        other ∈ (formatter.format source).2.cache.entries := by
      intro other hother
      rw [(format_keeps formatter source).2, mem_distinct] at hother
      rw [hentries]
      exact h other (mem_distinct.mpr ⟨List.mem_cons_of_mem source hother.1, hother.2⟩)
    obtain ⟨hrest, hkept⟩ := ih hlater
    have hmisses := (counts_format formatter source).2
    rw [formatAll_cons]
    refine ⟨hrest.trans ?_, hkept.trans hentries⟩
    simpa [hfound] using hmisses

/-! ### What a new formatter misses -/

namespace Work

variable {unit : String} {capacity ceiling : Nat} {work : Work}

/-- A new formatter after it was asked for the layouts of sources. -/
def asked (unit : String) (capacity ceiling : Nat) (sources : List String) : Work :=
  after unit capacity ceiling (sources.map .format)

theorem formatter_foldl (work : Work) (sources : List String) :
    ((sources.map Request.format).foldl step work).formatter =
      (work.formatter.formatAll sources).2 := by
  induction sources generalizing work with
  | nil => rfl
  | cons source sources ih => exact ih _

theorem asked_concat (unit : String) (capacity ceiling : Nat) (sources : List String)
    (source : String) :
    asked unit capacity ceiling (sources ++ [source]) =
      (asked unit capacity ceiling sources).step (.format source) := by
  simp [asked, after]

theorem sound_asked (unit : String) (capacity ceiling : Nat) (sources : List String) :
    (asked unit capacity ceiling sources).Sound unit capacity ceiling :=
  sound_foldl (sound_new unit capacity ceiling) _

/-- A source that is looked for has been missed, now or earlier. -/
theorem mem_missedWith (h : Sound unit capacity ceiling work) (source other : String) :
    other ∈ work.missedWith source ↔
      other ∈ work.missed ∨ (other = source ∧ looksUp ceiling source = true) := by
  have hlooks := looksUp_eq work.formatter source
  rw [h.ceiling_eq] at hlooks
  by_cases hmiss : work.formatter.misses source = true
  · simp [missedWith, hlooks, hmiss]
  · simp only [missedWith, hmiss, hlooks]
    constructor
    · exact Or.inl
    · rintro (hmem | ⟨rfl, hhit⟩)
      · exact hmem
      · have hfound : (work.formatter.format other).1.cacheHit = true := by simpa [hmiss] using hhit
        obtain ⟨-, -, older, newer, hmissed, -⟩ := (cacheHit_iff h other).mp hfound
        rw [hmissed]
        simp

/-- While there is room for all misses, no source is missed twice. -/
theorem nodup_missedWith (h : Sound unit capacity ceiling work) (hnodup : work.missed.Nodup)
    (hroom : work.missed.length ≤ capacity) (source : String) :
    (work.missedWith source).Nodup := by
  by_cases hmiss : work.formatter.misses source = true
  · have hall : work.missed.rtake capacity = work.missed := by
      simp [List.rtake, Nat.sub_eq_zero_of_le hroom]
    have hnew : source ∉ work.missed := by
      rw [← hall, ← entry_iff h, absent_of_misses hmiss]
      simp
    simp only [missedWith, hmiss, if_true]
    simpa using hnodup.concat hnew
  · simpa [missedWith, hmiss] using hnodup

/-- What a new formatter misses is what it looks for. -/
theorem toFinset_missed (unit : String) (capacity ceiling : Nat) (sources : List String) :
    (asked unit capacity ceiling sources).missed.toFinset = distinct ceiling sources := by
  induction sources using List.reverseRecOn with
  | nil => rfl
  | append_singleton sources source ih =>
    ext other
    have hother : other ∈ (asked unit capacity ceiling sources).missed ↔
        other ∈ distinct ceiling sources := by
      rw [← ih, List.mem_toFinset]
    rw [asked_concat, List.mem_toFinset]
    simp only [step, mem_missedWith (sound_asked unit capacity ceiling sources), hother,
      mem_distinct, List.mem_append, List.mem_singleton]
    constructor
    · rintro (⟨hmem, hlooks⟩ | ⟨rfl, hlooks⟩)
      · exact ⟨Or.inl hmem, hlooks⟩
      · exact ⟨Or.inr rfl, hlooks⟩
    · rintro ⟨hmem | rfl, hlooks⟩
      · exact Or.inl ⟨hmem, hlooks⟩
      · exact Or.inr ⟨rfl, hlooks⟩

theorem misses_asked (unit : String) (capacity ceiling : Nat) (sources : List String) :
    (asked unit capacity ceiling sources).formatter.cache.counts.misses =
      (asked unit capacity ceiling sources).missed.length := by
  induction sources using List.reverseRecOn with
  | nil => rfl
  | append_singleton sources source ih =>
    rw [asked_concat]
    simp only [step, (counts_format _ source).2, ih, missedWith]
    by_cases hmiss : (asked unit capacity ceiling sources).formatter.misses source = true
    · simp [hmiss]
    · simp [hmiss]

/-- With room for all different sources, no source is missed twice. -/
theorem nodup_missed {sources : List String} (hroom : (distinct ceiling sources).card ≤ capacity) :
    (asked unit capacity ceiling sources).missed.Nodup := by
  induction sources using List.reverseRecOn with
  | nil => exact List.nodup_nil
  | append_singleton sources source ih =>
    have hearlier : (distinct ceiling sources).card ≤ capacity :=
      (Finset.card_le_card (distinct_subset_concat ceiling sources source)).trans hroom
    have hnodup := ih hearlier
    rw [← toFinset_missed unit capacity, List.toFinset_card_of_nodup hnodup] at hearlier
    rw [asked_concat]
    exact nodup_missedWith (sound_asked unit capacity ceiling sources) hnodup hearlier source

/-- A new formatter misses at least as often as there are different sources to look for. -/
theorem card_le_misses (unit : String) (capacity ceiling : Nat) (sources : List String) :
    (distinct ceiling sources).card ≤
      (asked unit capacity ceiling sources).formatter.cache.counts.misses := by
  rw [misses_asked, ← toFinset_missed unit capacity]
  exact List.toFinset_card_le _

variable {sources : List String}

theorem misses_eq_card (hroom : (distinct ceiling sources).card ≤ capacity) :
    (asked unit capacity ceiling sources).formatter.cache.counts.misses =
      (distinct ceiling sources).card := by
  rw [misses_asked, ← toFinset_missed unit capacity,
    List.toFinset_card_of_nodup (nodup_missed hroom)]

/-- With room for all different sources, the cache holds exactly these. -/
theorem order_asked (hroom : (distinct ceiling sources).card ≤ capacity) :
    (asked unit capacity ceiling sources).formatter.cache.order =
      (asked unit capacity ceiling sources).missed := by
  have hlength : (asked unit capacity ceiling sources).missed.length ≤ capacity := by
    rwa [← misses_asked, misses_eq_card hroom]
  rw [(sound_asked unit capacity ceiling sources).order_eq]
  simp [List.rtake, Nat.sub_eq_zero_of_le hlength]

/-- Asking for layouts clears nothing. -/
theorem cleared_format (work : Work) (sources : List String) :
    work.cleared (sources.map .format) = 0 := by
  induction sources generalizing work with
  | nil => rfl
  | cons source sources ih => simp [cleared, clears, ih]

/-- With room for all different sources, nothing is evicted: all that was missed is still there. -/
theorem evictions_asked (hroom : (distinct ceiling sources).card ≤ capacity) :
    (asked unit capacity ceiling sources).formatter.cache.counts.evictions = 0 := by
  have hnew := sound_new unit capacity ceiling
  by_cases hzero : capacity = 0
  · subst hzero
    exact (unused_foldl hnew ⟨rfl, rfl⟩ _).2
  · have hbalanced : Balanced 0 (asked unit capacity ceiling sources) := by
      have h := balanced_foldl hnew hzero (balanced_new unit capacity ceiling)
        (sources.map .format)
      rwa [cleared_format, Nat.add_zero] at h
    have hsize := (sound_asked unit capacity ceiling sources).queued.size_eq
    rw [Balanced, hsize, order_asked hroom, ← misses_asked] at hbalanced
    omega

theorem mem_entries_asked (hroom : (distinct ceiling sources).card ≤ capacity) (source : String) :
    source ∈ (asked unit capacity ceiling sources).formatter.cache.entries ↔
      source ∈ distinct ceiling sources := by
  rw [(sound_asked unit capacity ceiling sources).queued.mem_entries_iff, order_asked hroom,
    ← toFinset_missed unit capacity, List.mem_toFinset]

end Work

end ListenerReview.Formatter
