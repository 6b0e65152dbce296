/-
  ListenerReview/Proofs/Layout/Arrivals.lean
  ==========================================
  **What a cache holds after any requests** — the last arrivals that there is room
  for, each with the layout that was stored last.

  Beside the cache stands a list that knows nothing of maps and of dropping: the
  sources that arrived since the cache was last cleared (`arrivals`).  Storing under a
  source is an arrival when the source is not among the last `capacity` arrivals; an
  arrival is never taken off the list, so a source that was dropped and comes back is
  on it twice.

  The invariant `FormatCache.Simulates` says that the keys are the end of that list
  and that every key has the layout stored last.  Each request keeps it
  (`simulates_step`), so it holds after every run (`holds_last_arrivals`).
-/
import ListenerReview.Proofs.Layout.Queue
import Mathlib.Data.List.Induction

namespace ListenerReview.FormatCache

/-! ### Requests -/

/-- What may be asked of a cache. -/
inductive Request where
  | insert (source layout : String)
  | get (source : String)
  | contains (source : String)
  | clear

/-- The cache after a request. -/
def step (cache : FormatCache) : Request → FormatCache
  | .insert source layout => cache.insert source layout
  | .get source => (cache.get source).2
  | .contains _ => cache
  | .clear => cache.clear

/-- An empty cache after requests. -/
def after (capacity : Nat) (requests : List Request) : FormatCache :=
  requests.foldl step (empty capacity)

theorem after_concat (capacity : Nat) (requests : List Request) (request : Request) :
    after capacity (requests ++ [request]) = (after capacity requests).step request :=
  List.foldl_concat _ _ _ _

/-! ### Arrivals -/

/-- The arrivals when one more request is made. -/
def arrive (capacity : Nat) (arrived : List String) : Request → List String
  | .insert source _ => if source ∈ arrived.rtake capacity then arrived else arrived ++ [source]
  | .clear => []
  | _ => arrived

/-- The sources that arrived since the last clearing, the oldest first. -/
def arrivals (capacity : Nat) (requests : List Request) : List String :=
  requests.foldl (arrive capacity) []

theorem arrivals_concat (capacity : Nat) (requests : List Request) (request : Request) :
    arrivals capacity (requests ++ [request]) =
      arrive capacity (arrivals capacity requests) request :=
  List.foldl_concat _ _ _ _

/-- A source that comes again while it is held does not arrive; one that was dropped does. -/
example :
    arrivals 2 [.insert "a" "1", .insert "b" "2", .insert "a" "3", .insert "c" "4",
      .insert "a" "5"] = ["a", "b", "c", "a"] := by decide

/-- The layout that a request stores under a source. -/
def Request.layout? (source : String) : Request → Option String
  | .insert other layout => if other = source then some layout else none
  | _ => none

/-- The layout that was stored last under a source. -/
def lastLayout? (source : String) (requests : List Request) : Option String :=
  (requests.filterMap (Request.layout? source)).getLast?

theorem lastLayout?_concat (source : String) (requests : List Request) (request : Request) :
    lastLayout? source (requests ++ [request]) =
      (request.layout? source).or (lastLayout? source requests) := by
  rw [lastLayout?, List.filterMap_append, List.getLast?_append]
  cases hlayout : request.layout? source <;> simp [hlayout, lastLayout?]

/-! ### Entries after a layout is stored -/

theorem getElem?_setEntry (entries : Std.HashMap String String) (source layout other : String) :
    (entries.insert source layout)[other]? =
      if other = source then some layout else entries[other]? := by
  by_cases heq : other = source
  · subst heq
    simp
  · rw [if_neg heq, Std.HashMap.getElem?_insert, if_neg]
    simpa using Ne.symm heq

variable {cache : FormatCache}

/-- Storing a layout gives it to its source, and leaves the other sources that stay held alone. -/
theorem getElem?_insert (h : cache.Queued) (source layout : String) {other : String}
    (hother : other ∈ (cache.insert source layout).order) :
    (cache.insert source layout).entries[other]? =
      if other = source then some layout else cache.entries[other]? := by
  rcases insert_cases h source layout with ⟨hzero, hinsert⟩ | ⟨-, hinsert⟩ |
    ⟨-, ⟨oldest, order, horder⟩, -, hinsert⟩ | ⟨-, -, hinsert⟩
  -- without any room there are no keys
  · have hle := h.size_le
    rw [hinsert] at hother
    rw [hzero, Nat.le_zero, List.length_eq_zero_iff] at hle
    rw [hle] at hother
    cases hother
  · rw [hinsert]
    exact getElem?_setEntry cache.entries source layout other
  -- the entry that makes room is not that of a source that stays
  · obtain ⟨hentries, horder', -⟩ := evictOldest_of_cons horder
    rw [hinsert] at hother ⊢
    rw [append, horder', List.mem_append, List.mem_singleton] at hother
    rw [append, getElem?_setEntry, hentries]
    split
    · rfl
    · next hne =>
      have hstays : other ∈ order := hother.resolve_right hne
      rw [Std.HashMap.getElem?_erase, if_neg]
      simp only [beq_iff_eq]
      rintro rfl
      exact h.oldest_not_mem horder hstays
  · rw [hinsert]
    exact getElem?_setEntry cache.entries source layout other

/-- A source that is held after a layout is stored is the one of the layout or was held before. -/
theorem mem_order_of_insert (h : cache.Queued) (source layout : String) {other : String}
    (hother : other ∈ (cache.insert source layout).order) :
    other = source ∨ other ∈ cache.order := by
  rw [order_insert h] at hother
  split at hother
  · exact Or.inr hother
  · rw [List.rtake] at hother
    rcases List.mem_append.mp (List.mem_of_mem_drop hother) with hold | hnew
    · exact Or.inr hold
    · exact Or.inl (List.mem_singleton.mp hnew)

/-! ### The invariant -/

/-- A cache holds what the requests made so far ask it to hold. -/
structure Simulates (capacity : Nat) (requests : List Request) (cache : FormatCache) : Prop where
  capacity_eq : cache.capacity = capacity
  queued : cache.Queued
  order_eq : cache.order = (arrivals capacity requests).rtake capacity
  layout_eq : ∀ source ∈ cache.order, cache.entries[source]? = lastLayout? source requests

variable {capacity : Nat} {requests : List Request}

theorem simulates_empty (capacity : Nat) : Simulates capacity [] (empty capacity) where
  capacity_eq := rfl
  queued := queued_empty capacity
  order_eq := by simp [arrivals, empty]
  layout_eq := by simp [empty]

theorem simulates_insert (h : Simulates capacity requests cache) (source layout : String) :
    Simulates capacity (requests ++ [.insert source layout]) (cache.insert source layout) where
  capacity_eq := (capacity_insert cache source layout).trans h.capacity_eq
  queued := queued_insert h.queued source layout
  order_eq := by
    rw [order_insert h.queued, arrivals_concat, arrive, ← h.order_eq, h.capacity_eq]
    split
    · exact h.order_eq
    · rw [h.order_eq]
      exact rtake_concat_rtake (arrivals capacity requests) source capacity
  layout_eq := by
    intro other hother
    rw [getElem?_insert h.queued source layout hother, lastLayout?_concat, Request.layout?]
    by_cases heq : other = source
    · rw [if_pos heq, if_pos heq.symm]
      rfl
    · rw [if_neg heq, if_neg (Ne.symm heq), Option.none_or]
      exact h.layout_eq other ((mem_order_of_insert h.queued source layout hother).resolve_left heq)

theorem simulates_get (h : Simulates capacity requests cache) (source : String) :
    Simulates capacity (requests ++ [.get source]) (cache.get source).2 := by
  obtain ⟨hentries, horder, hcapacity⟩ := get_keeps cache source
  refine ⟨hcapacity.trans h.capacity_eq, queued_get h.queued source, ?_, ?_⟩
  · rw [horder, arrivals_concat]
    exact h.order_eq
  · intro other hother
    rw [horder] at hother
    rw [hentries, lastLayout?_concat]
    exact h.layout_eq other hother

theorem simulates_contains (h : Simulates capacity requests cache) (source : String) :
    Simulates capacity (requests ++ [.contains source]) cache where
  capacity_eq := h.capacity_eq
  queued := h.queued
  order_eq := by
    rw [arrivals_concat]
    exact h.order_eq
  layout_eq := by
    intro other hother
    rw [lastLayout?_concat]
    exact h.layout_eq other hother

theorem simulates_clear (h : Simulates capacity requests cache) :
    Simulates capacity (requests ++ [.clear]) cache.clear where
  capacity_eq := h.capacity_eq
  queued := queued_clear cache
  order_eq := by
    rw [arrivals_concat]
    simp [arrive, clear]
  layout_eq := by simp [clear]

theorem simulates_step (h : Simulates capacity requests cache) (request : Request) :
    Simulates capacity (requests ++ [request]) (cache.step request) := by
  cases request with
  | insert source layout => exact simulates_insert h source layout
  | get source => exact simulates_get h source
  | contains source => exact simulates_contains h source
  | clear => exact simulates_clear h

theorem simulates_after (capacity : Nat) (requests : List Request) :
    Simulates capacity requests (after capacity requests) := by
  induction requests using List.reverseRecOn with
  | nil => exact simulates_empty capacity
  | append_singleton requests request ih =>
    rw [after_concat]
    exact simulates_step ih request

/-! ### What is held -/

theorem Simulates.getElem?_entries (h : Simulates capacity requests cache) (source : String) :
    cache.entries[source]? =
      if source ∈ cache.order then lastLayout? source requests else none := by
  split
  · next hmem => exact h.layout_eq source hmem
  · next hmem =>
    rw [← h.queued.mem_entries_iff] at hmem
    exact Std.HashMap.getElem?_eq_none hmem

/-- Looking an entry up changes nothing but the counts. -/
theorem get_snd (cache : FormatCache) (source : String) :
    ∃ counts, (cache.get source).2 = { cache with counts := counts } := by
  unfold get
  split
  · exact ⟨_, rfl⟩
  · exact ⟨_, rfl⟩

/-- A layout stored under a source that is held takes the place of the old one. -/
theorem insert_of_mem (h : cache.Queued) {source : String} (hmem : source ∈ cache.order)
    (layout : String) :
    cache.insert source layout =
      { cache with entries := cache.entries.insert source layout } := by
  rcases insert_cases h source layout with ⟨hzero, -⟩ | ⟨-, hinsert⟩ | ⟨hnew, -⟩ | ⟨hnew, -⟩
  · have hlength := List.length_pos_of_mem hmem
    have hle := h.size_le
    omega
  · exact hinsert
  · exact absurd hmem hnew
  · exact absurd hmem hnew

/-- **A cache is a bounded queue.**  After any requests the order names the key of every entry once
    and nothing else, and there are no more of them than the capacity.  The keys, oldest first, are
    the last `capacity` of the sources that arrived since the last clearing, where storing under a
    source is an arrival exactly when the cache has no entry for it; every key has the layout that
    was stored last.  Looking up gives that layout or nothing and changes only the counts, and
    storing under a key that is held changes only its layout. -/
theorem holds_last_arrivals (capacity : Nat) (requests : List Request) :
    let cache := after capacity requests
    let arrived := arrivals capacity requests
    (cache.order.Nodup ∧ (∀ source, source ∈ cache.order ↔ source ∈ cache.entries) ∧
        cache.size = cache.order.length ∧ cache.size ≤ capacity) ∧
      (cache.order = arrived.rtake capacity ∧ cache.size = min capacity arrived.length) ∧
      (∀ source layout, arrivals capacity (requests ++ [.insert source layout]) =
        if cache.contains source then arrived else arrived ++ [source]) ∧
      (∀ source, cache.entries[source]? =
        if source ∈ cache.order then lastLayout? source requests else none) ∧
      (∀ source, (cache.get source).1 = cache.entries[source]? ∧
        ∃ counts, (cache.get source).2 = { cache with counts := counts }) ∧
      ∀ source layout, cache.contains source = true →
        (∃ entries, cache.insert source layout = { cache with entries := entries }) ∧
          ∀ other, (cache.insert source layout).entries[other]? =
            if other = source then some layout else cache.entries[other]? := by
  intro cache arrived
  have h : Simulates capacity requests cache := simulates_after capacity requests
  have hsize : cache.size ≤ capacity := by
    rw [h.queued.size_eq, ← h.capacity_eq]
    exact h.queued.size_le
  refine ⟨⟨h.queued.nodup, fun source => (h.queued.mem_entries_iff source).symm, h.queued.size_eq,
    hsize⟩, ⟨h.order_eq, ?_⟩, ?_, h.getElem?_entries, ?_, ?_⟩
  · rw [h.queued.size_eq, h.order_eq, List.rtake, List.length_drop]
    exact Nat.sub_sub_eq_min arrived.length capacity |>.trans (Nat.min_comm _ _)
  · intro source layout
    rw [arrivals_concat, arrive, ← h.order_eq]
    simp only [h.queued.contains_iff]
    rfl
  · exact fun source => ⟨get_fst cache source, get_snd cache source⟩
  · intro source layout hcontains
    have hmem : source ∈ cache.order := (h.queued.contains_iff source).mp hcontains
    rw [insert_of_mem h.queued hmem]
    exact ⟨⟨_, rfl⟩, getElem?_setEntry cache.entries source layout⟩

end ListenerReview.FormatCache
