/-
  ListenerReview/Proofs/Layout/Queue.lean
  =======================================
  **A cache is a queue of its keys.**

  A cache keeps its keys twice, as the keys of its entries and in order of arrival.
  `FormatCache.Queued` says that the two agree and that there are at most `capacity`
  of them.  Every operation keeps it, and under it the order after storing a new
  layout is the last `capacity` keys of the old order and the new key
  (`FormatCache.order_insert`): what is dropped is always the oldest arrival.
-/
import ListenerReview.Layout.Cache
import Mathlib.Data.List.DropRight

namespace ListenerReview

/-! ### The end of a list -/

section End

variable {α : Type}

/-- Of the last items and one more, the last are those of the whole list and one more. -/
theorem rtake_concat_rtake (l : List α) (a : α) (n : Nat) :
    (l.rtake n ++ [a]).rtake n = (l ++ [a]).rtake n := by
  cases n with
  | zero => simp
  | succ n =>
    rw [List.rtake_concat_succ, List.rtake_concat_succ]
    congr 1
    simp only [List.rtake_eq_reverse_take_reverse, List.reverse_reverse, List.take_take]
    congr 2
    omega

/-- An item is among the last `n` when fewer than `n` follow its last occurrence. -/
theorem mem_rtake_iff (l : List α) (a : α) (n : Nat) :
    a ∈ l.rtake n ↔ ∃ older newer, l = older ++ a :: newer ∧ a ∉ newer ∧ newer.length < n := by
  constructor
  · intro hmem
    have hrev : a ∈ (l.rtake n).reverse := List.mem_reverse.mpr hmem
    obtain ⟨newer, older, hsplit, hnot⟩ := List.eq_append_cons_of_mem hrev
    have hlast : l.rtake n = older.reverse ++ a :: newer.reverse := by
      rw [← List.reverse_reverse (l.rtake n), hsplit]
      simp
    have hlength : newer.length < n := by
      have htake := congrArg List.length hsplit
      simp only [List.rtake_eq_reverse_take_reverse, List.length_reverse, List.length_take,
        List.length_append, List.length_cons] at htake
      omega
    refine ⟨l.take (l.length - n) ++ older.reverse, newer.reverse, ?_, ?_, ?_⟩
    · rw [List.append_assoc, ← hlast, List.rtake, List.take_append_drop]
    · simpa using hnot
    · simpa using hlength
  · rintro ⟨older, newer, rfl, -, hlength⟩
    have hdrop : (older ++ a :: newer).length - n ≤ older.length := by
      simp only [List.length_append, List.length_cons]
      omega
    rw [List.rtake, List.drop_append_of_le_length hdrop]
    simp

end End

namespace FormatCache

/-- The order holds the keys of the entries, each once, and no more than there is room for. -/
structure Queued (cache : FormatCache) : Prop where
  contains_iff : ∀ source, cache.contains source = true ↔ source ∈ cache.order
  nodup : cache.order.Nodup
  size_eq : cache.size = cache.order.length
  size_le : cache.order.length ≤ cache.capacity

variable {cache : FormatCache}

/-- The keys of the entries are those of the order. -/
theorem Queued.mem_entries_iff (h : cache.Queued) (source : String) :
    source ∈ cache.entries ↔ source ∈ cache.order := by
  rw [← Std.HashMap.contains_iff_mem, ← contains, h.contains_iff]

/-- The oldest key does not come again. -/
theorem Queued.oldest_not_mem (h : cache.Queued) {oldest : String} {order : List String}
    (horder : cache.order = oldest :: order) : oldest ∉ order := by
  have hnodup := h.nodup
  rw [horder] at hnodup
  exact (List.nodup_cons.mp hnodup).1

theorem queued_empty (capacity : Nat) : (empty capacity).Queued where
  contains_iff source := by simp [empty, contains]
  nodup := List.nodup_nil
  size_eq := by simp [empty, size]
  size_le := Nat.zero_le capacity

theorem queued_clear (cache : FormatCache) : cache.clear.Queued where
  contains_iff source := by simp [clear, contains]
  nodup := List.nodup_nil
  size_eq := by simp [clear, size]
  size_le := Nat.zero_le cache.capacity

theorem queued_get (h : cache.Queued) (source : String) : (cache.get source).2.Queued := by
  obtain ⟨hentries, horder, hcapacity⟩ := get_keeps cache source
  constructor
  · intro other
    rw [horder, ← h.contains_iff other, contains, contains, hentries]
  · rw [horder]
    exact h.nodup
  · rw [horder, ← h.size_eq, size, size, hentries]
  · rw [horder, hcapacity]
    exact h.size_le

theorem evictOldest_of_cons {oldest : String} {order : List String}
    (horder : cache.order = oldest :: order) :
    cache.evictOldest.entries = cache.entries.erase oldest ∧ cache.evictOldest.order = order ∧
      cache.evictOldest.capacity = cache.capacity := by
  unfold evictOldest
  rw [horder]
  exact ⟨rfl, rfl, rfl⟩

/-- Dropping the oldest entry removes its key from both sides. -/
theorem queued_evictOldest (h : cache.Queued) : cache.evictOldest.Queued := by
  rcases horder : cache.order with _ | ⟨oldest, order⟩
  · have hsame : cache.evictOldest = cache := by
      unfold evictOldest
      rw [horder]
    rw [hsame]
    exact h
  · obtain ⟨hentries, horder', hcapacity⟩ := evictOldest_of_cons horder
    have holdest : oldest ∈ cache.entries := by
      rw [h.mem_entries_iff, horder]
      exact List.mem_cons_self
    constructor
    · intro source
      rw [contains, hentries, horder', Std.HashMap.contains_erase, Bool.and_eq_true, ← contains,
        h.contains_iff, horder, List.mem_cons]
      constructor
      · rintro ⟨hne, rfl | hmem⟩
        · simp at hne
        · exact hmem
      · intro hmem
        refine ⟨?_, Or.inr hmem⟩
        simp only [Bool.not_eq_true', beq_eq_false_iff_ne]
        rintro rfl
        exact h.oldest_not_mem horder hmem
    · have hnodup := h.nodup
      rw [horder] at hnodup
      rw [horder']
      exact (List.nodup_cons.mp hnodup).2
    · have hsize := h.size_eq
      rw [size, horder, List.length_cons] at hsize
      rw [size, hentries, horder', Std.HashMap.size_erase, if_pos holdest, hsize]
      omega
    · have hle := h.size_le
      rw [horder, List.length_cons] at hle
      rw [horder', hcapacity]
      omega

/-- A new key may be added at the end while there is room. -/
theorem queued_append (h : cache.Queued) {source : String} (hnew : source ∉ cache.order)
    (hroom : cache.order.length < cache.capacity) (layout : String) :
    (cache.append source layout).Queued := by
  have habsent : source ∉ cache.entries := (h.mem_entries_iff source).not.mpr hnew
  constructor
  · intro other
    have hother := h.contains_iff other
    simp only [contains] at hother
    simp only [contains, append, Std.HashMap.contains_insert, Bool.or_eq_true, hother, beq_iff_eq,
      List.mem_append, List.mem_singleton]
    constructor
    · rintro (rfl | hmem)
      · exact Or.inr rfl
      · exact Or.inl hmem
    · rintro (hmem | rfl)
      · exact Or.inr hmem
      · exact Or.inl rfl
  · simp only [append, List.nodup_append]
    refine ⟨h.nodup, by simp, ?_⟩
    intro other hother key hkey heq
    rw [List.mem_singleton.mp hkey] at heq
    exact hnew (heq ▸ hother)
  · have hsize := h.size_eq
    rw [size] at hsize
    simp only [size, append, Std.HashMap.size_insert, if_neg habsent, List.length_append,
      List.length_singleton, hsize]
  · simp only [append, List.length_append, List.length_singleton]
    omega

/-- What storing a layout under a key does, case by case. -/
theorem insert_cases (h : cache.Queued) (source layout : String) :
    (cache.capacity = 0 ∧ cache.insert source layout = cache) ∨
    (source ∈ cache.order ∧
      cache.insert source layout =
        { cache with entries := cache.entries.insert source layout }) ∨
    (source ∉ cache.order ∧ (∃ oldest order, cache.order = oldest :: order) ∧
      cache.order.length = cache.capacity ∧
      cache.insert source layout = cache.evictOldest.append source layout) ∨
    (source ∉ cache.order ∧ cache.order.length < cache.capacity ∧
      cache.insert source layout = cache.append source layout) := by
  by_cases hzero : cache.capacity = 0
  · exact Or.inl ⟨hzero, by rw [insert, if_pos hzero]⟩
  · by_cases hmem : source ∈ cache.order
    · refine Or.inr (Or.inl ⟨hmem, ?_⟩)
      rw [insert, if_neg hzero, if_pos ((h.contains_iff source).mpr hmem)]
    · have hnot : ¬ cache.contains source = true := fun hc => hmem ((h.contains_iff source).mp hc)
      have hle := h.size_le
      by_cases hfull : cache.capacity ≤ cache.size
      · refine Or.inr (Or.inr (Or.inl ⟨hmem, ?_, ?_, ?_⟩))
        · rcases horder : cache.order with _ | ⟨oldest, order⟩
          · rw [h.size_eq, horder, List.length_nil] at hfull
            omega
          · exact ⟨oldest, order, rfl⟩
        · rw [h.size_eq] at hfull
          omega
        · rw [insert, if_neg hzero, if_neg hnot, if_pos hfull]
      · refine Or.inr (Or.inr (Or.inr ⟨hmem, ?_, ?_⟩))
        · rw [h.size_eq] at hfull
          omega
        · rw [insert, if_neg hzero, if_neg hnot, if_neg hfull]

theorem queued_insert (h : cache.Queued) (source layout : String) :
    (cache.insert source layout).Queued := by
  rcases insert_cases h source layout with ⟨-, hinsert⟩ | ⟨hmem, hinsert⟩ |
    ⟨hnew, ⟨oldest, order, horder⟩, hfull, hinsert⟩ | ⟨hnew, hroom, hinsert⟩
  · rw [hinsert]
    exact h
  · rw [hinsert]
    have hpresent : source ∈ cache.entries := (h.mem_entries_iff source).mpr hmem
    refine ⟨?_, h.nodup, ?_, h.size_le⟩
    · intro other
      rw [← h.contains_iff other]
      simp only [contains, Std.HashMap.contains_insert, Bool.or_eq_true, beq_iff_eq]
      constructor
      · rintro (rfl | hother)
        · exact Std.HashMap.contains_iff_mem.mpr hpresent
        · exact hother
      · exact Or.inr
    · have hsize := h.size_eq
      rw [size] at hsize
      simp only [size, Std.HashMap.size_insert, if_pos hpresent, hsize]
  · rw [hinsert]
    obtain ⟨-, horder', hcapacity⟩ := evictOldest_of_cons horder
    rw [horder, List.length_cons] at hfull
    apply queued_append (queued_evictOldest h)
    · rw [horder']
      exact fun hmem => hnew (horder ▸ List.mem_cons_of_mem oldest hmem)
    · rw [horder', hcapacity]
      omega
  · rw [hinsert]
    exact queued_append h hnew hroom layout

/-- **The oldest arrival makes room.**  Storing under a key that is present leaves the order alone;
    after storing under a new one, the order is the last `capacity` of the arrivals. -/
theorem order_insert (h : cache.Queued) (source layout : String) :
    (cache.insert source layout).order =
      if source ∈ cache.order then cache.order
      else (cache.order ++ [source]).rtake cache.capacity := by
  rcases insert_cases h source layout with ⟨hzero, hinsert⟩ | ⟨hmem, hinsert⟩ |
    ⟨hnew, ⟨oldest, order, horder⟩, hfull, hinsert⟩ | ⟨hnew, hroom, hinsert⟩
  -- without any room, no key ever arrives
  · have hnil : cache.order = [] := by
      have hle := h.size_le
      rw [hzero] at hle
      exact List.length_eq_zero_iff.mp (Nat.le_zero.mp hle)
    rw [hinsert, hnil, hzero]
    simp
  · rw [hinsert, if_pos hmem]
  -- a full cache drops one key
  · rw [hinsert, if_neg hnew, ← hfull]
    obtain ⟨-, horder', -⟩ := evictOldest_of_cons horder
    simp only [append, horder', horder, List.rtake, List.length_append, List.length_cons,
      List.length_nil]
    have hone : order.length + 1 + (0 + 1) - (order.length + 1) = 1 := by omega
    rw [hone]
    rfl
  -- while there is room, nothing is dropped
  · rw [hinsert, if_neg hnew, List.rtake]
    have hnone : (cache.order ++ [source]).length - cache.capacity = 0 := by
      simp only [List.length_append, List.length_singleton]
      omega
    rw [hnone]
    rfl

end FormatCache

end ListenerReview
