/-
  ListenerReview/Proofs/Layout/Counts.lean
  ========================================
  **What the counts of a cache count** — every source that is looked for is one hit or
  one miss.

  Only sources that are neither empty nor over the ceiling are looked for
  (`Formatter.looksUp`).  Storing a layout and dropping an entry leave hits and misses
  alone, so one answer raises one of them by one, or neither
  (`Formatter.counts_format`), and a list of answers raises them by as many as it has
  sources to look for (`Formatter.counts_formatAll`).
-/
import ListenerReview.Proofs.Layout.Requests

namespace ListenerReview

/-! ### One operation -/

namespace FormatCache

theorem counts_evictOldest (cache : FormatCache) :
    cache.evictOldest.counts.hits = cache.counts.hits ∧
      cache.evictOldest.counts.misses = cache.counts.misses := by
  unfold evictOldest
  split <;> exact ⟨rfl, rfl⟩

/-- Storing a layout is neither a hit nor a miss. -/
theorem counts_insert (cache : FormatCache) (source layout : String) :
    (cache.insert source layout).counts.hits = cache.counts.hits ∧
      (cache.insert source layout).counts.misses = cache.counts.misses := by
  unfold insert
  split
  · exact ⟨rfl, rfl⟩
  · split
    · exact ⟨rfl, rfl⟩
    · split
      · exact counts_evictOldest cache
      · exact ⟨rfl, rfl⟩

theorem counts_get_of_some {cache : FormatCache} {source layout : String}
    (h : cache.entries[source]? = some layout) :
    (cache.get source).2.counts = { cache.counts with hits := cache.counts.hits + 1 } := by
  rw [get, h]

theorem counts_get_of_none {cache : FormatCache} {source : String}
    (h : cache.entries[source]? = none) :
    (cache.get source).2.counts = { cache.counts with misses := cache.counts.misses + 1 } := by
  rw [get, h]

end FormatCache

namespace Formatter

/-! ### One answer -/

/-- Whether a formatter of the given ceiling looks for a source in its cache. -/
def looksUp (ceiling : Nat) (source : String) : Bool :=
  source ≠ "" && !decide (ceiling < Text.units16 source.toList)

/-- A source that is looked for is a hit or a miss, and any other is neither. -/
theorem toNat_cacheHit_add_toNat_misses (formatter : Formatter) (source : String) :
    (formatter.format source).1.cacheHit.toNat + (formatter.misses source).toNat =
      (looksUp formatter.ceiling source).toNat := by
  rcases format_cases formatter source with ⟨rfl, hformat⟩ | ⟨-, hover, hformat⟩ |
    ⟨hne, hfits, layout, -, hformat⟩ | ⟨hne, hfits, -, hformat⟩
  · simp [misses, looksUp, hformat]
  · simp [misses, looksUp, hformat, hover]
  · simp [misses, looksUp, hformat, hne, Nat.not_lt.mpr hfits]
  · simp [misses, looksUp, hformat, hne, Nat.not_lt.mpr hfits]

theorem counts_format (formatter : Formatter) (source : String) :
    (formatter.format source).2.cache.counts.hits =
        formatter.cache.counts.hits + (formatter.format source).1.cacheHit.toNat ∧
      (formatter.format source).2.cache.counts.misses =
        formatter.cache.counts.misses + (formatter.misses source).toNat := by
  rcases format_cases formatter source with ⟨rfl, hformat⟩ | ⟨-, -, hformat⟩ |
    ⟨-, -, layout, hentry, hformat⟩ | ⟨hne, -, habsent, hformat⟩
  · simp [misses, hformat]
  · simp [misses, hformat]
  · simp [misses, hformat, FormatCache.counts_get_of_some hentry]
  · obtain ⟨hhits, hmisses⟩ := FormatCache.counts_insert (formatter.cache.get source).2 source
      (Layout.reformatString formatter.indentUnit source)
    rw [FormatCache.counts_get_of_none habsent] at hhits hmisses
    simp [misses, hformat, hne, hhits, hmisses]

/-! ### A list of answers -/

/-- An item is counted once or not at all. -/
theorem countP_cons_toNat {α : Type} (p : α → Bool) (a : α) (l : List α) :
    (a :: l).countP p = (p a).toNat + l.countP p := by
  cases ha : p a with
  | true => rw [List.countP_cons_of_pos ha, Bool.toNat_true, Nat.add_comm]
  | false => rw [List.countP_cons_of_neg (by simp [ha]), Bool.toNat_false, Nat.zero_add]

/-- Hits are counted as the answers tell them, and with the misses they are as many as there are
    sources to look for. -/
theorem counts_formatAll (formatter : Formatter) (sources : List String) :
    let answers := (formatter.formatAll sources).1
    let later := (formatter.formatAll sources).2.cache.counts
    ∃ missed,
      later.hits = formatter.cache.counts.hits + answers.countP (·.cacheHit) ∧
        later.misses = formatter.cache.counts.misses + missed ∧
        answers.countP (·.cacheHit) + missed = sources.countP (looksUp formatter.ceiling) := by
  induction sources generalizing formatter with
  | nil => exact ⟨0, rfl, rfl, rfl⟩
  | cons source sources ih =>
    obtain ⟨missed, hhits, hmisses, hsum⟩ := ih (formatter.format source).2
    obtain ⟨hhit, hmiss⟩ := counts_format formatter source
    have hone := toNat_cacheHit_add_toNat_misses formatter source
    rw [(format_keeps formatter source).2] at hsum
    refine ⟨(formatter.misses source).toNat + missed, ?_, ?_, ?_⟩
    · rw [formatAll_cons, countP_cons_toNat, hhits, hhit, Nat.add_assoc]
    · rw [formatAll_cons, hmisses, hmiss, Nat.add_assoc]
    · rw [formatAll_cons, countP_cons_toNat, countP_cons_toNat]
      omega

end Formatter

end ListenerReview
