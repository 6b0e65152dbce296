/-
  ListenerReview/Proofs/Layout/Ceiling.lean
  =========================================
  **The ceiling counts UTF-16 units, whatever is counted first.**

  Whether a source is over the ceiling is decided in two steps: its bytes are compared
  first, and its UTF-16 units only if there are too many bytes.  As no text has fewer
  bytes than units, the first step lets no source pass that the second one would stop
  (`Formatter.exceeds_iff`), and the formatter leaves a source as it is exactly when its
  UTF-16 form is longer than the ceiling (`Formatter.exceeds_iff_length_utf16`).
-/
import ListenerReview.Layout.Formatter
import ListenerReview.Proofs.Text.Units

namespace ListenerReview.Formatter

/-- Counting the bytes first changes nothing. -/
theorem exceeds_iff (ceiling : Nat) (source : String) :
    exceeds ceiling source = true ↔ ceiling < Text.units16 source.toList := by
  simp only [exceeds, Bool.and_eq_true, decide_eq_true_eq]
  constructor
  · rintro ⟨-, h⟩
    exact h
  · intro h
    exact ⟨Nat.lt_of_lt_of_le h (Text.units16_le_utf8ByteSize source), h⟩

/-- Only a source over the ceiling is passed on as it is, and it is no hit. -/
theorem format_skipped (formatter : Formatter) (source : String) :
    (formatter.format source).1.skippedForSize =
      decide (formatter.ceiling < Text.units16 source.toList) := by
  unfold format
  split
  · next hempty =>
    have hsource : source = "" := by simpa using hempty
    subst hsource
    simp [Text.units16]
  · split
    · next hexceeds =>
      simp [(exceeds_iff _ _).mp hexceeds]
    · next hexceeds =>
      have hfits : ¬ formatter.ceiling < Text.units16 source.toList :=
        fun hover => hexceeds ((exceeds_iff _ _).mpr hover)
      split <;> simp [hfits]

/-- **The ceiling is exact.** The UTF-16 form of a source is the one sequence of units that is read
    as that source. Whatever the ceiling, a source is over it if and only if that form has more
    units than the ceiling, although its bytes are looked at first: there are never fewer bytes
    than units. So a formatter skips exactly the sources whose form is longer than its ceiling,
    whatever its unit of indentation and whatever it remembers. -/
theorem exceeds_iff_length_utf16 (ceiling : Nat) (source : String) :
    (∀ units, Text.textOfUnits? units = some source.toList ↔ units = Text.utf16 source.toList) ∧
      (exceeds ceiling source = true ↔ ceiling < (Text.utf16 source.toList).length) ∧
      (Text.utf16 source.toList).length ≤ source.utf8ByteSize ∧
      ∀ unit cache, ((⟨unit, cache, ceiling⟩ : Formatter).format source).1.skippedForSize = true ↔
        ceiling < (Text.utf16 source.toList).length := by
  rw [Text.length_utf16]
  refine ⟨?_, ?_, ?_, ?_⟩
  · intro units
    exact Text.textOfUnits?_eq_some_iff
  · exact exceeds_iff ceiling source
  · exact Text.units16_le_utf8ByteSize source
  · intro unit cache
    rw [format_skipped, decide_eq_true_eq]

example : "é😀;é😀;".utf8ByteSize = 14 ∧ exceeds 8 "é😀;é😀;" = false ∧
    exceeds 7 "é😀;é😀;" = true := by
  decide

end ListenerReview.Formatter
