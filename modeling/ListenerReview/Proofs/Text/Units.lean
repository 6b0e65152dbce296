/-
  ListenerReview/Proofs/Text/Units.lean
  =====================================
  **The UTF-16 form of a text, and its length beside that in UTF-8.**

  A character of the basic plane is written as one unit, its code point.  Any other is
  written as a pair: a high and a low surrogate share out the twenty bits by which it
  lies beyond that plane.  Reading joins the pairs again and refuses a surrogate that
  stands alone.  What is read as a text is its written form and nothing else
  (`textOfUnits?_eq_some_iff`), so the units of a text are well determined, and
  `units16` counts them (`length_utf16`).

  In UTF-8 a text is longer than in UTF-16 by one for each character from U+0080 on and
  by another one for each from U+0800 on (`utf8ByteSize_eq`); it is never shorter.
-/
import ListenerReview.Text.Measure

namespace ListenerReview.Text

/-! ### Code points -/

theorem toNat_ofNat {n : Nat} (h : n.isValidChar) : (Char.ofNat n).toNat = n := by
  rw [Char.ofNat, dif_pos h]
  rfl

theorem toNat_unit {n : Nat} (h : n < 0x10000) : (UInt16.ofNat n).toNat = n := by
  rw [UInt16.toNat_ofNat', Nat.mod_eq_of_lt h]

/-! ### Writing and reading UTF-16 -/

/-- A unit that is the first of a pair. -/
def isHighSurrogate (u : UInt16) : Bool := 0xD800 ≤ u.toNat && u.toNat < 0xDC00

/-- A unit that is the second of a pair. -/
def isLowSurrogate (u : UInt16) : Bool := 0xDC00 ≤ u.toNat && u.toNat < 0xE000

/-- The character that a pair of surrogates stands for. -/
def paired (high low : UInt16) : Char :=
  .ofNat (0x10000 + (high.toNat - 0xD800) * 0x400 + (low.toNat - 0xDC00))

/-- The UTF-16 units of a character. -/
def charUtf16 (c : Char) : List UInt16 :=
  if c.toNat < 0x10000 then [.ofNat c.toNat]
  else
    [.ofNat (0xD800 + (c.toNat - 0x10000) / 0x400), .ofNat (0xDC00 + (c.toNat - 0x10000) % 0x400)]

/-- The UTF-16 units of a text. -/
def utf16 (s : List Char) : List UInt16 := s.flatMap charUtf16

/-- The text that is written in UTF-16 units; none if a surrogate stands alone. -/
def textOfUnits? : List UInt16 → Option (List Char)
  | [] => some []
  | u :: us =>
    if isHighSurrogate u then
      match us with
      | [] => none
      | v :: us => if isLowSurrogate v then (textOfUnits? us).map (paired u v :: ·) else none
    else if isLowSurrogate u then none
    else (textOfUnits? us).map (.ofNat u.toNat :: ·)

theorem utf16_cons (c : Char) (s : List Char) : utf16 (c :: s) = charUtf16 c ++ utf16 s :=
  List.flatMap_cons

theorem isHighSurrogate_iff (u : UInt16) :
    isHighSurrogate u = true ↔ 0xD800 ≤ u.toNat ∧ u.toNat < 0xDC00 := by
  simp [isHighSurrogate]

theorem isLowSurrogate_iff (u : UInt16) :
    isLowSurrogate u = true ↔ 0xDC00 ≤ u.toNat ∧ u.toNat < 0xE000 := by
  simp [isLowSurrogate]

/-- A character is one unit that is no surrogate, or a pair of surrogates that stands for it. -/
theorem charUtf16_cases (c : Char) :
    (∃ u, charUtf16 c = [u] ∧ ¬ isHighSurrogate u = true ∧ ¬ isLowSurrogate u = true ∧
      .ofNat u.toNat = c) ∨
    (∃ high low, charUtf16 c = [high, low] ∧ isHighSurrogate high = true ∧
      isLowSurrogate low = true ∧ paired high low = c) := by
  have hvalid : c.toNat < 0xD800 ∨ 0xDFFF < c.toNat ∧ c.toNat < 0x110000 := c.valid
  by_cases hplane : c.toNat < 0x10000
  · have hunit := toNat_unit hplane
    refine Or.inl ⟨.ofNat c.toNat, if_pos hplane, ?_, ?_, ?_⟩
    · rw [isHighSurrogate_iff, hunit]
      omega
    · rw [isLowSurrogate_iff, hunit]
      omega
    · rw [hunit, Char.ofNat_toNat]
  · have hhigh := toNat_unit (show 0xD800 + (c.toNat - 0x10000) / 0x400 < 0x10000 by omega)
    have hlow := toNat_unit (show 0xDC00 + (c.toNat - 0x10000) % 0x400 < 0x10000 by omega)
    refine Or.inr ⟨_, _, if_neg hplane, ?_, ?_, ?_⟩
    · rw [isHighSurrogate_iff, hhigh]
      omega
    · rw [isLowSurrogate_iff, hlow]
      omega
    · have hcode : 0x10000 + (0xD800 + (c.toNat - 0x10000) / 0x400 - 0xD800) * 0x400 +
          (0xDC00 + (c.toNat - 0x10000) % 0x400 - 0xDC00) = c.toNat := by
        omega
      rw [paired, hhigh, hlow, hcode, Char.ofNat_toNat]

theorem textOfUnits?_charUtf16 (c : Char) (us : List UInt16) :
    textOfUnits? (charUtf16 c ++ us) = (textOfUnits? us).map (c :: ·) := by
  rcases charUtf16_cases c with ⟨u, hunits, hhigh, hlow, hc⟩ | ⟨u, v, hunits, hhigh, hlow, hc⟩
  · rw [hunits, List.singleton_append, textOfUnits?.eq_def]
    simp only [if_neg hhigh, if_neg hlow, hc]
  · rw [hunits, List.cons_append, List.singleton_append, textOfUnits?.eq_def]
    simp only [if_pos hhigh, if_pos hlow, hc]

theorem textOfUnits?_utf16 (s : List Char) : textOfUnits? (utf16 s) = some s := by
  induction s with
  | nil => rfl
  | cons c s ih => rw [utf16_cons, textOfUnits?_charUtf16, ih, Option.map_some]

theorem charUtf16_ofNat {u : UInt16} (hhigh : ¬ isHighSurrogate u = true)
    (hlow : ¬ isLowSurrogate u = true) : charUtf16 (.ofNat u.toNat) = [u] := by
  have hlt : u.toNat < 0x10000 := u.toNat_lt
  rw [isHighSurrogate_iff] at hhigh
  rw [isLowSurrogate_iff] at hlow
  have hvalid : u.toNat < 0xD800 ∨ 0xDFFF < u.toNat ∧ u.toNat < 0x110000 := by omega
  have hcode : (Char.ofNat u.toNat).toNat = u.toNat := toNat_ofNat hvalid
  rw [charUtf16, hcode, if_pos hlt, UInt16.ofNat_toNat]

theorem charUtf16_paired {high low : UInt16} (hhigh : isHighSurrogate high = true)
    (hlow : isLowSurrogate low = true) : charUtf16 (paired high low) = [high, low] := by
  rw [isHighSurrogate_iff] at hhigh
  rw [isLowSurrogate_iff] at hlow
  have hcode : (paired high low).toNat =
      0x10000 + (high.toNat - 0xD800) * 0x400 + (low.toNat - 0xDC00) :=
    toNat_ofNat (Or.inr ⟨by omega, by omega⟩)
  have hfirst : 0xD800 + ((paired high low).toNat - 0x10000) / 0x400 = high.toNat := by omega
  have hsecond : 0xDC00 + ((paired high low).toNat - 0x10000) % 0x400 = low.toNat := by omega
  rw [charUtf16, if_neg (by omega), hfirst, hsecond, UInt16.ofNat_toNat, UInt16.ofNat_toNat]

theorem eq_utf16_of_textOfUnits? {us : List UInt16} {s : List Char}
    (h : textOfUnits? us = some s) : us = utf16 s := by
  fun_induction textOfUnits? us generalizing s with
  | case1 =>
    cases h
    rfl
  | case2 u hhigh => cases h
  | case3 u hhigh v us hlow ih =>
    -- a pair
    obtain ⟨t, ht, rfl⟩ := Option.map_eq_some_iff.mp h
    rw [utf16_cons, charUtf16_paired hhigh hlow, ← ih ht]
    rfl
  | case4 u hhigh v us hlow => cases h
  | case5 u us hhigh hlow => cases h
  | case6 u us hhigh hlow ih =>
    -- a unit that is no surrogate
    obtain ⟨t, ht, rfl⟩ := Option.map_eq_some_iff.mp h
    rw [utf16_cons, charUtf16_ofNat hhigh hlow, ← ih ht]
    rfl

/-- **The UTF-16 form of a text is the one sequence of units that is read as that text.** -/
theorem textOfUnits?_eq_some_iff {us : List UInt16} {s : List Char} :
    textOfUnits? us = some s ↔ us = utf16 s := by
  constructor
  · exact eq_utf16_of_textOfUnits?
  · rintro rfl
    exact textOfUnits?_utf16 s

/-! ### Lengths -/

theorem length_charUtf16 (c : Char) : (charUtf16 c).length = charUnits16 c := by
  unfold charUtf16 charUnits16
  split <;> rfl

theorem length_utf16 (s : List Char) : (utf16 s).length = units16 s := by
  induction s with
  | nil => rfl
  | cons c s ih => rw [utf16_cons, List.length_append, length_charUtf16, ih, units16_cons]

theorem utf8ByteSize_ofList_cons (c : Char) (s : List Char) :
    (String.ofList (c :: s)).utf8ByteSize = c.utf8Size + (String.ofList s).utf8ByteSize := by
  rw [String.ofList_cons, String.utf8ByteSize_append, String.utf8ByteSize_singleton]

theorem utf8ByteSize_ofList (s : List Char) :
    (String.ofList s).utf8ByteSize =
      units16 s + s.countP (0x80 ≤ ·.toNat) + s.countP (0x800 ≤ ·.toNat) := by
  induction s with
  | nil => rfl
  | cons c s ih =>
    rw [utf8ByteSize_ofList_cons, utf8Size_eq, ih, units16_cons, List.countP_cons, List.countP_cons]
    simp only [decide_eq_true_eq]
    omega

/-- A text has as many UTF-8 bytes as UTF-16 units, and one more for each character from U+0080 on
    and for each from U+0800 on. -/
theorem utf8ByteSize_eq (s : String) :
    s.utf8ByteSize =
      units16 s.toList + s.toList.countP (0x80 ≤ ·.toNat) + s.toList.countP (0x800 ≤ ·.toNat) := by
  rw [← utf8ByteSize_ofList, String.ofList_toList]

/-- A text has no more UTF-16 units than UTF-8 bytes. -/
theorem units16_le_utf8ByteSize (s : String) : units16 s.toList ≤ s.utf8ByteSize := by
  rw [utf8ByteSize_eq]
  omega

end ListenerReview.Text
