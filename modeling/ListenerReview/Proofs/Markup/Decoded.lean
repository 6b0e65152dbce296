/-
  ListenerReview/Proofs/Markup/Decoded.lean
  =========================================
  **Decoding undoes escaping.**

  What a reference stands for depends in general on what follows it: a name may go on,
  and so may a number, and a name without its semicolon may be the start of a longer
  one.  A semicolon ends all this.  `Reference.at?_name` and `Reference.at?_decimal`
  say so for names and for decimal numbers: up to its semicolon such a reference is read
  as it stands, whatever comes behind.

  Escaping writes only references of these two forms, so an escaped text decodes to the
  text it was made of, also in front of any other text (`decode_escape_append`).
-/
import ListenerReview.Markup.Escape
import ListenerReview.Markup.Reference
import Mathlib.Logic.Function.Basic

namespace ListenerReview.Markup

/-! ### References that end in a semicolon -/

namespace Reference

/-- A run of digits or letters ends before a semicolon. -/
theorem takeWhile_append_semicolon {p : Char → Bool} {run : List Char} (hrun : ∀ c ∈ run, p c = true)
    (hend : p ';' = false) (rest : List Char) : (run ++ ';' :: rest).takeWhile p = run := by
  rw [List.takeWhile_append_of_pos hrun, List.takeWhile_cons_of_neg (by simp [hend]),
    List.append_nil]

/-- A name in front of a semicolon is read as a whole. -/
theorem at?_name {name characters : List Char} (hname : ∀ c ∈ name, c.isAlphanum = true)
    (hlength : name.length < nameLimit) (hmeans : named? name = some characters)
    (rest : List Char) :
    at? (name ++ ';' :: rest) = some ⟨characters, name.length + 1⟩ := by
  obtain ⟨first, others, rfl⟩ : ∃ first others, name = first :: others := by
    cases name with
    | nil => cases hmeans
    | cons first others => exact ⟨first, others, rfl⟩
  have hrun : ((first :: others ++ ';' :: rest).take nameLimit).takeWhile Char.isAlphanum =
      first :: others := by
    obtain ⟨room, hroom⟩ := Nat.exists_eq_add_of_lt hlength
    rw [List.take_append, List.take_of_length_le (Nat.le_of_lt hlength),
      show nameLimit - (first :: others).length = room + 1 by omega, List.take_succ_cons]
    exact takeWhile_append_semicolon hname (by decide) _
  have hfirst : first ≠ '#' := by
    rintro rfl
    exact absurd (hname '#' List.mem_cons_self) (by decide)
  have hat : at? (first :: others ++ ';' :: rest) = named (first :: others ++ ';' :: rest) := by
    rw [List.cons_append, at?]
    all_goals simp [hfirst]
  rw [hat, named, hrun, List.drop_left, semicolon, if_pos rfl, hmeans]

/-- A decimal number in front of a semicolon is read as a whole. -/
theorem at?_decimal {digits : List Char} (hdigits : ∀ c ∈ digits, c.isDigit = true)
    (hne : digits ≠ []) (rest : List Char) :
    at? ('#' :: (digits ++ ';' :: rest)) =
      some ⟨[numbered (number 10 digits)], digits.length + 2⟩ := by
  obtain ⟨first, others, rfl⟩ := List.exists_cons_of_ne_nil hne
  have hfirst := hdigits first List.mem_cons_self
  have hlower : first ≠ 'x' := by
    rintro rfl
    exact absurd hfirst (by decide)
  have hupper : first ≠ 'X' := by
    rintro rfl
    exact absurd hfirst (by decide)
  have hat : at? ('#' :: (first :: others ++ ';' :: rest)) =
      numeric? 1 10 Char.isDigit (first :: others ++ ';' :: rest) := by
    rw [List.cons_append, at?]
    all_goals simp [hlower, hupper]
  rw [hat, numeric?, takeWhile_append_semicolon hdigits (by decide)]
  simp only [List.drop_left, semicolon, Nat.add_comm, Nat.add_left_comm]

end Reference

/-! ### Texts -/

theorem decodeAfter_eq_drop (skip : Nat) (text : List Char) :
    decodeAfter skip text = decode (text.drop skip) := by
  induction text generalizing skip with
  | nil => simp [decode, decodeAfter_nil]
  | cons c text ih =>
    cases skip with
    | zero => rfl
    | succ skip => exact ih skip

/-- A reference is replaced by what it stands for, and the rest is decoded by itself. -/
theorem decode_reference {reference characters rest : List Char}
    (h : Reference.at? (reference ++ rest) = some ⟨characters, reference.length⟩) :
    decode ('&' :: (reference ++ rest)) = characters ++ decode rest := by
  rw [decode, decodeAfter, if_pos rfl, h]
  simp only
  rw [decodeAfter_eq_drop, List.drop_left]

/-- What escaping writes for a character is read as this character, whatever follows. -/
theorem decode_escapeChar_append (c : Char) (rest : List Char) :
    decode (escapeChar c ++ rest) = c :: decode rest := by
  have hname : ∀ name : List Char, name.all Char.isAlphanum = true →
      name.length < Reference.nameLimit → Reference.named? name = some [c] →
      decode ('&' :: ((name ++ [';']) ++ rest)) = c :: decode rest := by
    intro name hletters hlength hmeans
    have hat : Reference.at? ((name ++ [';']) ++ rest) = some ⟨[c], (name ++ [';']).length⟩ := by
      rw [List.append_assoc, List.length_append]
      exact Reference.at?_name (List.all_eq_true.mp hletters) hlength hmeans rest
    exact decode_reference hat
  unfold escapeChar
  split
  · exact hname ['a', 'm', 'p'] (by decide) (by decide) (by decide)
  · exact hname ['l', 't'] (by decide) (by decide) (by decide)
  · exact hname ['g', 't'] (by decide) (by decide) (by decide)
  · exact hname ['q', 'u', 'o', 't'] (by decide) (by decide) (by decide)
  · have hdigits : ['3', '9'].all Char.isDigit = true := by decide
    have hat : Reference.at? (['#', '3', '9', ';'] ++ rest) = some ⟨['\''], 4⟩ :=
      Reference.at?_decimal (List.all_eq_true.mp hdigits) (by decide) rest
    exact decode_reference hat
  · next hamp _ _ _ _ => exact decode_cons_of_ne hamp rest

/-- An escaped text in front of another is decoded by itself. -/
theorem decode_escape_append (s rest : List Char) : decode (escape s ++ rest) = s ++ decode rest := by
  induction s with
  | nil => rfl
  | cons c s ih => rw [escape_cons, List.append_assoc, decode_escapeChar_append, ih, List.cons_append]

theorem decode_escape (s : List Char) : decode (escape s) = s := by
  have h := decode_escape_append s []
  have hnil : decode [] = [] := rfl
  rwa [List.append_nil, hnil, List.append_nil] at h

/-- Texts that look the same escaped are the same. -/
theorem escape_injective : Function.Injective escape :=
  Function.LeftInverse.injective decode_escape

end ListenerReview.Markup
