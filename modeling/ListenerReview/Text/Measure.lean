/-
  ListenerReview/Text/Measure.lean
  ================================
  **Sizes and lines of a text** — the three sizes that limits are given in (code
  points, UTF-16 units, UTF-8 bytes) and the two ways of cutting a text at line
  breaks.

  `utf8Size_eq` is the fact behind every quick check by byte size: it goes through the
  four widths of a character in UTF-8, and in none of them are there fewer bytes than
  UTF-16 units.
-/

namespace ListenerReview.Text

/-! ### Sizes -/

/-- UTF-16 units of one character: two beyond the basic plane, else one. -/
def charUnits16 (c : Char) : Nat := if c.toNat < 0x10000 then 1 else 2

/-- UTF-16 units of a text. -/
def units16 (s : List Char) : Nat := s.foldr (fun c n => charUnits16 c + n) 0

theorem units16_cons (c : Char) (s : List Char) : units16 (c :: s) = charUnits16 c + units16 s :=
  rfl

/-- A character has as many UTF-8 bytes as UTF-16 units, one more from U+0080 on and another one
    from U+0800 on. -/
theorem utf8Size_eq (c : Char) :
    c.utf8Size =
      charUnits16 c + (if 0x80 ≤ c.toNat then 1 else 0) + (if 0x800 ≤ c.toNat then 1 else 0) := by
  unfold charUnits16 Char.utf8Size Char.toNat
  simp only [UInt32.le_iff_toNat_le]
  repeat' split
  all_goals simp_all
  all_goals omega

/-! ### Lines -/

/-- The pieces of a text between line feeds; a text without one is a single piece. -/
def pieces (s : List Char) : List (List Char) := s.splitOn '\n'

/-- The text without one final carriage return. -/
def dropReturn (s : List Char) : List Char :=
  if s.getLast? = some '\r' then s.dropLast else s

/-- The lines of a text: each ends at a line feed, a carriage return right before the line feed
    is part of the break, and a final line feed opens no further line. -/
def lines (s : List Char) : List (List Char) :=
  match (pieces s).reverse with
  | [] => []
  | last :: broken => (broken.reverse.map dropReturn) ++ (if last.isEmpty then [] else [last])

end ListenerReview.Text
