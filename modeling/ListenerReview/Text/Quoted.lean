/-
  ListenerReview/Text/Quoted.lean
  ===============================
  **Quoted text in messages** — how a text is shown inside an error message: in
  double quotes, with short escapes for the usual control characters and the code
  point in braces for every other character that would not be seen.
-/
import ListenerReview.Text.Blank
import ListenerReview.Text.Quoted.Table

namespace ListenerReview.Text

/-- The short escapes, as the character and the letter after the backslash. -/
def shortEscapes : List (Char × Char) :=
  [('\x00', '0'), ('\t', 't'), ('\n', 'n'), ('\r', 'r'), ('"', '"'), ('\\', '\\')]

/-- Whether a character is written by its number. -/
def isHidden (c : Char) : Bool :=
  inRanges graphemeExtendRanges c.toNat || inRanges unprintableRanges c.toNat

def quotedChar (c : Char) : List Char :=
  match shortEscapes.lookup c with
  | some letter => ['\\', letter]
  | none => if isHidden c then ['\\', 'u', '{'] ++ Nat.toDigits 16 c.toNat ++ ['}'] else [c]

/-- A text as messages show it. -/
def quoted (s : List Char) : List Char := '"' :: s.flatMap quotedChar ++ ['"']

end ListenerReview.Text
