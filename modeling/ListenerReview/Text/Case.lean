/-
  ListenerReview/Text/Case.lean
  =============================
  **Lower-casing** — the full lower-case form of a text, letter by letter, with
  the two special letters of Unicode: a capital dotted I becomes a small i with a
  dot above, and a capital sigma becomes a final sigma where a word ends.

  Names are compared by their lower-case forms; `lowerAfter_cons` gives the form letter
  by letter.
-/
import ListenerReview.Text.Blank
import ListenerReview.Text.Case.Table

namespace ListenerReview.Text

/-! ### One letter -/

/-- The code point of the small letter for a code point that is a capital, else the same. -/
def lowerCode (n : Nat) : Nat :=
  match caseBlocks.find? (·.contains n) with
  | some b => b.target + (n - b.first)
  | none => n

/-- The lower-case form of one character out of context. -/
def lowerChar (c : Char) : List Char :=
  if c = 'İ' then ['i', '\u0307'] else [Char.ofNat (lowerCode c.toNat)]

/-! ### Words and the final sigma -/

/-- Whether the first character that is not read through is a letter with a case. -/
def meetsCased (s : List Char) : Bool :=
  match s.dropWhile (fun c => inRanges caseIgnorableRanges c.toNat) with
  | [] => false
  | c :: _ => inRanges casedRanges c.toNat

/-- Whether a capital sigma between the reversed text `before` and the text `after` is the last
    letter of a word: a letter precedes it and none follows. -/
def endsWord (before after : List Char) : Bool := meetsCased before && !meetsCased after

/-- The lower-case form of a text that stands after `before`, which is given in reverse. -/
def lowerAfter (before : List Char) : List Char → List Char
  | [] => []
  | c :: after =>
    (if c = 'Σ' then [if endsWord before after then 'ς' else 'σ'] else lowerChar c)
      ++ lowerAfter (c :: before) after

def lower (s : List Char) : List Char := lowerAfter [] s

def lowerString (s : String) : String := String.ofList (lower s.toList)

theorem lowerAfter_cons (before : List Char) (c : Char) (after : List Char) :
    lowerAfter before (c :: after) =
      (if c = 'Σ' then [if endsWord before after then 'ς' else 'σ'] else lowerChar c)
        ++ lowerAfter (c :: before) after := rfl

end ListenerReview.Text
