/-
  ListenerReview/Highlight.lean
  =============================
  **Marking terms** — cutting the terms of a rule set out of a text and writing the
  result as markup.

  Terms are taken in match order: longer ones first, and those of equal length in
  the order of their definition.  Each term is cut out of what the earlier ones left
  over, from left to right.  Marked pieces are values of their own and hold no text
  that a later term could match, so marks never nest or overlap.
-/
import ListenerReview.Markup.Escape
import ListenerReview.Markup.Reference
import ListenerReview.Rules.Basic

namespace ListenerReview

/-! ### Terms in match order -/

/-- A term to mark and the category it belongs to. -/
structure Term where
  text : List Char
  category : String
deriving DecidableEq, Repr

/-- The usable terms of a category. -/
def Category.marks (c : Category) : List Term :=
  ((c.terms.map fun t => Text.trim t.toList).filter (!·.isEmpty)).map fun t => ⟨t, c.name⟩

def RuleSet.marks (rules : RuleSet) : List Term := rules.categories.flatMap Category.marks

/-- Terms ready to be marked, in match order. -/
structure Highlighter where
  terms : List Term
deriving DecidableEq, Repr

namespace Highlighter

/-- Whether one term comes before another in match order, definition order apart. -/
def longerOrEqual (t u : Term) : Bool := u.text.length ≤ t.text.length

/-- The terms of a set in match order: sorting is stable. -/
def ofRules (rules : RuleSet) : Highlighter := ⟨rules.marks.mergeSort longerOrEqual⟩

def isEmpty (h : Highlighter) : Bool := h.terms.isEmpty

/-! ### Pieces of a text -/

/-- A piece of a text: left over, or marked as the term of the given rank in match order. -/
inductive Piece where
  | plain (text : List Char)
  | marked (rank : Nat) (term : Term)
deriving DecidableEq, Repr

def Piece.text : Piece → List Char
  | .plain text => text
  | .marked _ term => term.text

/-- A left-over piece, given in reverse, unless it is empty. -/
def leftOver (reversed : List Char) : List Piece :=
  if reversed.isEmpty then [] else [.plain reversed.reverse]

/-- The pieces of a text around the occurrences of a term, leftmost first, when its first `skip`
    characters belong to an occurrence already marked and `before` was left over before it. -/
def cutAfter (rank : Nat) (term : Term) : Nat → List Char → List Char → List Piece
  | _, before, [] => leftOver before
  | skip + 1, before, _ :: text => cutAfter rank term skip before text
  | 0, before, c :: text =>
    if term.text.isPrefixOf (c :: text) then
      leftOver before ++ .marked rank term :: cutAfter rank term (term.text.length - 1) [] text
    else cutAfter rank term 0 (c :: before) text

/-- Cuts a term out of a piece; what is marked stays as it is. -/
def Piece.cut (rank : Nat) (term : Term) : Piece → List Piece
  | .plain text => cutAfter rank term 0 [] text
  | .marked r t => [.marked r t]

/-- One pass: cuts a term out of all pieces. -/
def pass (pieces : List Piece) (ranked : Term × Nat) : List Piece :=
  pieces.flatMap (Piece.cut ranked.2 ranked.1)

/-- The pieces of a text after a pass for every term in match order. -/
def pieces (h : Highlighter) (text : List Char) : List Piece :=
  h.terms.zipIdx.foldl pass [.plain text]

/-! ### Markup -/

def Term.markup (t : Term) : List Char :=
  "<span class=\"highlight-".toList ++ Markup.escape t.category.toList ++ "\">".toList
    ++ Markup.escape t.text ++ "</span>".toList

def Piece.markup : Piece → List Char
  | .plain text => Markup.escape text
  | .marked _ term => Term.markup term

/-- The markup of a text: references are decoded and terms marked, and all text is escaped.
    Without terms the text is escaped as it stands. -/
def markup (h : Highlighter) (text : List Char) : List Char :=
  if h.isEmpty then Markup.escape text
  else (h.pieces (Markup.decode text)).flatMap Piece.markup

end Highlighter

end ListenerReview
