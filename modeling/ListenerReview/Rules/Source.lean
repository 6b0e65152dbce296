/-
  ListenerReview/Rules/Source.lean
  ================================
  **Rule text** — the notation in which rule sets are written by hand: a line
  `[name]` opens a category, every other line adds its comma-separated terms to the
  open one.

  Lines are taken trimmed and blank ones are skipped.  Any text has a reading:
  lines before the first category are dropped, and a line in brackets that is no
  category is a line of terms.
-/
import ListenerReview.Rules.Basic
import ListenerReview.Text.Measure

namespace ListenerReview.RuleSet

/-- Whether a character may stand in a category's name: an ASCII letter or digit or an
    underscore. -/
def isNameChar (c : Char) : Bool := c.isAlphanum || c == '_'

/-- The name in a line that opens a category. -/
def header? (line : List Char) : Option (List Char) :=
  match line with
  | '[' :: rest =>
    let name := rest.dropLast
    if rest.getLast? = some ']' && !name.isEmpty && name.all isNameChar then some name else none
  | _ => none

/-- A reading in progress: the set so far and the index of the open category. -/
structure Reading where
  rules : RuleSet
  current : Option Nat
deriving DecidableEq, Repr

/-- Takes in one trimmed line that is not blank. -/
def Reading.takeLine (reading : Reading) (line : List Char) : Reading :=
  match header? line with
  | some name =>
    let (rules, index) := reading.rules.openCategory (String.ofList name)
    ⟨rules, some index⟩
  | none =>
    match reading.current with
    | some index =>
      ⟨reading.rules.pushTerms index ((line.splitOn ',').map String.ofList), reading.current⟩
    | none => reading

/-- The trimmed lines of a text that are not blank. -/
def ruleLines (text : List Char) : List (List Char) :=
  ((Text.pieces text).map Text.trim).filter (!·.isEmpty)

/-- The rule set that a text describes. -/
def ofText (text : String) : RuleSet :=
  ((ruleLines text.toList).foldl Reading.takeLine ⟨empty, none⟩).rules

end ListenerReview.RuleSet
