/-
  ListenerReview/Listener/Payload.lean
  ====================================
  **Payloads in frame names** — frame names sometimes carry a URL-encoded JSON
  object; it is dropped from the name, with the blanks after it.

  A payload starts with an encoded opening brace and ends with the last encoded
  closing brace before the next literal closing brace.  Payloads are taken from left
  to right, and the search goes on right after each.
-/
import ListenerReview.Text.Blank

namespace ListenerReview.Payload

def opening : List Char := ['%', '7', 'B']

def closing : List Char := ['%', '7', 'D']

/-- The position of the last occurrence of a pattern that is not empty. -/
def lastIndex? (pattern : List Char) : List Char → Option Nat
  | [] => none
  | c :: s =>
    match lastIndex? pattern s with
    | some i => some (i + 1)
    | none => if pattern.isPrefixOf (c :: s) then some 0 else none

/-- The number of characters that the payload at the start of the text takes, with the blanks
    after it. -/
def length? (s : List Char) : Option Nat :=
  if opening.isPrefixOf s then
    let after := s.drop opening.length
    (lastIndex? closing (after.takeWhile (· ≠ '}'))).map fun i =>
      let inner := i + closing.length
      opening.length + inner + ((after.drop inner).takeWhile Text.isBlank).length
  else none

/-- The text without its payloads, when its first `skip` characters belong to one. -/
def stripAfter : Nat → List Char → List Char
  | _, [] => []
  | skip + 1, _ :: s => stripAfter skip s
  | 0, c :: s =>
    match length? (c :: s) with
    | some n => stripAfter (n - 1) s
    | none => c :: stripAfter 0 s

def strip (s : List Char) : List Char := stripAfter 0 s

theorem length?_eq_none {s : List Char} (h : opening.isPrefixOf s = false) : length? s = none := by
  simp [length?, h]

end ListenerReview.Payload
