/-
  ListenerReview/Markup/Reference.lean
  ====================================
  **Character references** — finding the references in a text (`&lt;`, `&#39;`,
  `&#x27;`, `&lt` without its semicolon) and replacing each by the characters it
  stands for.

  A reference is looked for at every ampersand of the text, from left to right.
  What a reference stands for is never looked at again, and an ampersand that
  starts none stays as it is.
-/
import ListenerReview.Markup.Reference.Capital
import ListenerReview.Markup.Reference.Small

namespace ListenerReview.Markup

namespace Reference

/-! ### Names -/

def namesFrom : Char → List (String × List Nat)
  | 'A' => capitalA
  | 'B' => capitalB
  | 'C' => capitalC
  | 'D' => capitalD
  | 'E' => capitalE
  | 'F' => capitalF
  | 'G' => capitalG
  | 'H' => capitalH
  | 'I' => capitalI
  | 'J' => capitalJ
  | 'K' => capitalK
  | 'L' => capitalL
  | 'M' => capitalM
  | 'N' => capitalN
  | 'O' => capitalO
  | 'P' => capitalP
  | 'Q' => capitalQ
  | 'R' => capitalR
  | 'S' => capitalS
  | 'T' => capitalT
  | 'U' => capitalU
  | 'V' => capitalV
  | 'W' => capitalW
  | 'X' => capitalX
  | 'Y' => capitalY
  | 'Z' => capitalZ
  | 'a' => smallA
  | 'b' => smallB
  | 'c' => smallC
  | 'd' => smallD
  | 'e' => smallE
  | 'f' => smallF
  | 'g' => smallG
  | 'h' => smallH
  | 'i' => smallI
  | 'j' => smallJ
  | 'k' => smallK
  | 'l' => smallL
  | 'm' => smallM
  | 'n' => smallN
  | 'o' => smallO
  | 'p' => smallP
  | 'q' => smallQ
  | 'r' => smallR
  | 's' => smallS
  | 't' => smallT
  | 'u' => smallU
  | 'v' => smallV
  | 'w' => smallW
  | 'x' => smallX
  | 'y' => smallY
  | 'z' => smallZ
  | _ => []

/-- Names that also stand without a semicolon; none is the start of another. -/
def bareNames : List String :=
  ["AElig", "AMP", "Aacute", "Acirc", "Agrave", "Aring", "Atilde", "Auml", "COPY", "Ccedil", "ETH",
   "Eacute", "Ecirc", "Egrave", "Euml", "GT", "Iacute", "Icirc", "Igrave", "Iuml", "LT", "Ntilde",
   "Oacute", "Ocirc", "Ograve", "Oslash", "Otilde", "Ouml", "QUOT", "REG", "THORN", "Uacute",
   "Ucirc", "Ugrave", "Uuml", "Yacute", "aacute", "acirc", "acute", "aelig", "agrave", "amp",
   "aring", "atilde", "auml", "brvbar", "ccedil", "cedil", "cent", "copy", "curren", "deg",
   "divide", "eacute", "ecirc", "egrave", "eth", "euml", "frac12", "frac14", "frac34", "gt",
   "iacute", "icirc", "iexcl", "igrave", "iquest", "iuml", "laquo", "lt", "macr", "micro", "middot",
   "nbsp", "not", "ntilde", "oacute", "ocirc", "ograve", "ordf", "ordm", "oslash", "otilde", "ouml",
   "para", "plusmn", "pound", "quot", "raquo", "reg", "sect", "shy", "sup1", "sup2", "sup3",
   "szlig", "thorn", "times", "uacute", "ucirc", "ugrave", "uml", "uuml", "yacute", "yen", "yuml"]

/-- The characters that a name stands for. -/
def named? (name : List Char) : Option (List Char) :=
  match name with
  | [] => none
  | first :: _ => ((namesFrom first).lookup (String.ofList name)).map (·.map Char.ofNat)

/-- The name without semicolon that the text starts with. -/
def barePrefix? (text : List Char) : Option (List Char) :=
  (bareNames.find? fun name => name.toList.isPrefixOf text).map String.toList

/-! ### Numbers -/

/-- The characters meant by the numbers 0x80 to 0x9F, which are control characters in the code
    itself and printed ones in the old Windows code page. -/
def codePage : List (Nat × Nat) :=
  [(0x80, 0x20AC), (0x82, 0x201A), (0x83, 0x192), (0x84, 0x201E), (0x85, 0x2026), (0x86, 0x2020),
   (0x87, 0x2021), (0x88, 0x2C6), (0x89, 0x2030), (0x8A, 0x160), (0x8B, 0x2039), (0x8C, 0x152),
   (0x8E, 0x17D), (0x91, 0x2018), (0x92, 0x2019), (0x93, 0x201C), (0x94, 0x201D), (0x95, 0x2022),
   (0x96, 0x2013), (0x97, 0x2014), (0x98, 0x2DC), (0x99, 0x2122), (0x9A, 0x161), (0x9B, 0x203A),
   (0x9C, 0x153), (0x9E, 0x17E), (0x9F, 0x178)]

/-- The replacement character, for numbers that are no character. -/
def replacement : Char := '\uFFFD'

/-- The character that a number stands for: zero, surrogates and numbers beyond the last code
    point stand for the replacement character. -/
def numbered (n : Nat) : Char :=
  if n = 0 ∨ ¬ n.isValidChar then replacement else Char.ofNat ((codePage.lookup n).getD n)

def hexValue? (c : Char) : Option Nat :=
  if '0' ≤ c ∧ c ≤ '9' then some (c.toNat - '0'.toNat)
  else if 'a' ≤ c ∧ c ≤ 'f' then some (c.toNat - 'a'.toNat + 10)
  else if 'A' ≤ c ∧ c ≤ 'F' then some (c.toNat - 'A'.toNat + 10)
  else none

/-- The number that a run of digits denotes in the given base. -/
def number (base : Nat) (digits : List Char) : Nat :=
  digits.foldl (fun n c => n * base + (hexValue? c).getD 0) 0

/-! ### One reference -/

/-- A reference found after an ampersand: what it stands for and how many characters it takes. -/
structure Found where
  text : List Char
  length : Nat
deriving DecidableEq, Repr

/-- One for a semicolon at the start of the text, else none. -/
def semicolon : List Char → Nat
  | ';' :: _ => 1
  | _ => 0

/-- A numeric reference whose digits start the text, `lead` characters after the ampersand. -/
def numeric? (lead base : Nat) (isDigit : Char → Bool) (text : List Char) : Option Found :=
  match text.takeWhile isDigit with
  | [] => none
  | digits =>
    some ⟨[numbered (number base digits)],
      lead + digits.length + semicolon (text.drop digits.length)⟩

/-- The longest name is looked for among this many characters. -/
def nameLimit : Nat := 32

/-- A named reference at the start of the text: the whole run of letters and digits with its
    semicolon if that is a name, else the name without semicolon that starts the run. -/
def named (text : List Char) : Option Found :=
  let name := (text.take nameLimit).takeWhile Char.isAlphanum
  let whole := if semicolon (text.drop name.length) = 1 then named? name else none
  match name, whole with
  | [], _ => none
  | _, some characters => some ⟨characters, name.length + 1⟩
  | _, none => (barePrefix? name).bind fun bare => (named? bare).map (⟨·, bare.length⟩)

/-- The reference that an ampersand before the text starts. -/
def at? : List Char → Option Found
  | '#' :: 'x' :: text => numeric? 2 16 (fun c => (hexValue? c).isSome) text
  | '#' :: 'X' :: text => numeric? 2 16 (fun c => (hexValue? c).isSome) text
  | '#' :: text => numeric? 1 10 Char.isDigit text
  | text => named text

end Reference

/-! ### A text -/

/-- The text with its references replaced, when its first `skip` characters belong to a reference
    that is replaced already. -/
def decodeAfter : Nat → List Char → List Char
  | _, [] => []
  | skip + 1, _ :: text => decodeAfter skip text
  | 0, c :: text =>
    match if c = '&' then Reference.at? text else none with
    | some found => found.text ++ decodeAfter found.length text
    | none => c :: decodeAfter 0 text

/-- The text with every character reference replaced by what it stands for. -/
def decode (text : List Char) : List Char := decodeAfter 0 text

theorem decodeAfter_nil (skip : Nat) : decodeAfter skip [] = [] := by
  cases skip <;> rfl

/-- A character that is no ampersand stays. -/
theorem decode_cons_of_ne {c : Char} (h : c ≠ '&') (text : List Char) :
    decode (c :: text) = c :: decode text := by
  simp [decode, decodeAfter, h]

end ListenerReview.Markup
