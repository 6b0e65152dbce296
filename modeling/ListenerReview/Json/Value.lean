/-
  ListenerReview/Json/Value.lean
  ==============================
  **JSON values and their texts** — a value type that keeps object members in
  order and numbers as they are spelled, and the two texts of a value: the compact
  one and the one with an item or a member per line.  The two differ in their spaces
  alone, which is what a `Style` says.

  Strings are written character by character (`stringText`), with escapes for the
  quotation mark, the backslash and the control characters and nothing else.
-/

namespace ListenerReview

/-- A JSON value; a number is kept as its literal. -/
inductive Json where
  | null
  | bool (value : Bool)
  | number (literal : String)
  | string (value : String)
  | array (items : List Json)
  | object (members : List (String × Json))
deriving Repr, Inhabited

namespace Json

def ofNat (n : Nat) : Json := .number (toString n)

def ofStrings (texts : List String) : Json := .array (texts.map .string)

/-! ### Strings -/

/-- The escapes of one letter: the character and the letter after the backslash. -/
def letterEscapes : List (Char × Char) :=
  [('"', '"'), ('\\', '\\'), ('\x08', 'b'), ('\t', 't'), ('\n', 'n'), ('\x0c', 'f'), ('\r', 'r')]

/-- The hexadecimal digit of a number below sixteen. -/
def hexDigit (n : Nat) : Char := Nat.digitChar n

/-- One character of a string in quotation marks. -/
def charText (c : Char) : List Char :=
  match letterEscapes.lookup c with
  | some letter => ['\\', letter]
  | none =>
    if c.toNat < 0x20 then ['\\', 'u', '0', '0', hexDigit (c.toNat / 16), hexDigit (c.toNat % 16)]
    else [c]

def stringText (s : List Char) : List Char := '"' :: s.flatMap charText ++ ['"']

/-! ### Texts of values -/

/-- How the text of a value is set: what stands before an item or member and before the end of what
    holds it, at a nesting depth, and what stands after the colon of a member. -/
structure Style where
  gap : Nat → List Char
  colonGap : List Char

def Style.compact : Style := ⟨fun _ => [], []⟩

/-- A line break and the indentation of a nesting depth. -/
def newline (depth : Nat) : List Char := '\n' :: List.replicate (2 * depth) ' '

/-- With every item and member on a line of its own. -/
def Style.pretty : Style := ⟨newline, [' ']⟩

mutual

/-- The text of a value at a nesting depth. What is empty holds no space. -/
def text (style : Style) (depth : Nat) : Json → List Char
  | .null => "null".toList
  | .bool true => "true".toList
  | .bool false => "false".toList
  | .number literal => literal.toList
  | .string s => stringText s.toList
  | .array [] => ['[', ']']
  | .array (item :: items) =>
    '[' :: style.gap (depth + 1) ++ text style (depth + 1) item ++ itemsText style depth items
  | .object [] => ['{', '}']
  | .object ((name, value) :: members) =>
    '{' :: style.gap (depth + 1) ++ stringText name.toList ++ ':' :: style.colonGap
      ++ text style (depth + 1) value ++ membersText style depth members

/-- The items after the first, and the end of their array. -/
def itemsText (style : Style) (depth : Nat) : List Json → List Char
  | [] => style.gap depth ++ [']']
  | item :: items =>
    ',' :: style.gap (depth + 1) ++ text style (depth + 1) item ++ itemsText style depth items

/-- The members after the first, and the end of their object. -/
def membersText (style : Style) (depth : Nat) : List (String × Json) → List Char
  | [] => style.gap depth ++ ['}']
  | (name, value) :: members =>
    ',' :: style.gap (depth + 1) ++ stringText name.toList ++ ':' :: style.colonGap
      ++ text style (depth + 1) value ++ membersText style depth members

end

/-- The compact text as a string. -/
def compactText (value : Json) : String := String.ofList (value.text .compact 0)

/-- The text with a line per item as a string. -/
def prettyText (value : Json) : String := String.ofList (value.text .pretty 0)

/-! ### Looking into values -/

/-- The last member of the given name, as later members replace earlier ones. -/
def member? (name : String) : Json → Option Json
  | .object members => members.reverse.lookup name
  | _ => none

def string? : Json → Option String
  | .string s => some s
  | _ => none

def bool? : Json → Option Bool
  | .bool b => some b
  | _ => none

def nat? : Json → Option Nat
  | .number literal => literal.toNat?
  | _ => none

def items? : Json → Option (List Json)
  | .array items => some items
  | _ => none

def members? : Json → Option (List (String × Json))
  | .object members => some members
  | _ => none

end Json

end ListenerReview
