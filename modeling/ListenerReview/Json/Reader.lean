/-
  ListenerReview/Json/Reader.lean
  ===============================
  **Reading JSON** — readers that take a value of a known form off the front of a
  byte sequence, in one pass, so that the first fault in reading order is the one
  that is reported.

  A reader is a function from the bytes to an `Outcome`.  Strings, arrays and
  objects are read by `readString`, `elements` and `members`, which are given the
  readers of their parts; `pass` goes over a value that nobody asked for and checks
  nothing but its syntax; `json` reads a value of any form.
-/
import ListenerReview.Json.Number
import ListenerReview.Json.Value

namespace ListenerReview.Json

/-- A function that takes a value off the front of the bytes. -/
abbrev Reader (α : Type) := Input → Outcome α

/-- Space, tab, line feed and carriage return stand between the parts of a text. -/
def isSpace (b : UInt8) : Bool := b = 0x20 || b = 0x09 || b = 0x0A || b = 0x0D

def skipSpace (input : Input) : Input := input.dropWhile isSpace

/-- The rest of a word whose first letter has been read. -/
def word : List UInt8 → Input → Except Fault Input
  | [], input => .ok input
  | _ :: _, [] => .error .endInValue
  | w :: ws, b :: rest => if b = w then word ws rest else .error .unknownWord

def nullTail : List UInt8 := "ull".toList.map byte

def trueTail : List UInt8 := "rue".toList.map byte

def falseTail : List UInt8 := "alse".toList.map byte

/-! ### Strings -/

def hexDigit? (b : UInt8) : Option Nat :=
  if byte '0' ≤ b ∧ b ≤ byte '9' then some (b.toNat - '0'.toNat)
  else if byte 'a' ≤ b ∧ b ≤ byte 'f' then some (b.toNat - 'a'.toNat + 10)
  else if byte 'A' ≤ b ∧ b ≤ byte 'F' then some (b.toNat - 'A'.toNat + 10)
  else none

/-- The number that four hexadecimal digits denote. -/
def hexNumber? (a b c d : UInt8) : Option Nat := do
  return (((← hexDigit? a) * 16 + (← hexDigit? b)) * 16 + (← hexDigit? c)) * 16 + (← hexDigit? d)

def hexLength : Nat := 4

/-- The number that the next four bytes denote. -/
def hexEscape : Input → Except Fault Nat
  | a :: b :: c :: d :: _ =>
    match hexNumber? a b c d with
    | some n => .ok n
    | none => .error .unknownEscape
  | _ => .error .endInString

/-- The character that an escape of one letter stands for. -/
def letterEscape? (b : UInt8) : Option Char :=
  match "\"\\/bfnrt".toList.find? (fun c => byte c = b) with
  | some 'b' => some '\x08'
  | some 'f' => some '\x0c'
  | some 'n' => some '\n'
  | some 'r' => some '\r'
  | some 't' => some '\t'
  | other => other

def isLead (n : Nat) : Bool := 0xD800 ≤ n && n ≤ 0xDBFF

def isTrail (n : Nat) : Bool := 0xDC00 ≤ n && n ≤ 0xDFFF

/-- The character of a surrogate pair. -/
def pairChar (lead trail : Nat) : Char :=
  Char.ofNat ((lead - 0xD800) * 0x400 + (trail - 0xDC00) + 0x10000)

/-- The escape of a trailing surrogate, backslash and letter included, that has to follow a
    leading one. -/
def trailEscape : Input → Except Fault Nat
  | [] => .error .endInString
  | b :: rest =>
    if b ≠ byte '\\' then .error .unpairedLead
    else match rest with
      | [] => .error .endInString
      | u :: digits =>
        if u ≠ byte 'u' then .error .unpairedLead
        else match hexEscape digits with
          | .error fault => .error fault
          | .ok n => if isTrail n then .ok n else .error .misplacedSurrogate

/-- The character after `\u` and the number of bytes it takes: one number, or a leading surrogate
    and the escape of a trailing one. -/
def unicodeEscape (input : Input) : Except Fault (Char × Nat) :=
  match hexEscape input with
  | .error fault => .error fault
  | .ok n =>
    if isTrail n then .error .misplacedSurrogate
    else if isLead n then
      match trailEscape (input.drop hexLength) with
      | .error fault => .error fault
      | .ok m => .ok (pairChar n m, hexLength + 2 + hexLength)
    else .ok (Char.ofNat n, hexLength)

/-- What an escape stands for and the number of bytes it takes, after its backslash. -/
def escape : Input → Except Fault (Char × Nat)
  | [] => .error .endInString
  | b :: rest =>
    if b = byte 'u' then (unicodeEscape rest).map fun r => (r.1, r.2 + 1)
    else match letterEscape? b with
      | some c => .ok (c, 1)
      | none => .error .unknownEscape

/-- The bytes of a string up to its closing quotation mark, gathered in reverse, when the first
    `skip` bytes of the input belong to an escape that is gathered already. -/
def stringBytes : Nat → List UInt8 → Input → Outcome (List UInt8)
  | _, _, [] => .error .endInString
  | skip + 1, gathered, _ :: rest => stringBytes skip gathered rest
  | 0, gathered, b :: rest =>
    if b = byte '"' then .ok (gathered.reverse, rest)
    else if b = byte '\\' then
      match escape rest with
      | .ok (c, length) => stringBytes length ((String.utf8EncodeChar c).reverse ++ gathered) rest
      | .error fault => .error fault
    else if b < 0x20 then .error .controlCharacter
    else stringBytes 0 (b :: gathered) rest

def textOfBytes? (bytes : List UInt8) : Option String := String.fromUTF8? ⟨bytes.toArray⟩

/-- A string after its opening quotation mark. -/
def readText : Reader String := fun input =>
  match stringBytes 0 [] input with
  | .error fault => .error fault
  | .ok (bytes, rest) =>
    match textOfBytes? bytes with
    | some text => .ok (text, rest)
    | none => .error .malformedText

/-! ### A value of the wrong type -/

/-- The fault of a value, at the first byte, that is not of the expected type. A scalar is read
    first, and a fault in it comes first. -/
def wrongType (expected : String) : Input → Fault
  | [] => .noValue
  | b :: rest =>
    let mismatch (found : Found) : Fault := .wrongType found expected
    let scalar (outcome : Except Fault Found) : Fault :=
      match outcome with
      | .ok found => mismatch found
      | .error fault => fault
    if b = byte 'n' then scalar ((word nullTail rest).map fun _ => .null)
    else if b = byte 't' then scalar ((word trueTail rest).map fun _ => .bool true)
    else if b = byte 'f' then scalar ((word falseTail rest).map fun _ => .bool false)
    else if b = byte '-' then scalar ((readNumber true rest).map (·.1.found))
    else if isDigit b then scalar ((readNumber false (b :: rest)).map (·.1.found))
    else if b = byte '"' then scalar ((readText rest).map (.string ·.1))
    else if b = byte '[' then mismatch .array
    else if b = byte '{' then mismatch .object
    else .noValue

/-! ### Scalars -/

def readString : Reader String := fun input =>
  match skipSpace input with
  | [] => .error .endInValue
  | b :: rest => if b = byte '"' then readText rest else .error (wrongType "a string" (b :: rest))

/-- A natural number below `2 ^ bits`. -/
def readNatural (bits : Nat) : Reader Nat := fun input =>
  let expected := "u" ++ toString bits
  let accept : Outcome Number → Outcome Nat
    | .error fault => .error fault
    | .ok (.natural n, rest) =>
      if n < Nat.pow 2 bits then .ok (n, rest) else .error (.outOfRange (.integer n) expected)
    | .ok (.negative n, _) => .error (.outOfRange (.integer n) expected)
    | .ok (read, _) => .error (.wrongType read.found expected)
  match skipSpace input with
  | [] => .error .endInValue
  | b :: rest =>
    if b = byte '-' then accept (readNumber true rest)
    else if isDigit b then accept (readNumber false (b :: rest))
    else .error (wrongType expected (b :: rest))

/-- A value that may be `null`. -/
def optional {α : Type} (read : Reader α) : Reader (Option α) := fun input =>
  match skipSpace input with
  | b :: rest =>
    if b = byte 'n' then (word nullTail rest).map (none, ·)
    else (read (b :: rest)).map fun r => (some r.1, r.2)
  | [] => (read []).map fun r => (some r.1, r.2)

/-! ### Arrays -/

/-- Whether an array goes on: the bytes of the next element, or none at the closing bracket, which
    stays to be read. -/
def nextElement (first : Bool) (input : Input) : Except Fault (Option Input) :=
  match skipSpace input with
  | [] => .error .endInArray
  | b :: rest =>
    if b = byte ']' then .ok none
    else if first then .ok (some (b :: rest))
    else if b = byte ',' then
      match skipSpace rest with
      | [] => .error .endInValue
      | next :: more => if next = byte ']' then .error .trailingComma else .ok (some (next :: more))
    else .error .noArraySeparator

/-- The closing bracket of an array whose elements have been read. -/
def endArray (input : Input) : Except Fault Input :=
  match skipSpace input with
  | [] => .error .endInArray
  | b :: rest =>
    if b = byte ']' then .ok rest
    else if b = byte ',' then
      match skipSpace rest with
      | next :: _ => if next = byte ']' then .error .trailingComma else .error .trailingText
      | [] => .error .trailingText
    else .error .trailingText

/-- The elements of an array from the current one on. Every element takes a byte, so the bytes of
    the array bound their number. -/
def elementsFrom {α : Type} (read : Reader α) : Input → Bool → List α → Reader (List α)
  | [], _, _, _ => .error .endInArray
  | _ :: bound, first, gathered, input =>
    match nextElement first input with
    | .error fault => .error fault
    | .ok none => (endArray input).map (gathered.reverse, ·)
    | .ok (some input) =>
      match read input with
      | .error fault => .error fault
      | .ok (a, rest) => elementsFrom read bound false (a :: gathered) rest

/-- An array of values of one form. -/
def elements {α : Type} (read : Reader α) : Reader (List α) := fun input =>
  match skipSpace input with
  | [] => .error .endInValue
  | b :: rest =>
    if b = byte '[' then elementsFrom read rest true [] rest
    else .error (wrongType "a sequence" (b :: rest))

/-! ### Objects -/

/-- Whether an object goes on: the bytes after the quotation mark of the next name, or none at the
    closing brace, which stays to be read. -/
def nextName (first : Bool) (input : Input) : Except Fault (Option Input) :=
  match skipSpace input with
  | [] => .error .endInObject
  | b :: rest =>
    if b = byte '}' then .ok none
    else if first then
      if b = byte '"' then .ok (some rest) else .error .nameIsNoString
    else if b = byte ',' then
      match skipSpace rest with
      | [] => .error .endInValue
      | next :: more =>
        if next = byte '"' then .ok (some more)
        else if next = byte '}' then .error .trailingComma
        else .error .nameIsNoString
    else .error .noObjectSeparator

/-- The bytes after the closing brace of an object whose members have been read. -/
def endObject (input : Input) : Except Fault Input :=
  match skipSpace input with
  | [] => .error .endInObject
  | b :: rest =>
    if b = byte '}' then .ok rest
    else if b = byte ',' then .error .trailingComma
    else .error .trailingText

/-- The colon between a name and its value. -/
def colon (input : Input) : Except Fault Input :=
  match skipSpace input with
  | [] => .error .endInObject
  | b :: rest => if b = byte ':' then .ok rest else .error .noColon

/-- The members of an object from the current one on, each read into the state by the reader for
    its name. Every member takes a byte, so the bytes of the object bound their number. -/
def membersFrom {σ : Type} (read : String → σ → Reader σ) : Input → Bool → σ → Reader σ
  | [], _, _, _ => .error .endInObject
  | _ :: bound, first, state, input =>
    match nextName first input with
    | .error fault => .error fault
    | .ok none => .ok (state, input)
    | .ok (some input) =>
      match readText input with
      | .error fault => .error fault
      | .ok (name, rest) =>
        match read name state rest with
        | .error fault => .error fault
        | .ok (state, rest) => membersFrom read bound false state rest

/-! ### Passing over values -/

/-- The number of bytes that an escape takes after its backslash; what it stands for does not
    matter. -/
def passEscape : Input → Except Fault Nat
  | [] => .error .endInString
  | b :: rest =>
    if b = byte 'u' then (hexEscape rest).map fun _ => hexLength + 1
    else if (letterEscape? b).isSome then .ok 1
    else .error .unknownEscape

/-- The bytes after a string whose opening quotation mark has been read, when the first `skip`
    bytes of the input belong to an escape. Only escapes and control characters are looked at. -/
def passText : Nat → Input → Except Fault Input
  | _, [] => .error .endInString
  | skip + 1, _ :: rest => passText skip rest
  | 0, b :: rest =>
    if b = byte '"' then .ok rest
    else if b = byte '\\' then
      match passEscape rest with
      | .ok length => passText length rest
      | .error fault => .error fault
    else if b < 0x20 then .error .controlCharacter
    else passText 0 rest

/-- The two kinds of value that hold others. -/
inductive Frame where
  | array
  | object
deriving DecidableEq, Repr

def Frame.opening : Frame → UInt8
  | .array => byte '['
  | .object => byte '{'

def Frame.closing : Frame → UInt8
  | .array => byte ']'
  | .object => byte '}'

/-- The fault of a text that ends inside a frame. -/
def Frame.ended : Frame → Fault
  | .array => .endInArray
  | .object => .endInObject

/-- The fault of two values of a frame without a comma between them. -/
def Frame.noSeparator : Frame → Fault
  | .array => .noArraySeparator
  | .object => .noObjectSeparator

def frame? (b : UInt8) : Option Frame :=
  if b = Frame.array.opening then some .array
  else if b = Frame.object.opening then some .object
  else none

/-- The bytes of the next value in a frame, past its name and colon in an object. -/
def enterFrame (frame : Frame) (input : Input) : Except Fault Input :=
  match frame with
  | .array => .ok input
  | .object =>
    match skipSpace input with
    | [] => .error .endInObject
    | b :: rest =>
      if b ≠ byte '"' then .error .nameIsNoString
      else match passText 0 rest with
        | .error fault => .error fault
        | .ok rest => colon rest

/-- The bytes after a scalar that starts with the byte `b`, or none if `b` starts no scalar. -/
def passScalar (b : UInt8) (rest : Input) : Option (Except Fault Input) :=
  if b = byte 'n' then some (word nullTail rest)
  else if b = byte 't' then some (word trueTail rest)
  else if b = byte 'f' then some (word falseTail rest)
  else if b = byte '-' then some (passNumber rest)
  else if isDigit b then some (passNumber (b :: rest))
  else if b = byte '"' then some (passText 0 rest)
  else none

/-- Where a pass over nested values goes on: before a value or after one, inside the given open
    frames, innermost first. -/
structure Place where
  beforeValue : Bool
  frames : List Frame
  input : Input

/-- The place after the byte that opens a frame: after an empty value, or before the first value
    inside. -/
def openFrame (frame : Frame) (frames : List Frame) (rest : Input) : Except Fault Place :=
  match skipSpace rest with
  | [] => .error frame.ended
  | b :: more =>
    if b = frame.closing then .ok ⟨false, frames, more⟩
    else (enterFrame frame (b :: more)).map (⟨true, frame :: frames, ·⟩)

/-- The place after a value of the innermost frame: after the frame if it is closed, or before its
    next value. -/
def leaveValue (frame : Frame) (frames : List Frame) (rest : Input) : Except Fault Place :=
  match skipSpace rest with
  | [] => .error frame.ended
  | b :: more =>
    if b = frame.closing then .ok ⟨false, frames, more⟩
    else if b = byte ',' then (enterFrame frame more).map (⟨true, frame :: frames, ·⟩)
    else .error frame.noSeparator

/-- The place after the first byte of a value and all of a scalar. -/
def passValue (frames : List Frame) (input : Input) : Except Fault Place :=
  match skipSpace input with
  | [] => .error .endInValue
  | b :: rest =>
    match passScalar b rest, frame? b with
    | some (.ok rest), _ => .ok ⟨false, frames, rest⟩
    | some (.error fault), _ => .error fault
    | none, some frame => openFrame frame frames rest
    | none, none => .error .noValue

/-- The bytes after a value that is passed over; nesting may be of any depth. Every step takes a
    byte, so the bytes of the value bound the number of steps. -/
def passFrom : Input → Place → Except Fault Input
  | _, ⟨false, [], input⟩ => .ok input
  | [], ⟨true, _, _⟩ => .error .endInValue
  | [], ⟨false, frame :: _, _⟩ => .error frame.ended
  | _ :: bound, ⟨true, frames, input⟩ =>
    match passValue frames input with
    | .ok place => passFrom bound place
    | .error fault => .error fault
  | _ :: bound, ⟨false, frame :: frames, input⟩ =>
    match leaveValue frame frames input with
    | .ok place => passFrom bound place
    | .error fault => .error fault

/-- The bytes after a value of any form, of which only the syntax is checked. -/
def pass (input : Input) : Except Fault Input := passFrom input ⟨true, [], input⟩

/-! ### Values of any form -/

/-- The literal of a number that has been read from the first bytes up to the second ones. -/
def literal (input rest : Input) : String :=
  String.ofList ((input.take (input.length - rest.length)).map fun b => Char.ofNat b.toNat)

/-- A value of any form. Every level of nesting takes a byte, so the bytes of the value bound the
    levels. -/
def jsonFrom : Input → Reader Json
  | [], _ => .error .endInValue
  | _ :: bound, input =>
    match skipSpace input with
    | [] => .error .endInValue
    | b :: rest =>
      if b = byte 'n' then (word nullTail rest).map (.null, ·)
      else if b = byte 't' then (word trueTail rest).map (.bool true, ·)
      else if b = byte 'f' then (word falseTail rest).map (.bool false, ·)
      else if b = byte '-' then
        (readNumber true rest).map fun r => (.number (literal (b :: rest) r.2), r.2)
      else if isDigit b then
        (readNumber false (b :: rest)).map fun r => (.number (literal (b :: rest) r.2), r.2)
      else if b = byte '"' then (readText rest).map fun r => (.string r.1, r.2)
      else if b = byte '[' then
        (elementsFrom (jsonFrom bound) rest true [] rest).map fun r => (.array r.1, r.2)
      else if b = byte '{' then
        let member (name : String) (members : List (String × Json)) : Reader (List (String × Json)) :=
          fun input =>
            match colon input with
            | .error fault => .error fault
            | .ok input => (jsonFrom bound input).map fun r => ((name, r.1) :: members, r.2)
        match membersFrom member rest true [] rest with
        | .error fault => .error fault
        | .ok (members, rest) => (endObject rest).map (.object members.reverse, ·)
      else .error .noValue

def json : Reader Json := fun input => jsonFrom input input

/-! ### Whole texts -/

/-- Reads a text that holds one value and nothing else. -/
def readAll {α : Type} (read : Reader α) (input : Input) : Except Fault α :=
  match read input with
  | .error fault => .error fault
  | .ok (a, rest) => if (skipSpace rest).isEmpty then .ok a else .error .trailingText

def bytesOf (text : String) : Input := text.toUTF8.data.toList

end ListenerReview.Json
