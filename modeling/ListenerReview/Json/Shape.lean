/-
  ListenerReview/Json/Shape.lean
  ==============================
  **Records in JSON** — reading a record with named members from an object or from
  an array of its members in order.

  A `Shape` says which members a record has and how each is read into a draft, in
  which every member is still open.  In an object members may come in any order and
  unknown ones are passed over; a member that comes twice is a fault at its second
  name, before its value.

  `Shape.read` reads a record off a text, where an array that goes on after the last
  member is a fault of the text.  `Shape.ofValue` takes a value that is known as a
  whole, where such an array has a wrong length.
-/
import ListenerReview.Json.Reader

namespace ListenerReview.Json

/-- A member of a record: its name, whether a draft has it, and how it is read into one. -/
structure Member (σ : Type) where
  name : String
  filled : σ → Bool
  read : σ → Reader σ

/-- The form of a record: its name in messages, its members in order, the empty draft, whether an
    array may stop before the last member, and what a draft amounts to. -/
structure Shape (σ α : Type) where
  name : String
  members : List (Member σ)
  empty : σ
  mayStop : Bool
  finish : σ → Except Fault α

variable {σ α : Type}

def Shape.expected (shape : Shape σ α) : String := "struct " ++ shape.name

/-- The record with the number of its members, as messages expect it. -/
def Shape.expectedLength (shape : Shape σ α) : String :=
  let n := shape.members.length
  shape.expected ++ " with " ++ toString n ++ (if n = 1 then " element" else " elements")

/-- Reads the value of a member from its colon on. -/
def Shape.readMember (shape : Shape σ α) (name : String) (draft : σ) : Reader σ := fun input =>
  match shape.members.find? (·.name == name) with
  | some member =>
    if member.filled draft then .error (.repeatedMember name)
    else match colon input with
      | .error fault => .error fault
      | .ok input => member.read draft input
  | none =>
    match colon input with
    | .error fault => .error fault
    | .ok input => (pass input).map (draft, ·)

/-- Reads a record from an object whose opening brace has been read. -/
def Shape.readObject (shape : Shape σ α) : Reader α := fun input =>
  match membersFrom shape.readMember input true shape.empty input with
  | .error fault => .error fault
  | .ok (draft, rest) =>
    match shape.finish draft with
    | .error fault => .error fault
    | .ok record => (endObject rest).map (record, ·)

/-- Reads the given members of a record, of which `count` have been read, from an array. -/
def Shape.readInOrder (shape : Shape σ α) : List (Member σ) → Nat → σ → Reader σ
  | [], _, draft, input => .ok (draft, input)
  | member :: members, count, draft, input =>
    match nextElement (count == 0) input with
    | .error fault => .error fault
    | .ok none =>
      if shape.mayStop then .ok (draft, input)
      else .error (.wrongLength count shape.expectedLength)
    | .ok (some input) =>
      match member.read draft input with
      | .error fault => .error fault
      | .ok (draft, rest) => shape.readInOrder members (count + 1) draft rest

/-- Reads a record from an array whose opening bracket has been read. -/
def Shape.readArray (shape : Shape σ α) : Reader α := fun input =>
  match shape.readInOrder shape.members 0 shape.empty input with
  | .error fault => .error fault
  | .ok (draft, rest) =>
    match shape.finish draft with
    | .error fault => .error fault
    | .ok record => (endArray rest).map (record, ·)

def Shape.read (shape : Shape σ α) : Reader α := fun input =>
  match skipSpace input with
  | [] => .error .endInValue
  | b :: rest =>
    if b = byte '[' then shape.readArray rest
    else if b = byte '{' then shape.readObject rest
    else .error (wrongType shape.expected (b :: rest))

/-! ### Records of values -/

/-- What messages expect of an array with more elements than its record has members. -/
def fewerElements : String := "fewer elements in array"

/-- The record that a value stands for. The members of a record are read before the length of its
    array is looked at. -/
def Shape.ofValue (shape : Shape σ α) : Json → Except Fault α
  | .array items =>
    let named := items.take shape.members.length
    match readAll shape.read (bytesOf (Json.array named).compactText) with
    | .error fault => .error fault
    | .ok record =>
      if items.length ≤ shape.members.length then .ok record
      else .error (.wrongLength items.length fewerElements)
  | value => readAll shape.read (bytesOf value.compactText)

end ListenerReview.Json
