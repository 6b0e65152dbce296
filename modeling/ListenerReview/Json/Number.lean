/-
  ListenerReview/Json/Number.lean
  ===============================
  **Reading JSON numbers** — the scan of a number at the front of a byte sequence,
  and its value: a natural number or a negative one where 64 bits hold it, else a
  double.

  A double is made from the digits that fit in 64 bits and one multiplication or
  division by a power of ten; digits beyond those only move the exponent or, after
  the point, are dropped.
-/
import ListenerReview.Json.Fault
import ListenerReview.Text.Shortest

namespace ListenerReview.Json

/-- The bytes still to be read. -/
abbrev Input := List UInt8

/-- What reading gives: a value and the bytes after it, or a fault. -/
abbrev Outcome (α : Type) := Except Fault (α × Input)

def byte (c : Char) : UInt8 := c.toNat.toUInt8

def digit? (b : UInt8) : Option Nat :=
  if byte '0' ≤ b ∧ b ≤ byte '9' then some (b.toNat - '0'.toNat) else none

def isDigit (b : UInt8) : Bool := (digit? b).isSome

inductive Number where
  | natural (value : Nat)
  | negative (value : Int)
  | float (value : Float)

def Number.found : Number → Found
  | .natural n => .integer n
  | .negative n => .integer n
  | .float x => .float (String.ofList (Text.floatText x))

/-! ### Digits -/

/-- The largest number that digits are gathered into. -/
def significandLimit : Nat := Nat.pow 2 64 - 1

/-- Digits gathered into a significand as long as they fit: the significand, how many digits were
    taken, and the bytes from the first digit that does not fit or the first byte that is none. -/
def gather (significand count : Nat) : Input → Nat × Nat × Input
  | [] => (significand, count, [])
  | b :: rest =>
    match digit? b with
    | some d =>
      if significand * 10 + d ≤ significandLimit then
        gather (significand * 10 + d) (count + 1) rest
      else (significand, count, b :: rest)
    | none => (significand, count, b :: rest)

/-! ### Doubles -/

/-- The largest power of ten that is used in one step. -/
def powerLimit : Nat := 308

/-- `ten n` is ten to the power `n`. -/
def ten (n : Nat) : Float := Float.ofScientific 1 false n

/-- A double divided by ten to the power `n`, in steps of at most `powerLimit`. -/
def scaleDown (x : Float) (n : Nat) : Nat → Float
  | 0 => x / ten n
  | fuel + 1 =>
    if n ≤ powerLimit then x / ten n
    else if x == 0 then x
    else scaleDown (x / ten powerLimit) (n - powerLimit) fuel

/-- The double `± significand · 10 ^ exponent`, unless it is too large. -/
def double (negative : Bool) (significand : Nat) (exponent : Int) : Except Fault Number :=
  let x := Float.ofNat significand
  let signed (y : Float) : Number := .float (if negative then -y else y)
  if exponent < 0 then .ok (signed (scaleDown x (-exponent).toNat 4))
  else if exponent.toNat ≤ powerLimit then
    let y := x * ten exponent.toNat
    if y.isInf then .error .numberTooLarge else .ok (signed y)
  else if x == 0 then .ok (signed x) else .error .numberTooLarge

def exponentLimit : Nat := Nat.pow 2 31 - 1

/-- The exponent after its letter, applied to the digits read so far. -/
def readExponent (negative : Bool) (significand : Nat) (start : Int) (input : Input) :
    Outcome Number :=
  let (down, digits) := match input with
    | b :: rest =>
      if b = byte '+' then (false, rest) else if b = byte '-' then (true, rest) else (false, input)
    | [] => (false, [])
  match digits with
  | [] => .error .endInValue
  | b :: _ =>
    if isDigit b then
      let run := digits.takeWhile isDigit
      let rest := digits.drop run.length
      let size := run.foldl (fun n b => n * 10 + (digit? b).getD 0) 0
      if exponentLimit < size then
        if significand ≠ 0 && !down then .error .numberTooLarge
        else .ok (.float (if negative then -0.0 else 0.0), rest)
      else
        (double negative significand (if down then start - size else start + size)).map (·, rest)
    else .error .malformedNumber

/-- What follows the digits of a double: an exponent or nothing. -/
def readScale (negative : Bool) (significand : Nat) (exponent : Int) (input : Input) :
    Outcome Number :=
  match input with
  | b :: rest =>
    if b = byte 'e' || b = byte 'E' then readExponent negative significand exponent rest
    else (double negative significand exponent).map (·, input)
  | [] => (double negative significand exponent).map (·, [])

/-- The digits after the point and what follows them; `start` counts dropped digits before it. -/
def readFraction (negative : Bool) (significand : Nat) (start : Nat) (input : Input) :
    Outcome Number :=
  let (gathered, count, rest) := gather significand 0 input
  match rest with
  | b :: _ =>
    if isDigit b then readScale negative gathered ((start : Int) - count) (rest.dropWhile isDigit)
    else if count = 0 then .error .malformedNumber
    else readScale negative gathered ((start : Int) - count) rest
  | [] =>
    if count = 0 then .error .endInValue
    else readScale negative gathered ((start : Int) - count) rest

/-! ### Numbers -/

/-- A whole number of the given sign: zero with a minus sign and numbers below the least of 64
    bits are doubles. -/
def whole (negative : Bool) (n : Nat) : Number :=
  if !negative then .natural n
  else if 0 < n && n ≤ Nat.pow 2 63 then .negative (-(n : Int))
  else .float (-Float.ofNat n)

/-- What follows the whole digits of a number that fits in 64 bits. -/
def readTail (negative : Bool) (significand : Nat) (input : Input) : Outcome Number :=
  match input with
  | b :: rest =>
    if b = byte '.' then readFraction negative significand 0 rest
    else if b = byte 'e' || b = byte 'E' then readExponent negative significand 0 rest
    else .ok (whole negative significand, input)
  | [] => .ok (whole negative significand, [])

/-- What follows the whole digits that fit in 64 bits when more of them do. -/
def readLong (negative : Bool) (significand : Nat) (input : Input) : Outcome Number :=
  let extra := (input.takeWhile isDigit).length
  match input.drop extra with
  | b :: rest =>
    if b = byte '.' then readFraction negative significand extra rest
    else readScale negative significand extra (b :: rest)
  | [] => readScale negative significand extra []

/-- The number whose first digit is the first byte; a leading zero stands alone. -/
def readNumber (negative : Bool) (input : Input) : Outcome Number :=
  match input with
  | [] => .error .endInValue
  | b :: rest =>
    if b = byte '0' then
      match rest with
      | next :: _ =>
        if isDigit next then .error .malformedNumber else readTail negative 0 rest
      | [] => readTail negative 0 []
    else if isDigit b then
      match gather 0 0 input with
      | (significand, _, next :: more) =>
        if isDigit next then readLong negative significand (next :: more)
        else readTail negative significand (next :: more)
      | (significand, _, []) => readTail negative significand []
    else .error .malformedNumber

/-! ### Passing over a number -/

/-- The bytes after an exponent, whose letter has been read. -/
def passExponent (input : Input) : Except Fault Input :=
  let digits := match input with
    | b :: rest => if b = byte '+' || b = byte '-' then rest else input
    | [] => []
  match digits with
  | b :: rest => if isDigit b then .ok (rest.dropWhile isDigit) else .error .malformedNumber
  | [] => .error .malformedNumber

/-- The bytes after an exponent, if there is one. -/
def passScale : Input → Except Fault Input
  | b :: rest => if b = byte 'e' || b = byte 'E' then passExponent rest else .ok (b :: rest)
  | [] => .ok []

/-- The bytes after the fraction and the exponent of a number, as far as it has them. -/
def passTail : Input → Except Fault Input
  | b :: rest =>
    if b = byte '.' then
      match rest with
      | d :: more =>
        if isDigit d then passScale (more.dropWhile isDigit) else .error .malformedNumber
      | [] => .error .malformedNumber
    else passScale (b :: rest)
  | [] => .ok []

/-- The bytes after a number whose sign has been read; its size does not matter. -/
def passNumber : Input → Except Fault Input
  | [] => .error .malformedNumber
  | b :: rest =>
    if b = byte '0' then
      match rest with
      | next :: _ => if isDigit next then .error .malformedNumber else passTail rest
      | [] => .ok []
    else if isDigit b then passTail (rest.dropWhile isDigit)
    else .error .malformedNumber

end ListenerReview.Json
