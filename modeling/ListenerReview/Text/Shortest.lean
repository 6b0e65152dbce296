/-
  ListenerReview/Text/Shortest.lean
  =================================
  **Decimal text of binary numbers** — the fewest decimal digits that read back as
  a given double, and the notation they are written in.

  A double is decoded into a whole number times a power of two.  The numbers that
  round to it form an interval, and the first decimal grid with a point in that
  interval gives the digits.  All of it is exact arithmetic on natural numbers.
-/

namespace ListenerReview.Text

/-! ### The interval of a double -/

/-- A positive number as numerator and denominator, with the bounds, on the same denominator, of
    the interval that rounds to it; `closed` when the bounds themselves do. -/
structure Rounding where
  low : Nat
  value : Nat
  high : Nat
  denominator : Nat
  closed : Bool
deriving DecidableEq, Repr

/-- The interval of the double with the given fraction and exponent fields. -/
def Rounding.ofFields (fraction exponent : Nat) : Rounding :=
  let mantissa := if exponent = 0 then fraction else fraction + Nat.pow 2 52
  let power : Int := (if exponent = 0 then 1 else (exponent : Int)) - 1075 - 2
  let below := if fraction = 0 && 1 < exponent then 1 else 2
  let scale := Nat.pow 2 power.toNat
  ⟨(4 * mantissa - below) * scale, 4 * mantissa * scale, (4 * mantissa + 2) * scale,
    Nat.pow 2 (-power).toNat, mantissa % 2 == 0⟩

/-- Whether the decimal `digits · 10 ^ power` lies in the interval. -/
def Rounding.admits (r : Rounding) (digits : Nat) (power : Int) : Bool :=
  let point := digits * Nat.pow 10 power.toNat * r.denominator
  let unit := Nat.pow 10 (-power).toNat
  if r.closed then r.low * unit ≤ point && point ≤ r.high * unit
  else r.low * unit < point && point < r.high * unit

/-! ### The fewest digits -/

/-- A positive decimal number `digits · 10 ^ power`. -/
structure Decimal where
  digits : Nat
  power : Int
deriving DecidableEq, Repr

/-- The position of the first digit: the largest `k` with `10 ^ k` at most the value. -/
def Rounding.leading (r : Rounding) : Int :=
  let candidates := (List.range 640).map fun (i : Nat) => (310 : Int) - (i : Int)
  (candidates.find? fun k =>
    Nat.pow 10 k.toNat * r.denominator ≤ r.value * Nat.pow 10 (-k).toNat).getD 0

/-- The neighbour of the value on the grid `10 ^ power` that lies in the interval; the nearer one
    if both do, and the even one of two equally near. -/
def Rounding.onGrid (r : Rounding) (power : Int) : Option Decimal :=
  let numerator := r.value * Nat.pow 10 (-power).toNat
  let denominator := r.denominator * Nat.pow 10 power.toNat
  let floor := numerator / denominator
  let rest := 2 * (numerator % denominator)
  let down := rest < denominator || (rest == denominator && floor % 2 == 0)
  let first := if down then floor else floor + 1
  let second := if down then floor + 1 else floor
  if r.admits first power then some ⟨first, power⟩
  else if r.admits second power then some ⟨second, power⟩
  else none

/-- The shortest decimal that rounds to the value; seventeen digits always do. -/
def Rounding.shortest (r : Rounding) : Decimal :=
  ((List.range 17).findSome? fun (i : Nat) => r.onGrid (r.leading - (i : Int))).getD ⟨0, 0⟩

/-- The same number without final zeros among its digits. -/
def Decimal.strip (d : Decimal) : Nat → Decimal
  | 0 => d
  | fuel + 1 =>
    if d.digits % 10 = 0 && d.digits ≠ 0 then Decimal.strip ⟨d.digits / 10, d.power + 1⟩ fuel else d

/-! ### The notation -/

/-- Where positional notation is used: the point lies after at most `most` digits and at most
    `leadingZeros` zeros follow it. -/
structure DecimalPlaces where
  most : Int
  leadingZeros : Int

/-- Decimals in messages: sixteen digits before the point, four zeros after it. -/
def messagePlaces : DecimalPlaces := ⟨16, 4⟩

/-- An exponent with its sign, which is written for positive ones too. -/
def exponentText (exponent : Int) : List Char :=
  'e' :: (if exponent < 0 then '-' else '+') :: Nat.toDigits 10 exponent.natAbs

/-- A decimal in the given notation, always with a point or an exponent. -/
def Decimal.text (n : DecimalPlaces) (d : Decimal) : List Char :=
  let digits := Nat.toDigits 10 d.digits
  let point : Int := digits.length + d.power
  if 0 ≤ d.power && point ≤ n.most then
    digits ++ List.replicate d.power.toNat '0' ++ ['.', '0']
  else if 0 < point && point ≤ n.most then
    digits.take point.toNat ++ '.' :: digits.drop point.toNat
  else if -n.leadingZeros ≤ point && point ≤ 0 then
    '0' :: '.' :: List.replicate (-point).toNat '0' ++ digits
  else
    digits.take 1 ++ (if digits.length = 1 then [] else '.' :: digits.drop 1)
      ++ exponentText (point - 1)

/-- The text of a finite double in a message. -/
def floatText (x : Float) : List Char :=
  let bits := x.toBits.toNat
  let sign := if bits / Nat.pow 2 63 = 1 then ['-'] else []
  let exponent := bits / Nat.pow 2 52 % Nat.pow 2 11
  let fraction := bits % Nat.pow 2 52
  if exponent = 0 && fraction = 0 then sign ++ ['0', '.', '0']
  else
    sign ++ ((Rounding.ofFields fraction exponent).shortest.strip 400).text messagePlaces

end ListenerReview.Text
