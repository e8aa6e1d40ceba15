import TaskAgent.Decimal.Floating

/-!
# Shortest decimal text

The text of a floating value has the fewest significant digits that read back as the value, and
among texts of that length the one nearest to it. The digits are found on decimal grids of one,
two, and more digits: on each the two neighbours of the value are tried, in exact arithmetic.

How the digits are laid out, positionally or with an exponent, is the format's choice
(`Layout`).
-/

namespace TaskAgent.Decimal

/-- Decimal digits and the power of ten that scales them. -/
structure Digits where
  /-- The digits, read as a number. -/
  value : Nat
  /-- The power of ten of the last digit. -/
  exponent : Int
deriving DecidableEq, Repr

/-- The reals that read back as one floating value: the value and the two ends of the range, as
numerators over one denominator. -/
structure Neighbourhood where
  /-- Numerator of the lower end. -/
  low : Nat
  /-- Numerator of the value. -/
  value : Nat
  /-- Numerator of the upper end. -/
  high : Nat
  /-- The common denominator. -/
  denominator : Nat
  /-- Whether the ends themselves read back as the value. -/
  closed : Bool

namespace Neighbourhood

/-- The range around `significand * 2 ^ exponent`; it reaches half as far down where the spacing
of the format changes. -/
def of (format : Format) (significand : Nat) (exponent : Int) : Neighbourhood :=
  let narrow := significand = Nat.pow 2 (format.precision - 1) ∧ format.leastExponent < exponent
  let down := if narrow then 1 else 2
  let (factor, denominator) := scaled 1 4 (-exponent)
  ⟨(4 * significand - down) * factor, 4 * significand * factor, (4 * significand + 2) * factor,
    denominator, significand % 2 = 0⟩

/-- The power of ten of the first digit of the value. -/
def leadingPower (range : Neighbourhood) : Int :=
  let whole := range.value / range.denominator
  if whole = 0 then
    let parts := (range.denominator - 1) / range.value
    if parts = 0 then 0 else -((Nat.toDigits 10 parts).length : Int)
  else (Nat.toDigits 10 whole).length - 1

/-- A number of grid steps of size `10 ^ power`, beside a numerator of the range, both over one
denominator. -/
def compared (range : Neighbourhood) (steps : Nat) (power : Int) (numerator : Nat) : Nat × Nat :=
  if power < 0 then (steps * range.denominator, numerator * Nat.pow 10 power.natAbs)
  else (steps * Nat.pow 10 power.natAbs * range.denominator, numerator)

/-- Whether a grid point reads back as the value. -/
def includes (range : Neighbourhood) (steps : Nat) (power : Int) : Bool :=
  let (point, low) := range.compared steps power range.low
  let (_, high) := range.compared steps power range.high
  if range.closed then low ≤ point && point ≤ high else low < point && point < high

/-- How far a grid point lies from the value, up to a factor that depends on the grid only. -/
def distance (range : Neighbourhood) (steps : Nat) (power : Int) : Nat :=
  let (point, value) := range.compared steps power range.value
  (point - value) + (value - point)

/-- The point of the grid of step `10 ^ power` that reads back as the value and is nearest to it;
of two equally near, the even one. -/
def onGrid (range : Neighbourhood) (power : Int) : Option Nat :=
  let below :=
    if power < 0 then range.value * Nat.pow 10 power.natAbs / range.denominator
    else range.value / (range.denominator * Nat.pow 10 power.natAbs)
  let above := below + 1
  match range.includes below power, range.includes above power with
  | true, true =>
    let down := range.distance below power
    let up := range.distance above power
    some (if down < up ∨ (down = up ∧ below % 2 = 0) then below else above)
  | true, false => some below
  | false, true => some above
  | false, false => none

/-- The first grid with a point that reads back, among those of `count` digits and more. -/
def search (range : Neighbourhood) (count : Nat) : Nat → Digits
  | 0 => ⟨0, 0⟩
  | attempts + 1 =>
    let power := range.leadingPower - (count : Int) + 1
    match range.onGrid power with
    | some value => ⟨value, power⟩
    | none => range.search (count + 1) attempts

end Neighbourhood

/-- Removes one trailing zero after another, for at most `attempts` of them. -/
def Digits.trimmed (digits : Digits) : Nat → Digits
  | 0 => digits
  | attempts + 1 =>
    if digits.value ≠ 0 ∧ digits.value % 10 = 0 then
      Digits.trimmed ⟨digits.value / 10, digits.exponent + 1⟩ attempts
    else digits

/-- The fewest digits that read back as `significand * 2 ^ exponent`; seventeen are enough for
either format. -/
def shortest (format : Format) (significand : Nat) (exponent : Int) : Digits :=
  ((Neighbourhood.of format significand exponent).search 1 17).trimmed 2

/-- The powers of ten of the first digit between which a value is written positionally. -/
structure Layout where
  /-- The smallest such power. -/
  leastPower : Int
  /-- The largest such power. -/
  greatestPower : Int

/-- Values of 64 bits are written positionally from `10 ^ -5` to below `10 ^ 16`, values of
32 bits from `10 ^ -6` to below `10 ^ 13`. -/
def Format.layout : Format → Layout
  | single => ⟨-6, 12⟩
  | double => ⟨-5, 15⟩

/-- The digits with a point among them, a zero standing where none would be on one side. -/
def positional (digits : List Char) (exponent : Int) : List Char :=
  let wholeCount : Int := digits.length + exponent
  if 0 ≤ exponent then digits ++ List.replicate exponent.natAbs '0' ++ ['.', '0']
  else if 0 < wholeCount then
    digits.take wholeCount.natAbs ++ '.' :: digits.drop wholeCount.natAbs
  else '0' :: '.' :: List.replicate wholeCount.natAbs '0' ++ digits

/-- The digits with a point after the first of several, and the power of ten with its sign. -/
def scientific (digits : List Char) (power : Int) : List Char :=
  let mantissa :=
    match digits with
    | first :: second :: rest => first :: '.' :: second :: rest
    | short => short
  mantissa ++ ['e', if power < 0 then '-' else '+'] ++ Nat.toDigits 10 power.natAbs

/-- The text of a finite magnitude. -/
def magnitudeText (format : Format) (significand : Nat) (exponent : Int) : List Char :=
  if significand = 0 then ['0', '.', '0']
  else
    let found := shortest format significand exponent
    let digits := Nat.toDigits 10 found.value
    let power : Int := (digits.length : Int) + found.exponent - 1
    if format.layout.leastPower ≤ power ∧ power ≤ format.layout.greatestPower then
      positional digits found.exponent
    else scientific digits power

/-- The text of a floating value, if it is finite. -/
def Floating.text? (value : Floating) : Option (List Char) :=
  match value.magnitude with
  | .infinite => none
  | .finite significand exponent =>
    let text := magnitudeText value.format significand exponent
    some (if value.negative then '-' :: text else text)

end TaskAgent.Decimal
