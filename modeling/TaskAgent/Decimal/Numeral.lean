import TaskAgent.Decimal.Floating

/-!
# Decimal numerals

A numeral is a number as it is written: a sign, digits, perhaps a fraction and a power of ten.
Its value is an integer where it is written as one and fits 64 bits, and a floating value
otherwise.

The floating value is found as follows. Digits are kept while the number they form fits 64 bits,
the digits after that are dropped; the kept number and the power of ten are each rounded, and so
is their product or quotient. A numeral above every finite value has none.
-/

namespace TaskAgent.Decimal

/-- A number as it is written. -/
structure Numeral where
  /-- Whether a minus sign stands first. -/
  negative : Bool
  /-- The digits before the point. -/
  whole : List Char
  /-- The digits after the point, if there is a point. -/
  fraction : Option (List Char)
  /-- The power of ten, if one is written: whether it is negative, and its digits. -/
  power : Option (Bool × List Char)
deriving DecidableEq, Repr

/-- The value of a numeral. -/
inductive Number where
  | integer (value : Int)
  /-- A floating value of 64 bits. -/
  | real (value : Floating)
deriving DecidableEq, Repr

/-- The largest number of 64 bits. -/
def greatestWord : Nat := UInt64.size - 1

/-- The largest power of ten that is read as it is written. -/
def greatestPower : Nat := 2147483647

/-- The largest power of ten with a value of 64 bits. -/
def tabledPower : Nat := 308

def ofDigits (digits : List Char) : Nat := Nat.ofDigitChars 10 digits 0

/-- Appends digits to `kept` while the number fits 64 bits; the number and the digits left. -/
def keepDigits (kept : Nat) : List Char → Nat × List Char
  | [] => (kept, [])
  | digit :: rest =>
    let longer := Nat.ofDigitChars 10 [digit] kept
    if longer ≤ greatestWord then keepDigits longer rest else (kept, digit :: rest)

/-- The value of a power of ten, rounded. -/
def powerOfTen (power : Nat) : Magnitude := .nearest .double (Nat.pow 10 power) 1

/-- A number times a power of ten, rounded; none when it is above every finite value. -/
def scaleUp (number : Nat) (power : Nat) : Option Magnitude :=
  if number = 0 then some (.zero .double)
  else if tabledPower < power then none
  else
    match Magnitude.times .double (.nearest .double number 1) (powerOfTen power) with
    | .infinite => none
    | product => some product

/-- A number over a power of ten, divided in at most two steps, each rounded. -/
def scaleDown (number : Nat) (power : Nat) : Magnitude :=
  let start := Magnitude.nearest .double number 1
  if power ≤ tabledPower then start.dividedBy .double (powerOfTen power)
  else if power ≤ 2 * tabledPower then
    (start.dividedBy .double (powerOfTen tabledPower)).dividedBy .double
      (powerOfTen (power - tabledPower))
  else .zero .double

namespace Numeral

/-- The magnitude of a numeral read as a floating value. -/
def magnitude? (numeral : Numeral) : Option Magnitude :=
  let (kept, dropped) := keepDigits 0 numeral.whole
  let fraction := numeral.fraction.getD []
  let (kept, unread) := keepDigits kept fraction
  let shift : Int := (dropped.length : Int) - ((fraction.length : Int) - (unread.length : Int))
  let scale (exponent : Int) : Option Magnitude :=
    if exponent < 0 then some (scaleDown kept exponent.natAbs) else scaleUp kept exponent.natAbs
  match numeral.power with
  | none => scale shift
  | some (negativePower, digits) =>
    let power := ofDigits digits
    if greatestPower < power then
      if kept ≠ 0 ∧ !negativePower then none else some (.zero .double)
    else scale (if negativePower then shift - power else shift + power)

/-- The value of a numeral; none when it is above every finite value. -/
def value? (numeral : Numeral) : Option Number :=
  let number := ofDigits numeral.whole
  let whole := numeral.fraction.isNone && numeral.power.isNone
  if whole && !numeral.negative && number ≤ greatestWord then some (.integer number)
  else if whole && numeral.negative && number ≠ 0 && number ≤ 9223372036854775808 then
    some (.integer (-number))
  else numeral.magnitude?.map fun magnitude => .real ⟨.double, numeral.negative, magnitude⟩

end Numeral

end TaskAgent.Decimal
