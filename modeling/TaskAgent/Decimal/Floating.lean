/-!
# Binary floating values

A floating value is a sign and a magnitude: a significand of a fixed number of bits times a power
of two, or infinity. All arithmetic is exact on natural numbers and is rounded once, to the
nearest value of the format and to the even significand when two are equally near.
-/

namespace TaskAgent.Decimal

/-- The two widths of floating values. -/
inductive Format where
  /-- Values of 32 bits. -/
  | single
  /-- Values of 64 bits. -/
  | double
deriving DecidableEq, Repr

namespace Format

/-- The number of bits of a significand. -/
def precision : Format → Nat
  | single => 24
  | double => 53

/-- The exponent of the smallest positive value. -/
def leastExponent : Format → Int
  | single => -149
  | double => -1074

/-- The exponent of the largest finite significand. -/
def greatestExponent : Format → Int
  | single => 104
  | double => 971

end Format

/-- A magnitude: `significand * 2 ^ exponent`, or infinity. -/
inductive Magnitude where
  /-- The magnitude `significand * 2 ^ exponent`. -/
  | finite (significand : Nat) (exponent : Int)
  /-- Larger than every finite magnitude. -/
  | infinite
deriving DecidableEq, Repr

/-- A floating value of one of the formats. -/
structure Floating where
  /-- The width of the value. -/
  format : Format
  /-- Whether the sign is minus; zero has a sign too. -/
  negative : Bool
  /-- The value without its sign. -/
  magnitude : Magnitude
deriving DecidableEq, Repr

/-- A quotient of natural numbers divided by `2 ^ exponent`. -/
def scaled (numerator denominator : Nat) (exponent : Int) : Nat × Nat :=
  if exponent < 0 then (numerator * Nat.pow 2 exponent.natAbs, denominator)
  else (numerator, denominator * Nat.pow 2 exponent.natAbs)

/-- The nearest natural number to a quotient, the even one of two. -/
def roundQuotient (numerator denominator : Nat) : Nat :=
  let below := numerator / denominator
  let twice := 2 * (numerator % denominator)
  if twice < denominator ∨ (twice = denominator ∧ below % 2 = 0) then below else below + 1

namespace Magnitude

def zero (format : Format) : Magnitude := .finite 0 format.leastExponent

/-- The magnitude with the given significand, which may have one bit too many. -/
def ofRounded (format : Format) (significand : Nat) (exponent : Int) : Magnitude :=
  let (significand, exponent) :=
    if significand = Nat.pow 2 format.precision then (significand / 2, exponent + 1)
    else (significand, exponent)
  if format.greatestExponent < exponent then .infinite else .finite significand exponent

/-- The magnitude of a format nearest to a quotient. -/
def nearest (format : Format) (numerator denominator : Nat) : Magnitude :=
  if numerator = 0 then zero format
  else
    let guess : Int :=
      (numerator.log2 : Int) - (denominator.log2 : Int) - (format.precision : Int)
    let (n, d) := scaled numerator denominator guess
    let fitting := if d * Nat.pow 2 format.precision ≤ n then guess + 1 else guess
    let exponent := max fitting format.leastExponent
    let (n, d) := scaled numerator denominator exponent
    ofRounded format (roundQuotient n d) exponent

def quotient : Magnitude → Nat × Nat
  | .finite significand exponent =>
    if exponent < 0 then (significand, Nat.pow 2 exponent.natAbs)
    else (significand * Nat.pow 2 exponent.natAbs, 1)
  | .infinite => (1, 0)

def isZero : Magnitude → Bool
  | .finite significand _ => significand == 0
  | .infinite => false

/-- The product of two magnitudes, rounded; nothing stays below infinity once it is reached. -/
def times (format : Format) (first second : Magnitude) : Magnitude :=
  match first, second with
  | .infinite, _ | _, .infinite => .infinite
  | first, second =>
    nearest format (first.quotient.1 * second.quotient.1) (first.quotient.2 * second.quotient.2)

/-- A magnitude divided by a positive one, rounded. -/
def dividedBy (format : Format) (first second : Magnitude) : Magnitude :=
  match first, second with
  | .infinite, _ => .infinite
  | _, .infinite => zero format
  | first, second =>
    nearest format (first.quotient.1 * second.quotient.2) (first.quotient.2 * second.quotient.1)

/-- A magnitude taken to another format, rounded. -/
def convert (format : Format) : Magnitude → Magnitude
  | .infinite => .infinite
  | magnitude => nearest format magnitude.quotient.1 magnitude.quotient.2

end Magnitude

/-- A value taken to another format, rounded. -/
def Floating.convert (format : Format) (value : Floating) : Floating :=
  ⟨format, value.negative, value.magnitude.convert format⟩

/-- The floating value nearest to an integer. -/
def Floating.ofInt (format : Format) (value : Int) : Floating :=
  ⟨format, value < 0, .nearest format value.natAbs 1⟩

end TaskAgent.Decimal
