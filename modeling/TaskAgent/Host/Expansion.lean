/-!
# Expansion of short names

Letters beyond the basic alphabet can be written with letters and digits alone: the basic letters
come first, then, after a hyphen, numbers that tell where which letter is to be inserted. The
letters are inserted in the order of their code points, so each number is the distance from one
place and letter to the next, all places of a letter counted through.

Numbers are written with 36 digits, the least first. A digit below a threshold is the last of its
number; the threshold follows the size of the numbers before.
-/

namespace TaskAgent.Host

/-- The value of a digit: small letters, then decimal digits. -/
def digitValue? (c : Char) : Option Nat :=
  if 'a' ≤ c ∧ c ≤ 'z' then some (c.toNat - 'a'.toNat)
  else if '0' ≤ c ∧ c ≤ '9' then some (c.toNat - '0'.toNat + 26)
  else none

/-- The threshold at a position of a number, counted in steps of 36 from 36 on. -/
def threshold (position bias : Nat) : Nat := min 26 (max 1 (position - bias))

/-- How often 35 goes into a number before it falls to 455 or below, in steps of 36, and what is
left of the number. -/
def scaled (distance : Nat) : Nat × Nat :=
  if _ : 455 < distance then
    let (steps, rest) := scaled (distance / 35)
    (steps + 36, rest)
  else (0, distance)
termination_by distance
decreasing_by exact Nat.div_lt_self (by omega) (by omega)

/-- The bias after a number, given how many letters there are then. -/
def adapted (distance count : Nat) (isFirst : Bool) : Nat :=
  let damped := if isFirst then distance / 700 else distance / 2
  let (steps, rest) := scaled (damped + damped / count)
  steps + 36 * rest / (rest + 38)

/-- An expansion under way. -/
structure Expansion where
  /-- The letters so far. -/
  letters : List Char
  /-- The code point last inserted. -/
  point : Nat
  /-- The place after it. -/
  place : Nat
  /-- The bias of the next number. -/
  bias : Nat

namespace Expansion

/-- Before anything is inserted. -/
def start (basic : List Char) : Expansion := ⟨basic, 0x80, 0, 72⟩

/-- Inserts a letter at a distance. -/
def insert? (expansion : Expansion) (distance : Nat) : Option Expansion :=
  let index := expansion.place + distance
  let count := expansion.letters.length + 1
  let point := expansion.point + index / count
  if point < 0xd800 ∨ 0xdfff < point ∧ point < 0x110000 then
    some ⟨expansion.letters.insertIdx (index % count) (Char.ofNat point), point, index % count + 1,
      adapted distance count (expansion.place == 0)⟩
  else none

/-- The letters after all numbers of a text; the number under way has come to `position` with the
sum and the weight of its digits. -/
def readFrom (expansion : Expansion) (position weight sum : Nat) :
    List Char → Option (List Char)
  | [] => if position = 36 then some expansion.letters else none
  | c :: rest =>
    match digitValue? c with
    | none => none
    | some value =>
      let limit := threshold position expansion.bias
      if value < limit then
        match expansion.insert? (sum + value * weight) with
        | none => none
        | some next => readFrom next 36 1 0 rest
      else
        readFrom expansion (position + 36) (weight * (36 - limit)) (sum + value * weight) rest

end Expansion

/-- The basic letters of a short name and its numbers. The hyphen between them counts only if
letters stand before it. -/
def splitShort (text : List Char) : List Char × List Char :=
  match text.reverse.span (· != '-') with
  | (numbers, _ :: basic@(_ :: _)) => (basic.reverse, numbers.reverse)
  | _ => ([], text)

/-- The letters that a short name stands for. -/
def expanded? (text : List Char) : Option (List Char) :=
  let (basic, numbers) := splitShort text
  (Expansion.start basic).readFrom 36 1 0 numbers

end TaskAgent.Host
