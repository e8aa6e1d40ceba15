import TaskAgent.Text.Hexadecimal

/-!
# Numbers of hosts

A host can be given by its number. A number of four bytes is written as up to four numbers between
dots, of which the last fills what the others leave; each may be decimal, octal or hexadecimal. A
number of sixteen bytes is written as eight groups of hexadecimal digits between colons; two
colons stand for groups of zeros, and the last two groups may be written as four decimal bytes.
-/

namespace TaskAgent.Host

open Text

/-- The number that a part of a four-byte number stands for: hexadecimal after `0x`, octal after
`0`, otherwise decimal. -/
def partNumber? : List Char → Option Nat
  | [] => none
  | '0' :: 'x' :: digits => hexNumber? digits
  | '0' :: next :: digits =>
    if (next :: digits).all fun c => '0' ≤ c && c ≤ '7' then
      some (Nat.ofDigitChars 8 (next :: digits) 0)
    else none
  | digits => if digits.all Char.isDigit then some (Nat.ofDigitChars 10 digits 0) else none

/-- The parts of a name without the empty one after a dot at its end. -/
def countedParts (parts : List (List Char)) : List (List Char) :=
  match parts.reverse with
  | [] :: before@(_ :: _) => before.reverse
  | _ => parts

/-- Whether the last part of a name is a number. -/
def endsInNumber (parts : List (List Char)) : Bool :=
  (countedParts parts).getLast?.any fun part =>
    !part.isEmpty && (part.all Char.isDigit || (partNumber? part).isSome)

/-- The four bytes that the parts of a name make up, as one number. -/
def fourBytes? (parts : List (List Char)) : Option Nat :=
  match (countedParts parts).mapM partNumber? with
  | none => none
  | some numbers =>
    match numbers.reverse with
    | [] => none
    | last :: before =>
      if before.length < 4 ∧ before.all (· < 256) ∧ last < Nat.pow 256 (4 - before.length) then
        some (before.foldr (fun byte value => value * 256 + byte) 0 *
          Nat.pow 256 (4 - before.length) + last)
      else none

/-- A byte written with decimal digits and without needless zeros. -/
def decimalByte? (text : List Char) : Option Nat :=
  let value := Nat.ofDigitChars 10 text 0
  if !text.isEmpty && text.all Char.isDigit && decide (value < 256) &&
      (text.head? != some '0' || text.length == 1) then some value
  else none

/-- The two groups that four decimal bytes make up. -/
def dottedGroups? (text : List Char) : Option (List Nat) :=
  match (text.splitOn '.').mapM decimalByte? with
  | some [a, b, c, d] => some [a * 256 + b, c * 256 + d]
  | _ => none

def group? (text : List Char) : Option Nat :=
  if text.isEmpty || decide (4 < text.length) then none else hexNumber? text

/-- The groups written between colons; the last of them may be two in decimal bytes. -/
def groupsBetween? : List (List Char) → Option (List Nat)
  | [] => some []
  | [last] => if last.contains '.' then dottedGroups? last else (group? last).map ([·])
  | first :: rest =>
    match group? first, groupsBetween? rest with
    | some group, some groups => some (group :: groups)
    | _, _ => none

/-- The groups of a text, which may be empty. -/
def groupsOf? (text : List Char) : Option (List Nat) :=
  if text.isEmpty then some [] else groupsBetween? (text.splitOn ':')

/-- A text up to its first two colons in a row, and what follows them. -/
def splitAtGap : List Char → List Char × Option (List Char)
  | [] => ([], none)
  | ':' :: ':' :: rest => ([], some rest)
  | c :: rest =>
    let (before, after) := splitAtGap rest
    (c :: before, after)

/-- The eight groups that a text stands for. -/
def eightGroups? (text : List Char) : Option (List Nat) :=
  match splitAtGap text with
  | (before, none) =>
    match groupsOf? before with
    | some groups => if groups.length = 8 then some groups else none
    | none => none
  | (before, some after) =>
    if before.contains '.' then none
    else
      match groupsOf? before, groupsOf? after with
      | some leading, some trailing =>
        if leading.length + trailing.length < 8 then
          some (leading ++ List.replicate (8 - leading.length - trailing.length) 0 ++ trailing)
        else none
      | _, _ => none

end TaskAgent.Host
