import TaskAgent.Host.Address
import TaskAgent.Host.Name

/-!
# Hosts

What an address says about where a request goes: a name, or a number of four or of sixteen bytes.
A number of sixteen bytes stands in brackets. In a name, a percent sign and two hexadecimal digits
stand for a byte. A name whose last part is a number has to be a number of four bytes.
-/

namespace TaskAgent

/-- Where a request goes. -/
inductive Host where
  /-- To the host of a name, given by its parts. -/
  | name (parts : List (List Char))
  /-- To the host of a number of four bytes. -/
  | fourBytes (value : UInt32)
  /-- To the host of a number of sixteen bytes, given by its eight groups. -/
  | groups (values : List UInt16)
deriving DecidableEq, Repr

namespace Host

open Text

/-- The byte that two hexadecimal digits stand for. -/
def hexByte? (first second : UInt8) : Option UInt8 :=
  match hexValue? (Char.ofNat first.toNat), hexValue? (Char.ofNat second.toNat) with
  | some a, some b => some (16 * a + b).toUInt8
  | _, _ => none

/-- Bytes with every byte that is given by a percent sign and its digits in place of them. -/
def unescaped : List UInt8 → List UInt8
  | [] => []
  | sign :: first :: second :: rest =>
    match if sign = 0x25 then hexByte? first second else none with
    | some byte => byte :: unescaped rest
    | none => sign :: unescaped (first :: second :: rest)
  | byte :: rest => byte :: unescaped rest

/-- A text with every byte that is given by a percent sign and its digits in place of them. -/
def unescapedText? (text : List Char) : Option (List Char) :=
  let bytes := unescaped (String.ofList text).toUTF8.toList
  (String.fromUTF8? ⟨bytes.toArray⟩).map String.toList

/-- The host that the parts of a name stand for. -/
def ofParts? (parts : List (List Char)) : Option Host :=
  if parts = [[]] then none
  else if endsInNumber parts then (fourBytes? parts).map fun value => fourBytes (UInt32.ofNat value)
  else some (name parts)

/-- The host that a text stands for. -/
def ofText? : List Char → Option Host
  | '[' :: rest =>
    match rest.reverse with
    | ']' :: inside =>
      (eightGroups? inside.reverse).map fun values => groups (values.map UInt16.ofNat)
    | _ => none
  | text =>
    match unescapedText? text with
    | some text => (parts? text).bind ofParts?
    | none => none

/-- Whether a character cannot be written where a request names its host. -/
def isUnwritable (c : Char) : Bool := c == '"' || c == '\x60' || c == '\x7b' || c == '\x7d'

/-- Whether a request can name the host. -/
def isWritable : Host → Bool
  | name parts => !parts.any fun part => part.any isUnwritable
  | _ => true

end Host

end TaskAgent
