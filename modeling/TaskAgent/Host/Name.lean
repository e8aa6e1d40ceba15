import TaskAgent.Host.Direction
import TaskAgent.Host.Expansion
import TaskAgent.Host.Joining

/-!
# Names of hosts

A name consists of parts between dots. Every part is brought into its one form; a part that starts
with the mark of short names is expanded, and what it stands for has to be in that form already.
No part begins with a mark, joiners stand only where they count, some characters of the basic
alphabet are kept for other uses, and the directions of the parts have to agree.
-/

namespace TaskAgent.Host

open Text

/-- Whether a character of the basic alphabet has another use in addresses. -/
def isKeptBack (c : Char) : Bool :=
  c ≤ ' ' || c == '\x7f' || "#/:<>?@[\\]^|%".toList.contains c

/-- Whether a character lies in the basic alphabet. -/
def isBasic (c : Char) : Bool := decide (c.toNat < 0x80)

/-- What the short names begin with. -/
def shortMark : List Char := "xn--".toList

/-- The longest short name, without its mark, in characters. -/
def greatestShort : Nat := 2000

/-- The longest part with letters beyond the basic alphabet, in characters. -/
def greatestLong : Nat := 1000

/-- The letters of a part of a name: of a short name those that it stands for. -/
def letters? (part : List Char) : Option (List Char) :=
  if shortMark.isPrefixOf part then
    let short := part.drop shortMark.length
    if short.all isBasic && decide (short.length ≤ greatestShort) then
      match expanded? short with
      | some letters =>
        if letters.any (fun c => !isBasic c) && isSpelled letters &&
            !shortMark.isPrefixOf letters then some letters
        else none
      | none => none
    else none
  else if part.all isBasic || decide (part.length ≤ greatestLong) then some part
  else none

/-- Whether letters can be a part of a name. -/
def isPart (letters : List Char) : Bool :=
  !letters.any isKeptBack && !letters.head?.any isMark && joinersCount [] letters

/-- The parts of the name that a text spells. -/
def parts? (text : List Char) : Option (List (List Char)) :=
  match spelled? text with
  | none => none
  | some name =>
    match (name.splitOn '.').mapM letters? with
    | some parts => if parts.all isPart && isOrdered parts then some parts else none
    | none => none

end TaskAgent.Host
