import TaskAgent.Text.CodePoints
import TaskAgent.Text.Hexadecimal

/-!
# Listings of characters

Large tables of characters are written as texts. Code points are hexadecimal; blanks stand between
the entries of a line, and a hyphen between the ends of a range.

A line that tells what stands for characters begins with a code point, and the texts that stand
for it and for those after it follow, the code points of each text joined by plus signs. If the
line begins with a range, a single code point follows, which stands for the first of the range,
and those after it stand for the others.
-/

namespace TaskAgent.Text

/-- The code point that hexadecimal digits give. -/
def pointOf (digits : List Char) : Nat := (hexNumber? digits).getD 0

def entriesOf (line : String) : List (List Char) := line.toList.splitOn ' '

/-- The range that an entry gives; a single code point is a range of its own. -/
def rangeOf (entry : List Char) : Nat × Nat :=
  match entry.splitOn '-' with
  | [first, last] => (pointOf first, pointOf last)
  | _ => (pointOf entry, pointOf entry)

/-- The set of code points that the lines of a listing give. -/
def CodePoints.ofListing (lines : List String) : CodePoints :=
  lines.flatMap fun line => (entriesOf line).map rangeOf

/-- Code points, each with the text that stands for it. -/
abbrev StandIns := List (Nat × List Nat)

namespace StandIns

def ofEntries : List (List Char) → StandIns
  | [] => []
  | place :: texts =>
    match place.splitOn '-', texts with
    | [first, last], [target] =>
      (List.range (pointOf last + 1 - pointOf first)).map fun distance =>
        (pointOf first + distance, [pointOf target + distance])
    | _, _ =>
      texts.mapIdx fun distance text =>
        (pointOf place + distance, (text.splitOn '+').map pointOf)

def ofListing (lines : List String) : StandIns :=
  lines.flatMap fun line => ofEntries (entriesOf line)

end StandIns

end TaskAgent.Text
