/-!
# Lines

A line feed ends a line, and a carriage return just before it belongs to the end as well. What is
left after the last line feed is a line too, unless nothing is left. Texts and bytes fall into lines
alike, so the two marks are parameters.
-/

namespace TaskAgent.Text

variable {α : Type} [BEq α]

/-- What stands before a line feed, less a carriage return at its end. -/
def endedLine (carriageReturn : α) (piece : List α) : List α :=
  if piece.getLast? == some carriageReturn then piece.dropLast else piece

/-- The lines of a sequence, without their ends. -/
def linesWith (lineFeed carriageReturn : α) (items : List α) : List (List α) :=
  let pieces := items.splitOn lineFeed
  pieces.dropLast.map (endedLine carriageReturn) ++
    pieces.getLast?.toList.filter fun piece => !piece.isEmpty

end TaskAgent.Text
