import TaskAgent.Text.CodePoints

/-!
# Blank characters

A character is blank when it has the white-space property of the character standard: that is wider
than the blanks of the basic alphabet (no-break spaces, line and paragraph separators) and leaves
out the characters of no width.
-/

namespace TaskAgent.Text

/-- The blank characters. -/
def blankPoints : CodePoints :=
  [(0x9, 0xd), (0x20, 0x20), (0x85, 0x85), (0xa0, 0xa0), (0x1680, 0x1680), (0x2000, 0x200a),
   (0x2028, 0x2029), (0x202f, 0x202f), (0x205f, 0x205f), (0x3000, 0x3000)]

/-- Whether a character separates words. -/
def isBlank (c : Char) : Bool := blankPoints.contains c

/-- Adds the word read so far, given backwards, to the words found before it. -/
def closeWord (current : List Char) (found : List (List Char)) : List (List Char) :=
  if current.isEmpty then found else current.reverse :: found

/-- The words of the rest of a text, after the words found and the word being read. -/
def wordsFrom (found : List (List Char)) (current : List Char) : List Char → List (List Char)
  | [] => (closeWord current found).reverse
  | c :: rest =>
    if isBlank c then wordsFrom (closeWord current found) [] rest
    else wordsFrom found (c :: current) rest

/-- The longest pieces of a text without blank characters, in order. -/
def words (text : List Char) : List (List Char) := wordsFrom [] [] text

end TaskAgent.Text
