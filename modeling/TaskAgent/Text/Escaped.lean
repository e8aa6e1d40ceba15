import TaskAgent.Text.Printable

/-!
# Escaped text

A text shown between double quotes so that a reader sees every character of it: quotes,
backslashes, line ends and tabs have escapes of two characters, and a character that does not
show, or that would attach to its neighbour, is given by its code point in braces.
-/

namespace TaskAgent.Text

/-- A character given by its code point, as `\u` and hexadecimal digits in braces. -/
def escapedPoint (c : Char) : List Char :=
  ['\\', 'u', '\x7b'] ++ Nat.toDigits 16 c.toNat ++ ['\x7d']

/-- A character as it stands in an escaped text. -/
def escaped (c : Char) : List Char :=
  if c = '"' then ['\\', '"']
  else if c = '\\' then ['\\', '\\']
  else if c = '\n' then ['\\', 'n']
  else if c = '\r' then ['\\', 'r']
  else if c = '\t' then ['\\', 't']
  else if c = '\x00' then ['\\', '0']
  else if isExtender c || !isPrintable c then escapedPoint c
  else [c]

/-- A text between quotes, with escapes where a character would not show as itself. -/
def quoted (text : String) : String :=
  String.ofList ('"' :: text.toList.flatMap escaped ++ ['"'])

end TaskAgent.Text
