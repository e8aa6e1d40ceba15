import TaskAgent.Decimal.Shortest
import TaskAgent.Json.Value

/-!
# Printing JSON

The compact text of a value: no blanks, members in the order in which they stand, characters
beyond the basic alphabet as themselves. Inside a text the quote, the backslash and the control
characters are escaped, with a short escape where there is one.
-/

namespace TaskAgent.Json

open Decimal

def hexDigit (value : Nat) : Char := Nat.digitChar (value % 16)

/-- A character as it stands inside a printed text. -/
def printedChar (c : Char) : List Char :=
  if c = '"' then ['\\', '"']
  else if c = '\\' then ['\\', '\\']
  else if c = '\n' then ['\\', 'n']
  else if c = '\r' then ['\\', 'r']
  else if c = '\t' then ['\\', 't']
  else if c = '\x08' then ['\\', 'b']
  else if c = '\x0c' then ['\\', 'f']
  else if c.toNat < 0x20 then
    ['\\', 'u', '0', '0', hexDigit (c.toNat / 16), hexDigit c.toNat]
  else [c]

/-- A text between quotes. -/
def printedText (text : String) : List Char :=
  '"' :: (text.toList.flatMap printedChar ++ ['"'])

/-- The text of an integer. -/
def printedInteger : Int → List Char
  | .ofNat value => Nat.toDigits 10 value
  | .negSucc value => '-' :: Nat.toDigits 10 (value + 1)

mutual

/-- The compact text of a value. -/
def printed : Json → List Char
  | null => ['n', 'u', 'l', 'l']
  | bool true => ['t', 'r', 'u', 'e']
  | bool false => ['f', 'a', 'l', 's', 'e']
  | integer value => printedInteger value
  | real value => value.text?.getD ['n', 'u', 'l', 'l']
  | string value => printedText value
  | array elements => '[' :: printedElements elements
  | object members => '\x7b' :: printedMembers members

/-- The elements of a list and its closing bracket. -/
def printedElements : List Json → List Char
  | [] => [']']
  | element :: rest => printed element ++ printedFurtherElements rest

/-- The elements after the first and the closing bracket. -/
def printedFurtherElements : List Json → List Char
  | [] => [']']
  | element :: rest => ',' :: (printed element ++ printedFurtherElements rest)

/-- The members of an object and its closing brace. -/
def printedMembers : List (String × Json) → List Char
  | [] => ['\x7d']
  | member :: rest =>
    printedText member.1 ++ ':' :: (printed member.2 ++ printedFurtherMembers rest)

/-- The members after the first and the closing brace. -/
def printedFurtherMembers : List (String × Json) → List Char
  | [] => ['\x7d']
  | member :: rest =>
    ',' :: (printedText member.1 ++ ':' :: (printed member.2 ++ printedFurtherMembers rest))

end

/-- The compact text of a value as a string. -/
def render (value : Json) : String := String.ofList (printed value)

end TaskAgent.Json
