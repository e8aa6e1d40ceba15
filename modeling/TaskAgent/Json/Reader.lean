import TaskAgent.Json.Written
import TaskAgent.Text.Hexadecimal

/-!
# Reading JSON

A text is taken apart from left to right: each reader takes what it is for from the front and
leaves the rest. Blanks may stand around every value; nothing else may stand beside it, and
there are no comments, no trailing commas, no signs or digits beyond the grammar of numbers.

Lists and objects may stand inside each other to any depth here: the limit belongs to the values
(`Written.value?`), because a member that nobody asks for is passed over whole.
-/

namespace TaskAgent.Json

open Decimal

/-- Whether a character may stand between the parts of a JSON text. -/
def isGap (c : Char) : Bool := c == ' ' || c == '\n' || c == '\t' || c == '\r'

/-- The text after the blanks in front. -/
def skipGap (text : List Char) : List Char := text.dropWhile isGap

/-- A piece of a text in quotes: a character, or a unit of 16 bits that an escape gives. -/
inductive Piece where
  | char (c : Char)
  /-- A unit given by four hexadecimal digits. -/
  | unit (value : Nat)
deriving DecidableEq, Repr

def unit? (first second third fourth : Char) : Option Nat :=
  match Text.hexValue? first, Text.hexValue? second, Text.hexValue? third,
    Text.hexValue? fourth with
  | some a, some b, some c, some d => some (((a * 16 + b) * 16 + c) * 16 + d)
  | _, _, _, _ => none

/-- The character that a short escape stands for. -/
def shortEscape? : Char → Option Char
  | '"' => some '"'
  | '\\' => some '\\'
  | '/' => some '/'
  | 'b' => some '\x08'
  | 'f' => some '\x0c'
  | 'n' => some '\n'
  | 'r' => some '\r'
  | 't' => some '\t'
  | _ => none

/-- The pieces of a text up to its closing quote, after the pieces found so far (backwards), and
the rest. -/
def readPieces (found : List Piece) : List Char → Option (List Piece × List Char)
  | [] => none
  | '"' :: rest => some (found.reverse, rest)
  | '\\' :: 'u' :: first :: second :: third :: fourth :: rest =>
    match unit? first second third fourth with
    | some unit => readPieces (.unit unit :: found) rest
    | none => none
  | '\\' :: escape :: rest =>
    match shortEscape? escape with
    | some c => readPieces (.char c :: found) rest
    | none => none
  | c :: rest => if c.toNat < 0x20 ∨ c = '\\' then none else readPieces (.char c :: found) rest

/-- Whether a unit is the first half of a surrogate pair. -/
def isLeading (unit : Nat) : Bool := 0xD800 ≤ unit && unit < 0xDC00

/-- Whether a unit is the second half of a surrogate pair. -/
def isTrailing (unit : Nat) : Bool := 0xDC00 ≤ unit && unit < 0xE000

/-- The characters of the pieces, after those found so far (backwards); none when a half of a
surrogate pair stands alone. -/
def joinPieces (found : List Char) : List Piece → Option (List Char)
  | [] => some found.reverse
  | .char c :: rest => joinPieces (c :: found) rest
  | .unit first :: .unit second :: rest =>
    if isLeading first then
      if isTrailing second then
        let point := 0x10000 + (first - 0xD800) * 0x400 + (second - 0xDC00)
        joinPieces (Char.ofNat point :: found) rest
      else none
    else if isTrailing first then none
    else joinPieces (Char.ofNat first :: found) (.unit second :: rest)
  | .unit unit :: rest =>
    if isLeading unit || isTrailing unit then none
    else joinPieces (Char.ofNat unit :: found) rest

/-- A text after its opening quote. -/
def readText (text : List Char) : Option (Option String × List Char) :=
  match readPieces [] text with
  | none => none
  | some (pieces, rest) => some ((joinPieces [] pieces).map String.ofList, rest)

/-- The digits in front of a text, and the rest. -/
def readDigits (text : List Char) : List Char × List Char :=
  (text.takeWhile Char.isDigit, text.dropWhile Char.isDigit)

/-- The digits before the point: a zero alone, or digits that do not start with zero. -/
def readWhole (text : List Char) : Option (List Char × List Char) :=
  match text with
  | '0' :: rest => some (['0'], rest)
  | text =>
    match readDigits text with
    | ([], _) => none
    | found => some found

/-- The fraction in front of a text, if a point stands there. -/
def readFraction (text : List Char) : Option (Option (List Char) × List Char) :=
  match text with
  | '.' :: rest =>
    match readDigits rest with
    | ([], _) => none
    | (digits, rest) => some (some digits, rest)
  | text => some (none, text)

/-- The sign of a power of ten: whether it is minus, and the rest. -/
def readPowerSign (text : List Char) : Bool × List Char :=
  match text with
  | '-' :: rest => (true, rest)
  | '+' :: rest => (false, rest)
  | text => (false, text)

/-- The power of ten in front of a text, if its letter stands there. -/
def readPower (text : List Char) : Option (Option (Bool × List Char) × List Char) :=
  match text with
  | 'e' :: rest | 'E' :: rest =>
    let (negative, rest) := readPowerSign rest
    match readDigits rest with
    | ([], _) => none
    | (digits, rest) => some (some (negative, digits), rest)
  | text => some (none, text)

/-- A number without its sign. -/
def readMagnitude (negative : Bool) (text : List Char) : Option (Numeral × List Char) :=
  match readWhole text with
  | none => none
  | some (whole, rest) =>
    match readFraction rest with
    | none => none
    | some (fraction, rest) =>
      match readPower rest with
      | none => none
      | some (power, rest) => some (⟨negative, whole, fraction, power⟩, rest)

/-- A number. -/
def readNumeral (text : List Char) : Option (Numeral × List Char) :=
  match text with
  | '-' :: rest => readMagnitude true rest
  | text => readMagnitude false text

mutual

/-- The value in front of a text, blanks before it skipped. -/
def readValue : Nat → List Char → Option (Written × List Char)
  | 0, _ => none
  | fuel + 1, text =>
    match skipGap text with
    | '\x7b' :: rest =>
      match skipGap rest with
      | '\x7d' :: rest => some (.object [], rest)
      | rest => readMembers fuel [] rest
    | '[' :: rest =>
      match skipGap rest with
      | ']' :: rest => some (.array [], rest)
      | rest => readElements fuel [] rest
    | '"' :: rest =>
      match readText rest with
      | some (text, rest) => some (.string text, rest)
      | none => none
    | 'n' :: 'u' :: 'l' :: 'l' :: rest => some (.null, rest)
    | 't' :: 'r' :: 'u' :: 'e' :: rest => some (.bool true, rest)
    | 'f' :: 'a' :: 'l' :: 's' :: 'e' :: rest => some (.bool false, rest)
    | rest =>
      match readNumeral rest with
      | some (numeral, rest) => some (.number numeral, rest)
      | none => none

/-- The rest of a list that has at least one more element, after the elements found so far
(backwards). -/
def readElements : Nat → List Written → List Char → Option (Written × List Char)
  | 0, _, _ => none
  | fuel + 1, found, text =>
    match readValue fuel text with
    | none => none
    | some (element, rest) =>
      match skipGap rest with
      | ',' :: rest => readElements fuel (element :: found) rest
      | ']' :: rest => some (.array (element :: found).reverse, rest)
      | _ => none

/-- The rest of an object that has at least one more member, after the members found so far
(backwards). -/
def readMembers :
    Nat → List (Option String × Written) → List Char → Option (Written × List Char)
  | 0, _, _ => none
  | fuel + 1, found, text =>
    match skipGap text with
    | '"' :: rest =>
      match readText rest with
      | none => none
      | some (name, rest) =>
        match skipGap rest with
        | ':' :: rest =>
          match readValue fuel rest with
          | none => none
          | some (value, rest) =>
            match skipGap rest with
            | ',' :: rest => readMembers fuel ((name, value) :: found) rest
            | '\x7d' :: rest => some (.object ((name, value) :: found).reverse, rest)
            | _ => none
        | _ => none
    | _ => none

end

/-- A whole text taken apart: one value with blanks around it. Every step down consumes a
character, so the length of the text bounds the depth. -/
def read? (text : List Char) : Option Written :=
  match readValue (text.length + 1) text with
  | none => none
  | some (written, rest) => if (skipGap rest).isEmpty then some written else none

/-- The free value of a whole text. -/
def parse? (text : String) : Option Json :=
  match read? text.toList with
  | none => none
  | some written => written.value? greatestNesting

end TaskAgent.Json
