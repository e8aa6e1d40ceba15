import TaskAgent.Decimal.Numeral
import TaskAgent.Json.Value

/-!
# JSON as written

What a JSON text holds before anything is made of it: numbers with their digits, members in the
order and as often as they stand. A text in which a half of a surrogate pair stands alone has no
characters, but may be passed over.

`Written.value?` makes a free value of it. That is where the limits of free values hold: at most
`greatestNesting` lists and objects inside each other, every number below the largest floating
value, every text made of characters.
-/

namespace TaskAgent.Json

open Decimal

/-- A JSON text taken apart. -/
inductive Written where
  | null
  /-- The word `true` or `false`. -/
  | bool (value : Bool)
  | number (numeral : Numeral)
  /-- A text; none where a half of a surrogate pair stands alone. -/
  | string (text : Option String)
  /-- A list. -/
  | array (elements : List Written)
  /-- An object with its members as they stand. -/
  | object (members : List (Option String × Written))
deriving Inhabited, Repr

/-- How many lists and objects may stand inside each other. -/
def greatestNesting : Nat := 127

namespace Written

mutual

/-- The free value that is written, with at most `allowance` lists and objects inside each
other. -/
def value? (allowance : Nat) : Written → Option Json
  | null => some .null
  | bool value => some (.bool value)
  | number numeral =>
    match numeral.value? with
    | none => none
    | some (.integer value) => some (.integer value)
    | some (.real value) => some (.real value)
  | string none => none
  | string (some text) => some (.string text)
  | array elements =>
    match allowance with
    | 0 => none
    | inner + 1 => (elements? inner elements).map .array
  | object members =>
    match allowance with
    | 0 => none
    | inner + 1 => (members? inner members).map fun found => .object (sortedMembers found)

/-- The values of a list. -/
def elements? (allowance : Nat) : List Written → Option (List Json)
  | [] => some []
  | element :: rest =>
    match value? allowance element, elements? allowance rest with
    | some value, some values => some (value :: values)
    | _, _ => none

/-- The members of an object, as they stand. -/
def members? (allowance : Nat) : List (Option String × Written) → Option (List (String × Json))
  | [] => some []
  | member :: rest =>
    match member.1, value? allowance member.2, members? allowance rest with
    | some name, some value, some found => some ((name, value) :: found)
    | _, _, _ => none

end

end Written

end TaskAgent.Json
