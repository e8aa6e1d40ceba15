import TaskAgent.Json.Reader

/-!
# Reading records

A record is written as an object whose members carry declared names, or as a list of its fields
in order. Members of other names are passed over unread, in any number; a declared name stands at
most once. A list holds no more than the declared fields.

Every reader takes the nesting that is still allowed: a list, an object, and so also a record
uses up one level.
-/

namespace TaskAgent.Json.Written

open Decimal

/-- The integer that is written, if the number has neither fraction nor power of ten. -/
def integer? : Written → Option Int
  | number numeral =>
    match numeral.value? with
    | some (.integer value) => some value
    | _ => none
  | _ => none

/-- The integer that is written, if it lies between two bounds, both included. -/
def integerWithin? (least greatest : Int) (written : Written) : Option Int :=
  match written.integer? with
  | some value => if least ≤ value ∧ value ≤ greatest then some value else none
  | none => none

def int64? (written : Written) : Option Int64 :=
  (written.integerWithin? Int64.minValue.toInt Int64.maxValue.toInt).map Int64.ofInt

/-- A natural number of 16 bits. -/
def uint16? (written : Written) : Option UInt16 :=
  (written.integerWithin? 0 (UInt16.size - 1)).map fun value => UInt16.ofNat value.toNat

/-- A natural number of 32 bits. -/
def uint32? (written : Written) : Option UInt32 :=
  (written.integerWithin? 0 (UInt32.size - 1)).map fun value => UInt32.ofNat value.toNat

/-- A natural number of 64 bits. -/
def uint64? (written : Written) : Option UInt64 :=
  (written.integerWithin? 0 (UInt64.size - 1)).map fun value => UInt64.ofNat value.toNat

/-- The floating value nearest to the number that is written. -/
def floating? (format : Format) : Written → Option Floating
  | number numeral =>
    match numeral.value? with
    | some (.integer value) => some (Floating.ofInt format value)
    | some (.real value) => some (value.convert format)
    | none => none
  | _ => none

def text? : Written → Option String
  | string text => text
  | _ => none

/-- What is written, or nothing for the word `null`. -/
def orNull? {α : Type} (read : Written → Option α) : Written → Option (Option α)
  | null => some none
  | written => (read written).map some

/-- The elements of a list, each read at one level less. -/
def list? {α : Type} (read : Nat → Written → Option α) : Nat → Written → Option (List α)
  | inner + 1, array elements => elements.mapM (read inner)
  | _, _ => none

/-- Members under their names; none when a name has a half of a surrogate pair. -/
def named? (members : List (Option String × Written)) : Option (List (String × Written)) :=
  members.mapM fun member => member.1.map fun name => (name, member.2)

/-- The declared fields of a record that are there. -/
def fields? (declared : List String) : Written → Option (List (String × Written))
  | array elements =>
    if elements.length ≤ declared.length then some (declared.zip elements) else none
  | object members =>
    match named? members with
    | none => none
    | some members =>
      let known := members.filter fun member => declared.contains member.1
      if (known.map (·.1)).Nodup then some known else none
  | _ => none

/-- Reads the declared fields of a record, which uses up one level of nesting. -/
def record? {α : Type} (declared : List String)
    (read : Nat → List (String × Written) → Option α) : Nat → Written → Option α
  | inner + 1, written =>
    match written.fields? declared with
    | some fields => read inner fields
    | none => none
  | 0, _ => none

/-- A field that must be there. -/
def required? {α : Type} (fields : List (String × Written)) (name : String)
    (read : Written → Option α) : Option α :=
  match fields.lookup name with
  | some written => read written
  | none => none

/-- A field that has a value of its own when it is missing. -/
def optional? {α : Type} (fields : List (String × Written)) (name : String) (default : α)
    (read : Written → Option α) : Option α :=
  match fields.lookup name with
  | some written => read written
  | none => some default

end TaskAgent.Json.Written
