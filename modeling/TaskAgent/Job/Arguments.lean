import TaskAgent.Json.Value
import TaskAgent.Json.Printer
import TaskAgent.Text.Escaped

/-!
# Arguments of jobs

A job that needs named arguments takes them from a JSON value: an object with its members, or a
list with the values in order. Members that the job does not know are passed over; a list holds
exactly the declared values.

The members of an object are looked at in the order of their names, and only then is a missing
one noticed, in the order of declaration.
-/

namespace TaskAgent

/-- Why a value does not fit as the arguments of a job. -/
inductive ArgumentFault where
  /-- A member is not there. -/
  | missing (name : String)
  /-- A value is of the wrong kind. -/
  | wrongKind (found : Json) (expected : String)
  /-- A value is of the right kind but out of range. -/
  | outOfRange (found : Json) (expected : String)
  /-- A list ends too early. -/
  | tooFew (length : Nat) (record : String) (declared : Nat)
  /-- A list goes on for too long. -/
  | tooMany (length : Nat)

namespace ArgumentFault

/-- What is said about a value that was found. -/
def describe : Json → String
  | .null => "null"
  | .bool value => "boolean `" ++ (if value then "true" else "false") ++ "`"
  | .integer value => "integer `" ++ (Json.integer value).render ++ "`"
  | .real value => "floating point `" ++ (Json.real value).render ++ "`"
  | .string value => "string " ++ Text.quoted value
  | .array _ => "sequence"
  | .object _ => "map"

/-- A number of elements in words. -/
def elementCount (count : Nat) : String :=
  toString count ++ (if count = 1 then " element" else " elements")

def message : ArgumentFault → String
  | missing name => "missing field `" ++ name ++ "`"
  | wrongKind found expected =>
    "invalid type: " ++ describe found ++ ", expected " ++ expected
  | outOfRange found expected =>
    "invalid value: " ++ describe found ++ ", expected " ++ expected
  | tooFew length record declared =>
    "invalid length " ++ toString length ++ ", expected struct " ++ record ++ " with " ++
      elementCount declared
  | tooMany length =>
    "invalid length " ++ toString length ++ ", expected fewer elements in array"

end ArgumentFault

namespace Arguments

/-- Tells why a value cannot stand for an argument, if it cannot. -/
abbrev Check := Json → Option ArgumentFault

/-- Holds of natural numbers; those of a value fit in 64 bits. -/
def natural : Check
  | .integer value => if value < 0 then some (.outOfRange (.integer value) "u64") else none
  | found => some (.wrongKind found "u64")

def text : Check
  | .string _ => none
  | found => some (.wrongKind found "a string")

/-- Checks a list of values against the declared arguments, the first of them at position
`position`. -/
def takeElements (record : String) (declared total position : Nat) :
    List (String × Check) → List Json → Except ArgumentFault (List Json)
  | [], rest => if rest.isEmpty then .ok [] else .error (.tooMany total)
  | _ :: _, [] => .error (.tooFew position record declared)
  | (_, check) :: checks, value :: values =>
    match check value with
    | some fault => .error fault
    | none =>
      match takeElements record declared total (position + 1) checks values with
      | .ok taken => .ok (value :: taken)
      | .error fault => .error fault

/-- The first fault of the members that the job knows. -/
def memberFault? (declared : List (String × Check)) (members : List (String × Json)) :
    Option ArgumentFault :=
  members.findSome? fun member =>
    match declared.lookup member.1 with
    | some check => check member.2
    | none => none

/-- The values of the declared arguments, in the order of declaration. -/
def takeMembers (members : List (String × Json)) :
    List (String × Check) → Except ArgumentFault (List Json)
  | [] => .ok []
  | (name, _) :: declared =>
    match Ledger.search name members with
    | none => .error (.missing name)
    | some value =>
      match takeMembers members declared with
      | .ok taken => .ok (value :: taken)
      | .error fault => .error fault

def take (record : String) (declared : List (String × Check)) :
    Json → Except ArgumentFault (List Json)
  | .array values =>
    takeElements record declared.length values.length 0 declared values
  | .object members =>
    match memberFault? declared members with
    | some fault => .error fault
    | none => takeMembers members declared
  | found => .error (.wrongKind found ("struct " ++ record))

/-- The duration that a sleeper is given, in milliseconds. -/
def duration (arguments : Json) : Except ArgumentFault Nat :=
  match take "SleepArgs" [("ms", natural)] arguments with
  | .ok [.integer value] => .ok value.toNat
  | .ok _ => .error (.missing "ms")
  | .error fault => .error fault

/-- The file that a word count reads and the file that it writes. -/
def paths (arguments : Json) : Except ArgumentFault (String × String) :=
  match take "WordCountArgs" [("input_path", text), ("output_path", text)] arguments with
  | .ok [.string input, .string output] => .ok (input, output)
  | .ok _ => .error (.missing "input_path")
  | .error fault => .error fault

end Arguments

end TaskAgent
