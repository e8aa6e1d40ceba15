import TaskAgent.Ledger
import TaskAgent.Decimal.Floating

/-!
# JSON values

A free JSON value: what a task takes as arguments and gives back as its result, and what the
messages between agent and master are printed from. Members of an object stand in the order in
which they are printed; in a value that was read they are sorted by name, each name once.
-/

namespace TaskAgent

open Decimal

/-- A JSON value. -/
inductive Json where
  | null
  /-- A truth value. -/
  | bool (value : Bool)
  /-- A number without fraction and power of ten. -/
  | integer (value : Int)
  /-- Any other number. -/
  | real (value : Floating)
  /-- A text. -/
  | string (value : String)
  /-- A list of values. -/
  | array (elements : List Json)
  /-- Named values. -/
  | object (members : List (String × Json))
deriving Inhabited, Repr

namespace Json

/-- Members sorted by name; of two with one name the later one stays. -/
def sortedMembers (members : List (String × Json)) : List (String × Json) :=
  members.foldl (fun sorted member => Ledger.place member.1 member.2 sorted) []

/-- The member of an object with the given name. -/
def member? (name : String) : Json → Option Json
  | object members => Ledger.search name members
  | _ => none

def text? : Json → Option String
  | string value => some value
  | _ => none

/-- A natural number as a value. -/
def ofNat (value : Nat) : Json := integer value

/-- An optional value, `null` when there is none. -/
def ofOption : Option Json → Json
  | some value => value
  | none => null

mutual

/-- Whether two values are the same, numbers compared by their form. -/
def same : Json → Json → Bool
  | null, null => true
  | bool first, bool second => first == second
  | integer first, integer second => first == second
  | real first, real second => first == second
  | string first, string second => first == second
  | array first, array second => sameElements first second
  | object first, object second => sameMembers first second
  | _, _ => false

/-- Whether two lists hold the same values. -/
def sameElements : List Json → List Json → Bool
  | [], [] => true
  | first :: rest, second :: others => same first second && sameElements rest others
  | _, _ => false

/-- Whether two objects hold the same members in the same order. -/
def sameMembers : List (String × Json) → List (String × Json) → Bool
  | [], [] => true
  | first :: rest, second :: others =>
    first.1 == second.1 && same first.2 second.2 && sameMembers rest others
  | _, _ => false

end

instance : BEq Json := ⟨same⟩

end Json

end TaskAgent
