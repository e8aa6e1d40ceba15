import TaskAgent.Job.Instruction

/-!
# Scripts

A job whose instructions are its arguments: an object with a tag, under which the notes of the
script are kept, and a list of actions. An action is an object with the name of what to do and
what it is done with.
-/

namespace TaskAgent.Script

def naturalMember? (name : String) (action : Json) : Option Nat :=
  match action.member? name with
  | some (.integer value) => some value.toNat
  | _ => none

def textMember? (name : String) (action : Json) : Option String :=
  (action.member? name).bind Json.text?

/-- An error with a reason, inside the given activities, the last of them outermost. -/
def errorWithin (reason : String) (activities : List String) : JobError :=
  activities.foldl (fun error activity => .within activity error) (.reason reason)

def texts : Json → List String
  | .array elements => elements.filterMap Json.text?
  | _ => []

/-- The error that a failing action ends with. -/
def actionError (action : Json) : JobError :=
  errorWithin ((textMember? "message" action).getD "")
    (texts ((action.member? "context").getD .null))

/-- The call of another job. -/
def actionCall? (tag : String) (action : Json) : Option Instruction :=
  ((textMember? "name" action).bind Builtin.ofName?).map fun job =>
    .call tag job ((action.member? "args").getD .null)

/-- An action, given its own body. -/
def instruction? (tag : String) (action : Json) (body : Option (List Instruction)) :
    Option Instruction :=
  match textMember? "do" action with
  | some "wait" => (textMember? "gate" action).map .wait
  | some "log" => (textMember? "text" action).map (.log tag)
  | some "check" => some .check
  | some "sleep" => (naturalMember? "ms" action).map .sleep
  | some "shield" => body.map .shield
  | some "try" => body.map (.attempt tag)
  | some "job" => actionCall? tag action
  | some "return" => some (.give ((action.member? "value").getD .null))
  | some "fail" => some (.fail (actionError action))
  | some "panic" => (textMember? "message" action).map fun text => .breakDown (some text)
  | some "panic_any" => some (.breakDown none)
  | _ => none

mutual

def action? (tag : String) : Json → Option Instruction
  | .object members => instruction? tag (.object members) (body? tag members)
  | _ => none

/-- The instructions that a list of actions stands for. -/
def actions? (tag : String) : List Json → Option (List Instruction)
  | [] => some []
  | action :: rest =>
    match action? tag action, actions? tag rest with
    | some instruction, some instructions => some (instruction :: instructions)
    | _, _ => none

/-- The instructions in the body of an action. -/
def body? (tag : String) : List (String × Json) → Option (List Instruction)
  | [] => none
  | member :: rest => if member.1 = "body" then script? tag member.2 else body? tag rest

/-- The instructions that a list of actions stands for. -/
def script? (tag : String) : Json → Option (List Instruction)
  | .array actions => actions? tag actions
  | _ => none

end

/-- The instructions of a script with given arguments. Arguments that are no script make it
fail. -/
def program (arguments : Json) : List Instruction :=
  match textMember? "tag" arguments, arguments.member? "script" with
  | none, _ => [.fail (.arguments (.missing "tag"))]
  | some _, none => [.fail (.arguments (.missing "script"))]
  | some tag, some script =>
    match script? tag script with
    | some instructions => instructions
    | none => [.fail (.arguments (.wrongKind script "script"))]

end TaskAgent.Script
