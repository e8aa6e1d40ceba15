import TaskAgent.Config.Options

/-!
# Command line

An option is given as `--name value`, `--name=value`, and the pool size also as `-n value`,
`-nvalue` or `-n=value`. A value that stands alone is looked at only when the next option comes or
the line ends, so an unknown argument after it is reported first; an attached value is looked at
where it stands.

Options that the line does not give are then looked up in the environment, in the order in which
they are declared.
-/

namespace TaskAgent

/-- A command line read so far. -/
structure CommandLine where
  options : Options
  given : List OptionName
  /-- The last option whose value stands alone, and the value once it has come. -/
  pending : Option (OptionName × Option String)
  /-- Whether two dashes were read, after which nothing is an option. -/
  closed : Bool

namespace CommandLine

/-- A command line of which nothing is read. -/
def start : CommandLine := ⟨{}, [], none, false⟩

/-- Takes in an option with its value, which must be there. -/
def accept (line : CommandLine) (name : OptionName) (value : Option String) :
    Except Refusal CommandLine :=
  match value with
  | none => .error .missingValue
  | some text =>
    if line.given.contains name then .error .repeatedOption
    else (line.options.set name text).map fun options =>
      { line with options := options, given := name :: line.given }

/-- Takes in the option whose value stands alone, if there is one. -/
def resolve (line : CommandLine) : Except Refusal CommandLine :=
  match line.pending with
  | none => .ok line
  | some (name, value) => accept { line with pending := none } name value

/-- Reads an option with the value attached to it, if there is one. -/
def readOption (line : CommandLine) (name : OptionName) (attached : Option String) :
    Except Refusal CommandLine :=
  match line.resolve with
  | .error refusal => .error refusal
  | .ok line =>
    match attached with
    | some text => line.accept name (some text)
    | none => .ok { line with pending := some (name, none) }

def readHelp (line : CommandLine) : Except Refusal CommandLine :=
  match line.resolve with
  | .error refusal => .error refusal
  | .ok _ => .error .helpAsked

/-- The part of an argument before the first equals sign, and the part after it if there is
one. -/
def splitValue (argument : List Char) : List Char × Option String :=
  match argument.dropWhile (· != '=') with
  | [] => (argument, none)
  | _ :: value => (argument.takeWhile (· != '='), some (String.ofList value))

/-- Reads an argument after its two dashes. -/
def readLong (line : CommandLine) (argument : List Char) : Except Refusal CommandLine :=
  let (name, attached) := splitValue argument
  match OptionName.ofLong? name with
  | some option => line.readOption option attached
  | none =>
    if name == "help".toList then
      match attached with
      | some _ => .error .unneededValue
      | none => line.readHelp
    else .error .unknownArgument

/-- Reads an argument after its single dash. -/
def readShort (line : CommandLine) (letters : List Char) : Except Refusal CommandLine :=
  match letters with
  | 'h' :: _ => line.readHelp
  | ['n'] => line.readOption .poolSize none
  | 'n' :: '=' :: value => line.readOption .poolSize (some (String.ofList value))
  | 'n' :: value => line.readOption .poolSize (some (String.ofList value))
  | _ => .error .unknownArgument

/-- Reads an argument that has no dashes. -/
def readValue (line : CommandLine) (argument : List Char) : Except Refusal CommandLine :=
  match line.pending with
  | some (name, none) =>
    .ok { line with pending := some (name, some (String.ofList argument)) }
  | _ => .error .unknownArgument

def readArgument (line : CommandLine) (argument : String) : Except Refusal CommandLine :=
  if line.closed then .error .unknownArgument
  else
    match argument.toList with
    | ['-', '-'] => .ok { line with closed := true }
    | '-' :: '-' :: rest => line.readLong rest
    | '-' :: letter :: rest => line.readShort (letter :: rest)
    | rest => line.readValue rest

/-- Looks up an option in the environment unless the line gave it. -/
def readVariable (environment : String → Option String) (line : CommandLine)
    (name : OptionName) : Except Refusal CommandLine :=
  if line.given.contains name then .ok line
  else
    match environment name.environmentName with
    | none => .ok line
    | some text => (line.options.set name text).map fun options => { line with options := options }

/-- The options that a command line and an environment give. -/
def parse (arguments : List String) (environment : String → Option String) :
    Except Refusal Options := do
  let line ← arguments.foldlM readArgument start
  let line ← line.resolve
  let line ← OptionName.all.foldlM (readVariable environment) line
  return line.options

end CommandLine

end TaskAgent
