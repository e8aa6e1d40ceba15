import TaskAgent.Files.Fault

/-!
# Paths

A path is a text whose parts stand between slashes. Empty parts count for nothing; a slash at the
end asks for a directory. The limits are those of the system: 255 bytes for a part, 4095 for a
path, and no character that would end the text early.
-/

namespace TaskAgent

/-- A path taken apart. -/
structure FilePath where
  /-- Whether the path starts at the root. -/
  absolute : Bool
  /-- The parts that are not empty, in order. -/
  parts : List String
  /-- Whether a slash stands at the end. -/
  trailing : Bool
deriving DecidableEq, Repr

namespace FilePath

/-- The longest part, in bytes. -/
def greatestPart : Nat := 255

/-- The longest path, in bytes. -/
def greatestPath : Nat := 4095

/-- The pieces of a text between slashes, after the pieces found and the piece being read, both
backwards. -/
def splitFrom (found : List String) (current : List Char) : List Char → List String
  | [] => (String.ofList current.reverse :: found).reverse
  | '/' :: rest => splitFrom (String.ofList current.reverse :: found) [] rest
  | c :: rest => splitFrom found (c :: current) rest

/-- The path that a text names. -/
def ofText (text : String) : FilePath :=
  let pieces := splitFrom [] [] text.toList
  ⟨pieces.head?.any String.isEmpty && decide (1 < pieces.length),
    pieces.filter fun piece => !piece.isEmpty,
    decide (1 < pieces.length) && pieces.getLast?.any String.isEmpty⟩

/-- What makes a text unfit to name anything, if something does. -/
def textFault? (text : String) : Option FileFault :=
  if text.toList.contains '\x00' then some .nulInPath
  else if text.isEmpty then some .notFound
  else if greatestPath < text.utf8ByteSize then some .nameTooLong
  else none

/-- Whether a part names no entry of a directory but a place relative to it. -/
def isDots (part : String) : Bool := part == "." || part == ".."

/-- Whether a piece of a path between slashes counts for nothing. -/
def isIdle (piece : String) : Bool := piece.isEmpty || piece == "."

/-- A text without the mark of where it starts, a slash or a dot of its own, and that mark. -/
def splitStart : List Char → String × List Char
  | '/' :: rest => ("/", rest)
  | ['.'] => (".", [])
  | '.' :: '/' :: rest => (".", '/' :: rest)
  | text => ("", text)

/-- The text of the directory that a path lies in: the text up to its last part that counts, less
what counts for nothing there. It is empty for a relative path of one part, and there is none for
the root itself. -/
def parentText? (text : String) : Option String :=
  let (start, rest) := splitStart text.toList
  match (splitFrom [] [] rest).reverse.dropWhile isIdle with
  | _ :: before => some (start ++ "/".intercalate (before.dropWhile isIdle).reverse)
  | [] => if start == "." then some "" else none

end FilePath

end TaskAgent
