import TaskAgent.Files.Tree
import TaskAgent.Text.Lines

/-!
# Reading line by line

The bytes of a file are cut into lines before they are decoded, and every line has to be valid text
of its own. A directory can be opened like a file, but its first line is a fault.
-/

namespace TaskAgent.FileNode

def lineFeed : UInt8 := 10

def carriageReturn : UInt8 := 13

/-- The bytes of every line. -/
def lineBytes (content : ByteArray) : List (List UInt8) :=
  Text.linesWith lineFeed carriageReturn content.toList

/-- The text that bytes encode. -/
def lineText (bytes : List UInt8) : Except FileFault String :=
  match String.fromUTF8? ⟨bytes.toArray⟩ with
  | some text => .ok text
  | none => .error .notText

/-- What the lines of a node are, each read on its own. -/
def lines : FileNode → List (Except FileFault String)
  | file content => (lineBytes content).map lineText
  | sink => []
  | directory _ => [.error .isDirectory]

end TaskAgent.FileNode
