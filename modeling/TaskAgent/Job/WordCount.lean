import TaskAgent.Files.Lines
import TaskAgent.Job.Failure
import TaskAgent.Text.Alphanumeric
import TaskAgent.Text.Blank
import TaskAgent.Text.Lowercase

/-!
# Word counts

Counts the words of a file and writes them to another, one line per word: the word, a comma, the
count. Words are taken in their normal form: only letters, numbers and underscores are kept, and
what is left is written in small letters. Words with nothing left do not count.

While it reads, the job asks before every line whether it is to stop, and once more before it
writes; nothing is written before everything was read.
-/

namespace TaskAgent.WordCount

/-- Whether a character belongs to the normal form of a word. -/
def isKept (c : Char) : Bool := Text.isAlphanumeric c || c == '_'

def normalForm (word : List Char) : String :=
  String.ofList (Text.lowercase (word.filter isKept))

/-- The words of a text that count, in their normal form and in order. -/
def countedWords (text : String) : List String :=
  ((Text.words text.toList).map normalForm).filter fun word => !word.isEmpty

/-- How often each word was met. -/
abbrev Counts := Ledger String Nat

/-- The counts after one more word. -/
def Counts.add (counts : Counts) (word : String) : Counts :=
  counts.insert word ((counts.find? word).getD 0 + 1)

/-- The counts after more words. -/
def Counts.addAll (counts : Counts) (words : List String) : Counts := words.foldl Counts.add counts

def line (entry : String × Nat) : String := entry.1 ++ "," ++ toString entry.2 ++ "\n"

def Counts.text (counts : Counts) : String := String.join (counts.entries.map line)

/-- Counts the words of the lines from `position` on; `watch` tells whether the job has to stop
when it comes to a line. -/
def countLines (path : String) (watch : Nat → Bool) (position : Nat) (counts : Counts) :
    List (Except FileFault String) → Except JobError Counts
  | [] => .ok counts
  | line :: rest =>
    if watch position then .error (.readingInterrupted path)
    else
      match line with
      | .error fault => .error (.file fault)
      | .ok text =>
        countLines path watch (position + 1) (counts.addAll (countedWords text)) rest

/-- Counts the words of a file; nothing is left to be done when the job has to stop at its end. -/
def read (watch : Nat → Bool) (path : String) (tree : FileTree) : Except JobError Counts :=
  let activity := "no se pudo leer " ++ path
  match tree.find path with
  | .error fault => .error (.within activity (.file fault))
  | .ok node =>
    match countLines path watch 0 ∅ node.lines with
    | .error error => .error (.within activity error)
    | .ok counts => if watch node.lines.length then .error .interrupted else .ok counts

def result (counts : Counts) (output : String) : Json :=
  .object [("distinct_words", .ofNat counts.size), ("output_path", .string output)]

/-- Counts the words of one file and writes the counts to another. -/
def run (watch : Nat → Bool) (input output : String) (tree : FileTree) :
    Except JobError Json × FileTree :=
  match read watch input tree with
  | .error error => (.error error, tree)
  | .ok counts =>
    match tree.writeWithDirectories output counts.text.toUTF8 with
    | (.ok (), written) => (.ok (result counts output), written)
    | (.error fault, written) =>
      (.error (.within ("no se pudo escribir " ++ output) (.file fault)), written)

end TaskAgent.WordCount
