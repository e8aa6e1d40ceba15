import TaskAgent.Files.Path
import TaskAgent.Ledger

/-!
# File trees

The files that jobs read and write: directories with named entries, files with their bytes, and
sinks, which read as empty and swallow what is written. A tree has a working directory from which
relative paths start.

Looking up a path walks from directory to directory; two dots lead back to the directory that
holds the current one, and from the root to itself. Every operation answers with the fault that
stopped it or with the tree after it.
-/

namespace TaskAgent

/-- Something in a file tree. -/
inductive FileNode where
  | file (content : ByteArray)
  /-- Reads as empty and swallows what is written. -/
  | sink
  /-- A directory and its entries, sorted by name. -/
  | directory (entries : List (String × FileNode))

namespace FileNode

def isDirectory : FileNode → Bool
  | directory _ => true
  | _ => false

def entries : FileNode → List (String × FileNode)
  | directory entries => entries
  | _ => []

/-- The node at a place given by the names that lead to it. -/
def at? : List String → FileNode → Option FileNode
  | [], node => some node
  | name :: rest, directory entries =>
    match Ledger.search name entries with
    | some node => at? rest node
    | none => none
  | _ :: _, _ => none

/-- The tree with `node` written at a place whose directory exists. -/
def put (node : FileNode) : List String → FileNode → FileNode
  | [], _ => node
  | name :: rest, directory entries =>
    match Ledger.search name entries with
    | some old => directory (Ledger.place name (put node rest old) entries)
    | none => if rest.isEmpty then directory (Ledger.place name node entries) else directory entries
  | _ :: _, other => other

end FileNode

/-- A file tree with its working directory. -/
structure FileTree where
  root : FileNode
  /-- The names that lead from the root to the working directory. -/
  here : List String

namespace FileTree

/-- A directory of empty directories. -/
def shelf (names : List String) : FileNode :=
  .directory (names.map fun name => (name, .directory []))

/-- A tree with the directories that every machine has, files of the system whose content does
not matter, a sink, and an empty working directory in the place for scratch. The working directory
goes without a name, so that no path leads into it but those that start there. -/
def initial : FileTree :=
  ⟨.directory [("bin", .directory []), ("boot", .directory []),
    ("dev", .directory [("null", .sink)]),
    ("etc", .directory [("hosts", .file .empty), ("passwd", .file .empty)]),
    ("home", .directory []), ("lib", .directory []), ("lib64", .directory []),
    ("media", .directory []), ("mnt", .directory []), ("opt", .directory []),
    ("proc", .directory []), ("root", .directory []), ("run", .directory []),
    ("sbin", .directory []), ("srv", .directory []), ("sys", .directory []),
    ("tmp", shelf [""]),
    ("usr", shelf ["bin", "include", "lib", "local", "sbin", "share", "src"]),
    ("var", shelf ["cache", "lib", "log", "tmp"])], ["tmp", ""]⟩

/-- Goes through the parts of a path, each from a directory, given the place reached so far. -/
def walk (root : FileNode) (place : List String) : List String → Except FileFault (List String)
  | [] => .ok place
  | part :: rest =>
    match root.at? place with
    | some (.directory entries) =>
      if part == "." then walk root place rest
      else if part == ".." then walk root place.dropLast rest
      else if FilePath.greatestPart < part.utf8ByteSize then .error .nameTooLong
      else
        match Ledger.search part entries with
        | some _ => walk root (place ++ [part]) rest
        | none => .error .notFound
    | some _ => .error .notDirectory
    | none => .error .notFound

/-- The place from which a path starts. -/
def startOf (tree : FileTree) (path : FilePath) : List String :=
  if path.absolute then [] else tree.here

/-- The node that a text names. -/
def find (tree : FileTree) (text : String) : Except FileFault FileNode :=
  match FilePath.textFault? text with
  | some fault => .error fault
  | none =>
    let path := FilePath.ofText text
    match walk tree.root (tree.startOf path) path.parts with
    | .error fault => .error fault
    | .ok place =>
      match tree.root.at? place with
      | some node => if path.trailing && !node.isDirectory then .error .notDirectory else .ok node
      | none => .error .notFound

/-- Whether a text names a directory. -/
def isDirectory (tree : FileTree) (text : String) : Bool :=
  match tree.find text with
  | .ok node => node.isDirectory
  | .error _ => false

/-- The directory in which a text names an entry, as a place, and the name of the entry; the name
is none where the text names a place relative to a directory. -/
def locate (tree : FileTree) (text : String) : Except FileFault (List String × Option String) :=
  match FilePath.textFault? text with
  | some fault => .error fault
  | none =>
    let path := FilePath.ofText text
    match path.parts.reverse with
    | [] => .ok ([], none)
    | last :: before =>
      match walk tree.root (tree.startOf path) before.reverse with
      | .error fault => .error fault
      | .ok place =>
        match tree.root.at? place with
        | some (.directory _) =>
          .ok (place, if FilePath.isDots last then none else some last)
        | some _ => .error .notDirectory
        | none => .error .notFound

def makeDirectory (tree : FileTree) (text : String) : Except FileFault FileTree :=
  match tree.locate text with
  | .error fault => .error fault
  | .ok (_, none) => .error .alreadyExists
  | .ok (place, some name) =>
    if FilePath.greatestPart < name.utf8ByteSize then .error .nameTooLong
    else
      match tree.root.at? (place ++ [name]) with
      | some _ => .error .alreadyExists
      | none => .ok { tree with root := FileNode.put (.directory []) (place ++ [name]) tree.root }

/-- Makes a directory and those it lies in, as far as they are missing; `depth` bounds how many
of them are looked at. The tree comes back as far as it was built. -/
def makeDirectories (tree : FileTree) (text : String) :
    Nat → Except FileFault Unit × FileTree
  | 0 => (.ok (), tree)
  | depth + 1 =>
    if text.isEmpty then (.ok (), tree)
    else
      match tree.makeDirectory text with
      | .ok tree => (.ok (), tree)
      | .error .notFound =>
        match FilePath.parentText? text with
        | none => (.error .notFound, tree)
        | some parent =>
          match makeDirectories tree parent depth with
          | (.error fault, tree) => (.error fault, tree)
          | (.ok (), tree) =>
            match tree.makeDirectory text with
            | .ok tree => (.ok (), tree)
            | .error fault =>
              if tree.isDirectory text then (.ok (), tree) else (.error fault, tree)
      | .error fault => if tree.isDirectory text then (.ok (), tree) else (.error fault, tree)

/-- Writes a file, in place of what it held. -/
def writeFile (tree : FileTree) (text : String) (content : ByteArray) :
    Except FileFault FileTree :=
  match tree.locate text with
  | .error fault => .error fault
  | .ok (_, none) => .error .isDirectory
  | .ok (place, some name) =>
    if (FilePath.ofText text).trailing then .error .isDirectory
    else if FilePath.greatestPart < name.utf8ByteSize then .error .nameTooLong
    else
      match tree.root.at? (place ++ [name]) with
      | some (.directory _) => .error .isDirectory
      | some .sink => .ok tree
      | _ => .ok { tree with root := FileNode.put (.file content) (place ++ [name]) tree.root }

/-- Writes a file after making the directories it lies in. The tree comes back as far as it was
changed. -/
def writeWithDirectories (tree : FileTree) (text : String) (content : ByteArray) :
    Except FileFault Unit × FileTree :=
  let made : Except FileFault Unit × FileTree :=
    match FilePath.parentText? text with
    | none => (.ok (), tree)
    | some parent => tree.makeDirectories parent (FilePath.ofText text).parts.length
  match made with
  | (.error fault, tree) => (.error fault, tree)
  | (.ok (), tree) =>
    match tree.writeFile text content with
    | .ok tree => (.ok (), tree)
    | .error fault => (.error fault, tree)

mutual

/-- What lies below a node, each with the path to it from there; directories end in a slash. -/
def listing (leading : String) : FileNode → List (String × FileNode)
  | .directory entries => listingEntries leading entries
  | _ => []

/-- What the entries of a directory are and hold. -/
def listingEntries (leading : String) :
    List (String × FileNode) → List (String × FileNode)
  | [] => []
  | entry :: rest =>
    let path := leading ++ entry.1
    (if entry.2.isDirectory then [(path ++ "/", entry.2)] else [(path, entry.2)]) ++
      listing (path ++ "/") entry.2 ++ listingEntries leading rest

end

/-- What lies below the working directory. -/
def contents (tree : FileTree) : List (String × FileNode) :=
  match tree.root.at? tree.here with
  | some node => listing "" node
  | none => []

end FileTree

end TaskAgent
