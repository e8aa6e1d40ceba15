/-!
# File faults

Why an operation on files is refused, with the message that names the fault.
-/

namespace TaskAgent

/-- Why an operation on files is refused. -/
inductive FileFault where
  /-- There is nothing of that name. -/
  | notFound
  /-- There is something of that name already. -/
  | alreadyExists
  /-- A directory is expected where something else stands. -/
  | notDirectory
  /-- Something else is expected where a directory stands. -/
  | isDirectory
  /-- A name or a path is too long. -/
  | nameTooLong
  /-- A path holds the character that ends texts for the system. -/
  | nulInPath
  /-- A file that should hold text does not. -/
  | notText
deriving DecidableEq, Repr

def FileFault.message : FileFault → String
  | notFound => "No such file or directory (os error 2)"
  | alreadyExists => "File exists (os error 17)"
  | notDirectory => "Not a directory (os error 20)"
  | isDirectory => "Is a directory (os error 21)"
  | nameTooLong => "File name too long (os error 36)"
  | nulInPath => "file name contained an unexpected NUL byte"
  | notText => "stream did not contain valid UTF-8"

end TaskAgent
