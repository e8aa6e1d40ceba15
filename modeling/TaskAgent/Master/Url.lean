import TaskAgent.Host.Basic
import TaskAgent.Master.Target

/-!
# Addresses of masters

Whether a text can be used as the address of a request. It has to start with the scheme `http` or
`https`, written in any case, and to name a host: after any number of slashes and up to the next
slash, question mark or number sign stand a user, a host and a port, of which only the host is
needed. An address that is too long to be sent is of no use either.
-/

namespace TaskAgent.Url

/-- A text without blanks around it and without tabs and line ends inside. -/
def cleaned (text : List Char) : List Char :=
  let stripped := ((text.dropWhile (· ≤ ' ')).reverse.dropWhile (· ≤ ' ')).reverse
  stripped.filter fun c => !(c == '\t' || c == '\n' || c == '\r')

/-- Whether a character may stand in the name of a scheme. -/
def isSchemeChar (c : Char) : Bool := c.isAlphanum || c == '+' || c == '-' || c == '.'

/-- The name of the scheme, in small letters, and what follows its colon. -/
def splitScheme? (text : List Char) : Option (List Char × List Char) :=
  match text.span isSchemeChar with
  | (first :: scheme, ':' :: rest) =>
    if first.isAlpha then some ((first :: scheme).map Char.toLower, rest) else none
  | _ => none

/-- Whether a character ends the part with user, host and port. -/
def endsAuthority (c : Char) : Bool := isSlash c || c == '?' || c == '#'

/-- What follows the last sign between user and host, or everything if there is none. -/
def withoutUser (authority : List Char) : List Char :=
  (authority.reverse.takeWhile (· != '@')).reverse

/-- Whether a text can be a port: nothing, or a number of 16 bits. -/
def isPort (text : List Char) : Bool :=
  text.all Char.isDigit && decide (Nat.ofDigitChars 10 text 0 < UInt16.size)

/-- Whether a text names a host to which a request can go. -/
def isHost (text : List Char) : Bool := (Host.ofText? text).any Host.isWritable

/-- A text up to the first colon outside brackets, and what follows the colon. -/
def splitPort : List Char → List Char × List Char
  | '[' :: rest =>
    let (inside, after) := rest.span (· != ']')
    let (host, port) := after.span (· != ':')
    ('[' :: inside ++ host, port.drop 1)
  | text =>
    let (host, port) := text.span (· != ':')
    (host, port.drop 1)

/-- Whether what stands before the path names a host, perhaps with a port. -/
def isHostAndPort (text : List Char) : Bool :=
  let (host, port) := splitPort text
  isHost host && isPort port

/-- What follows scheme and slashes, if the text has one of the two schemes. -/
def afterScheme? (text : List Char) : Option (List Char) :=
  match splitScheme? (cleaned text) with
  | some (scheme, rest) =>
    if scheme == "http".toList || scheme == "https".toList then some (rest.dropWhile isSlash)
    else none
  | none => none

/-- The longest address of a request, in characters. -/
def greatestLength : Nat := 65534

/-- The part with user, host and port, and the target after it, of a text with one of the two
schemes. -/
def parts? (text : String) : Option (List Char × Target) :=
  (afterScheme? text.toList).map fun rest =>
    let (authority, target) := rest.span fun c => !endsAuthority c
    (authority, .ofText target)

/-- Whether a request can be sent to the address. -/
def isUsable (text : String) : Bool :=
  (parts? text).any fun (authority, target) =>
    let place := withoutUser authority
    isHostAndPort place && decide ("http://".length + place.length + target.length ≤ greatestLength)

/-- What is asked for at the host. -/
def target (text : String) : String :=
  (parts? text).elim "" fun (_, target) => String.ofList target.sent

end TaskAgent.Url
