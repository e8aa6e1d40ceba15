/-!
# Targets of requests

What an address says after host and port: a path, perhaps a query, and perhaps a fragment, which
is not sent. In a path, a part of one dot counts for nothing and a part of two dots takes the part
before it away, also where the dots are given by their byte. Characters that cannot be written in
a request are given by their bytes, each as a percent sign with two hexadecimal digits.
-/

namespace TaskAgent.Url

/-- A byte given by a percent sign and two digits. -/
def escapedByte (byte : UInt8) : List Char :=
  ['%', (Nat.digitChar (byte.toNat / 16)).toUpper, (Nat.digitChar (byte.toNat % 16)).toUpper]

/-- A text with the given characters, controls and all beyond the basic alphabet by their bytes. -/
def escaped (marked : String) (text : List Char) : List Char :=
  text.flatMap fun c =>
    if c ≤ ' ' || '\x7f' ≤ c || marked.toList.contains c then
      c.toString.toUTF8.toList.flatMap escapedByte
    else [c]

/-- Whether a character stands between the parts of a path. -/
def isSlash (c : Char) : Bool := c == '/' || c == '\\'

/-- The number of dots that a part of a path consists of, if there is nothing else in it. -/
def dots? : List Char → Option Nat
  | [] => some 0
  | '.' :: rest => (dots? rest).map (· + 1)
  | '%' :: '2' :: e :: rest => if e.toLower = 'e' then (dots? rest).map (· + 1) else none
  | _ => none

/-- The parts of a path, given those before them (backwards). A part of dots at the end leaves an
empty part in its place. -/
def settledParts (before : List (List Char)) : List (List Char) → List (List Char)
  | [] => before.reverse
  | part :: rest =>
    let kept :=
      match dots? part with
      | some 1 => before
      | some 2 => before.drop 1
      | _ => part :: before
    if rest.isEmpty && ((dots? part).any fun count => count == 1 || count == 2) then
      ([] :: kept).reverse
    else settledParts kept rest

/-- What follows host and port in an address. -/
structure Target where
  /-- The path, from its first slash on. -/
  path : List Char
  /-- The query after its question mark, if there is one. -/
  query : Option (List Char)
  /-- The fragment after its number sign, if there is one. -/
  fragment : Option (List Char)

namespace Target

/-- A text up to the first of a character, and what follows it. -/
def splitBefore (mark : Char) (text : List Char) : List Char × Option (List Char) :=
  match text.span (· != mark) with
  | (before, _ :: after) => (before, some after)
  | (before, []) => (before, none)

/-- The target that a text gives. -/
def ofText (text : List Char) : Target :=
  let (sent, fragment) := splitBefore '#' text
  let (path, query) := splitBefore '?' sent
  let parts := (if path.head?.any isSlash then path.drop 1 else path).splitOnP isSlash
  ⟨(settledParts [] parts).flatMap fun part => '/' :: escaped "\"#<>?\x60\x7b\x7d^" part,
    query.map (escaped "\"#<>'"), fragment.map (escaped "\"<>\x60")⟩

def sent (target : Target) : List Char :=
  target.path ++ (target.query.elim [] ('?' :: ·))

/-- How many characters a target takes in an address. -/
def length (target : Target) : Nat :=
  target.sent.length + (target.fragment.elim 0 fun fragment => fragment.length + 1)

end Target

end TaskAgent.Url
