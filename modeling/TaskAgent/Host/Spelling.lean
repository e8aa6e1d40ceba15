import TaskAgent.Host.Replacement
import TaskAgent.Text.Casing
import TaskAgent.Text.Composition
import TaskAgent.Text.Printable

/-!
# Spelling of names

The name of a host can be spelled in many ways. To bring it into its one form, each character is
replaced: capitals by small letters, letters in other shapes by plain ones, characters that only
steer how a text is shown by nothing. What does not show at all or is described by other
characters has no place in a name. The text that comes of it is then composed.
-/

namespace TaskAgent.Host

open Text

/-- The characters that nothing stands for in a name. -/
def ignoredPoints : CodePoints := .ofListing
  ["ad 34f 115f-1160 17b4-17b5 180b-180f 200b 2060-2064 206a-206f 3164 fe00-fe0f feff ffa0",
   "1bca0-1bca3 1d173-1d17a e0100-e01ef"]

/-- The characters that show and have no place in a name all the same: dots in a row, numbers
with a full stop or a comma, signs that describe other characters, stand for what is missing, or
would be taken for dots and slashes. -/
def unfitPoints : CodePoints := .ofListing
  ["2024-2026 2488-249b 2ff0-2fff 31ef 33c2 33c7 33d8 fe12 fe19 fe30 fe52 fffc-fffd 1f100"]

/-- Whether a character tells how its neighbours join. -/
def isJoiner (c : Char) : Bool := c == '\u200c' || c == '\u200d'

/-- What a written character contributes to a name; there is nothing if it has no place in one. -/
def spelling? (c : Char) : Option (List Char) :=
  if c.toNat < 0x80 then some [c.toLower]
  else if ignoredPoints.contains c then some []
  else
    match replacements.lookup c.toNat with
    | some text => some (text.map Char.ofNat)
    | none =>
      let small := lowerPoint caseRules c.toNat
      if small ≠ c.toNat then some [Char.ofNat small]
      else if isJoiner c then some [c]
      else if unfitPoints.contains c || !isPrintable c then none
      else some [c]

/-- Whether a text has the form of a name already. -/
def isSpelled (text : List Char) : Bool :=
  text.all (fun c => spelling? c == some [c]) && composed text == text

/-- The form of a written name. -/
def spelled? (text : List Char) : Option (List Char) :=
  (text.mapM spelling?).map fun pieces => composed pieces.flatten

end TaskAgent.Host
