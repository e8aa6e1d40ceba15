import TaskAgent.Text.Casing

/-!
# Lower-casing a text

Every capital becomes its small letter. Two capitals need more than the table: the dotted capital
I becomes a small i with a dot above it, and a sigma takes its final form at the end of a word,
that is after a cased letter and not before one, characters without weight in a word passed over.
-/

namespace TaskAgent.Text

/-- Whether the first character that counts in a word has a case. -/
def startsCased (text : List Char) : Bool :=
  match text.dropWhile isCaseIgnorable with
  | [] => false
  | c :: _ => isCased c

/-- The small form of a character, given the text before it (backwards) and after it. -/
def lowerBetween (before : List Char) (c : Char) (after : List Char) : List Char :=
  if c = 'Σ' then
    if startsCased before && !startsCased after then ['ς'] else ['σ']
  else if c = 'İ' then ['i', '\u0307']
  else [Char.ofNat (lowerPoint caseRules c.toNat)]

/-- Lower-cases the rest of a text, given what stands before it and its small form, both
backwards. -/
def lowerFrom (before lowered : List Char) : List Char → List Char
  | [] => lowered.reverse
  | c :: rest =>
    lowerFrom (c :: before) ((lowerBetween before c rest).reverse ++ lowered) rest

/-- The text in small letters. -/
def lowercase (text : List Char) : List Char := lowerFrom [] [] text

end TaskAgent.Text
