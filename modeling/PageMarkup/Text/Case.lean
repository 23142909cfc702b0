import PageMarkup.Text.Case.Context
import PageMarkup.Text.Case.Lower
import PageMarkup.Text.Case.Upper

/-!
# Upper and lower case

A text is changed to upper case character by character. Lower case depends on the surroundings in
one place only: a capital sigma at the end of a word becomes a final sigma.
-/

namespace PageMarkup.Text

/-- The text in upper case. -/
def upper (text : List Char) : List Char := text.flatMap upperMapping.apply

/-- Whether the nearest character that counts is a letter with case. -/
def nextIsCased (text : List Char) : Bool :=
  match text.dropWhile isCaseIgnorable with
  | c :: _ => isCased c
  | [] => false

/-- Whether a letter ends a word, given the characters before it, nearest first, and after it. -/
def endsWord (before after : List Char) : Bool := nextIsCased before && !nextIsCased after

/-- The text in lower case, given the characters before it, nearest first. -/
def lowerAfter (before : List Char) : List Char → List Char
  | [] => []
  | c :: rest =>
    (if c = 'Σ' then [if endsWord before rest then 'ς' else 'σ'] else lowerMapping.apply c)
      ++ lowerAfter (c :: before) rest

/-- The text in lower case. -/
def lower (text : List Char) : List Char := lowerAfter [] text

end PageMarkup.Text
