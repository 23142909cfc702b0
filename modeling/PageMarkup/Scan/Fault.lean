import PageMarkup.Diagnostic
import PageMarkup.Text.Escape
import PageMarkup.Token

/-!
# Lexical faults

The reasons why a text is not a sequence of tokens, and their wording.
-/

namespace PageMarkup.Scan

/-- Why a text cannot be split into tokens. -/
inductive Fault where
  /-- A character stands where it cannot. -/
  | unexpected (c : Char)
  /-- The text ends where it cannot. -/
  | unexpectedEnd
  /-- The text ends inside a token of the given kind. -/
  | unterminated (kind : TokenKind)
deriving DecidableEq, Repr

namespace Fault

/-- The fault of a refused character, where nothing stands for the end of the text. -/
def refused : Option Char → Fault
  | some c => unexpected c
  | none => unexpectedEnd

/-- The wording of a fault. -/
def message : Fault → String
  | unexpected c => "Unexpected character '" ++ Text.shownChar c ++ "'"
  | unexpectedEnd => "Unexpected end of input"
  | unterminated .decorator => "Unterminated decorator"
  | unterminated _ => "Unterminated string"

/-- The diagnostic of a fault at its place. -/
def diagnostic (fault : Located Fault) : Diagnostic :=
  .lexical fault.value.message fault.position

end Fault

end PageMarkup.Scan
