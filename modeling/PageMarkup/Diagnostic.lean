import PageMarkup.Position

/-!
# Diagnostics

Every failure is reported as a diagnostic: a message in one of four categories. Failures of a
text itself, lexical and syntactic ones, also say where in the text they arise.
-/

namespace PageMarkup

/-- A failure as it is reported. -/
inductive Diagnostic where
  /-- There is nothing to work on. -/
  | input (message : String)
  /-- The characters do not form tokens. -/
  | lexical (message : String) (position : Position)
  /-- The tokens do not form a document. -/
  | syntactic (message : String) (position : Position)
  /-- The document cannot be written in the wanted form. -/
  | generation (message : String)
deriving DecidableEq, Repr

namespace Diagnostic

/-- The code that names the category. -/
def code : Diagnostic → String
  | input _ => "input-error"
  | lexical _ _ => "lexical-error"
  | syntactic _ _ => "syntax-error"
  | generation _ => "codegen-error"

/-- What went wrong, in words. -/
def message : Diagnostic → String
  | input message => message
  | lexical message _ => message
  | syntactic message _ => message
  | generation message => message

/-- Where it went wrong, for failures that have a place. -/
def position? : Diagnostic → Option Position
  | input _ => none
  | lexical _ position => some position
  | syntactic _ position => some position
  | generation _ => none

/-- The diagnostic on one line: position if any, message and code. -/
def render (diagnostic : Diagnostic) : String :=
  match diagnostic.position? with
  | some position =>
    position.render ++ ": " ++ diagnostic.message ++ " (" ++ diagnostic.code ++ ")"
  | none => diagnostic.message ++ " (" ++ diagnostic.code ++ ")"

end Diagnostic

end PageMarkup
