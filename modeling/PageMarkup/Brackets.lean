import PageMarkup.Diagnostic
import PageMarkup.Token

/-!
# Matching brackets

Round and square brackets have to be closed in the reverse order of their opening, each by a
bracket of its own shape. The check reads the tokens once and keeps the brackets that are open,
innermost first; all other tokens are passed over.
-/

namespace PageMarkup.Brackets

/-- The two kinds of brackets. -/
inductive Shape where
  | round
  | square
deriving DecidableEq, Repr

/-- The shape that a token opens. -/
def opens? : TokenKind → Option Shape
  | .roundOpen => some .round
  | .squareOpen => some .square
  | _ => none

/-- The shape that a token closes. -/
def closes? : TokenKind → Option Shape
  | .roundClose => some .round
  | .squareClose => some .square
  | _ => none

/-- Why brackets do not match. -/
inductive Fault where
  /-- A bracket with the given text closes none that could be closed. -/
  | unmatched (text : String)
  /-- A bracket is never closed. -/
  | unclosed (shape : Shape)
deriving DecidableEq, Repr

namespace Fault

/-- The wording of a fault. -/
def message : Fault → String
  | unmatched text => "Unmatched '" ++ text ++ "'"
  | unclosed .round => "Missing closing round bracket"
  | unclosed .square => "Missing closing square bracket"

/-- The diagnostic of a fault at its place. -/
def diagnostic (fault : Located Fault) : Diagnostic :=
  .syntactic fault.value.message fault.position

end Fault

/-- Checks tokens when some brackets are open, innermost first. -/
def checkFrom : List (Located Shape) → List Token → Except (Located Fault) Unit
  | [], [] => .ok ()
  | ⟨shape, position⟩ :: _, [] => .error ⟨.unclosed shape, position⟩
  | opened, token :: rest =>
    match opens? token.kind, closes? token.kind, opened with
    | some shape, _, _ => checkFrom (⟨shape, token.position⟩ :: opened) rest
    | none, none, _ => checkFrom opened rest
    | none, some shape, inner :: outer =>
      if inner.value = shape then checkFrom outer rest
      else .error ⟨.unmatched token.text, token.position⟩
    | none, some _, [] => .error ⟨.unmatched token.text, token.position⟩

/-- Checks that the brackets among the tokens match. -/
def check (tokens : List Token) : Except (Located Fault) Unit := checkFrom [] tokens

end PageMarkup.Brackets
