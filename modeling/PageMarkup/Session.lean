import PageMarkup.Compilation
import PageMarkup.Elapsed

/-!
# Sessions

A session keeps the results of its last compilation, for the check and for the generation of
output. A compilation begins by forgetting everything but the options, so what a session holds
depends on the calls since then only. The time that a call took is given to it.
-/

namespace PageMarkup

/-- The options and the results of the last compilation. -/
structure Session where
  /-- How output is written. -/
  options : HtmlOptions := {}
  /-- The source that was compiled. -/
  source : Option String := none
  /-- The characters that were read, if they are tokens. -/
  stream : Option (List Char) := none
  /-- The number of their lines, zero without them. -/
  lineCount : Nat := 0
  /-- The tokens, if they are a document. -/
  tokens : Option (List Token) := none
  /-- The document. -/
  document : Option Document := none
  /-- How long the compilation took, if it succeeded. -/
  compilationTime : Option Elapsed := none
  /-- How long the last successful generation took. -/
  generationTime : Option Elapsed := none

namespace Session

/-- Compiles a source. The empty source leaves nothing behind; any other is kept, together with
the results of the stages that succeed. -/
def compile (session : Session) (source : String) (elapsed : Elapsed) :
    Except Diagnostic Document × Session :=
  if source = "" then (.error .emptySource, { options := session.options })
  else
    let compilation := Compilation.ofSource source
    let started : Session :=
      { options := session.options
        source := some source
        stream := compilation.stream
        lineCount := compilation.lineCount }
    match compilation.result with
    | .error diagnostic => (.error diagnostic, started)
    | .ok compiled =>
      (.ok compiled.document,
        { started with
          tokens := some compiled.tokens
          document := some compiled.document
          compilationTime := some elapsed })

/-- Checks the brackets of the last source. -/
def check (session : Session) : Except Diagnostic Unit :=
  match session.tokens with
  | none => .error (.input "no tokens; compile a source first")
  | some tokens => (Brackets.check tokens).mapError Brackets.Fault.diagnostic

/-- Writes the last document for a target. -/
def generate (session : Session) (target : String) (elapsed : Elapsed) :
    Except Diagnostic String × Session :=
  match session.document with
  | none => (.error (.generation "no AST; compile a source first"), session)
  | some document =>
    match document.generate session.options target with
    | .error fault => (.error fault.diagnostic, session)
    | .ok output => (.ok output, { session with generationTime := some elapsed })

/-- The number of tokens, zero without them. -/
def tokenCount (session : Session) : Nat := (session.tokens.getD []).length

end Session

end PageMarkup
