import PageMarkup.Brackets
import PageMarkup.Document.Builder
import PageMarkup.Html
import PageMarkup.Scan.Scanner
import PageMarkup.Source

/-!
# Compilations

A source is normalised, split into tokens and read as a document. A compilation holds what came
out of each stage; a stage that fails leaves the later ones without result.
-/

namespace PageMarkup

/-- What is said about a source of white space only. -/
def Diagnostic.emptySource : Diagnostic := .input "source is empty"

/-- What a successful compilation yields. -/
structure Compiled where
  /-- The tokens of the source. -/
  tokens : List Token
  /-- The document that they denote. -/
  document : Document

/-- How far a compilation came. -/
structure Compilation where
  /-- The characters that were read, if they are tokens. -/
  stream : Option (List Char) := none
  /-- The number of their lines, zero without them. -/
  lineCount : Nat := 0
  /-- The result, or what went wrong. -/
  result : Except Diagnostic Compiled

namespace Compilation

/-- The compilation of normalised characters. -/
def ofStream (stream : List Char) : Compilation :=
  match Scan.scan stream with
  | .error stop => { result := .error (Scan.Fault.diagnostic stop.fault) }
  | .ok scanned =>
    { stream := some stream
      lineCount := scanned.lineCount
      result := match Document.ofTokens scanned.tokens with
        | .error fault => .error (Document.Fault.diagnostic fault)
        | .ok document => .ok ⟨scanned.tokens, document.stamped⟩ }

/-- The compilation of a source. -/
def ofSource (source : String) : Compilation :=
  match Source.stream? source with
  | none => { result := .error .emptySource }
  | some stream => ofStream stream

end Compilation

namespace Compiled

/-- Checks the brackets of the source. -/
def check (compiled : Compiled) : Except Diagnostic Unit :=
  (Brackets.check compiled.tokens).mapError Brackets.Fault.diagnostic

/-- Writes the document for a target. -/
def generate (compiled : Compiled) (options : HtmlOptions) (target : String) :
    Except Diagnostic String :=
  (compiled.document.generate options target).mapError Target.Fault.diagnostic

end Compiled

/-- The HTML of a source whose brackets match. -/
def compileToHtml (source : String) : Except Diagnostic String := do
  let compiled ← (Compilation.ofSource source).result
  compiled.check
  compiled.generate {} "html"

end PageMarkup
