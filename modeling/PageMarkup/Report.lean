import PageMarkup.Diagnostic
import PageMarkup.Source

/-!
# Reports

A failure is reported with the line it arises in and a caret below the place. Lines are those of
the normalised source, so positions and lines fit together.
-/

namespace PageMarkup.Report

/-- The parts of a text between line ends. -/
def segments : List Char → List (List Char)
  | [] => [[]]
  | c :: rest =>
    if c = '\n' then [] :: segments rest
    else match segments rest with
      | [] => [[c]]
      | segment :: others => (c :: segment) :: others

/-- The lines of a text; after a last line end there is no further line. -/
def lines (text : List Char) : List (List Char) :=
  if (segments text).getLast? = some [] then (segments text).dropLast else segments text

/-- The line with a number counted from one, empty if there is none. -/
def lineAt (text : List Char) (number : Nat) : List Char := (lines text)[number - 1]?.getD []

/-- The line that puts a caret below a column of another line. Tabs are kept, so that the caret
stands in the right place whatever the width of a tab. -/
def caretLine (line : List Char) (column : Nat) : List Char :=
  let blanks := (line.take (column - 1)).map fun c => if c = '\t' then '\t' else ' '
  blanks ++ List.replicate (column - 1 - blanks.length) ' ' ++ ['^']

/-- The report of a diagnostic for a source. -/
def render (source : String) (diagnostic : Diagnostic) : String :=
  match diagnostic.position? with
  | none => "ERROR: " ++ diagnostic.render ++ "\n"
  | some position =>
    let line := lineAt (Source.normalize source) position.line
    "ERROR AT LINE " ++ toString position.line ++ ":\n" ++ String.ofList line ++ "\n"
      ++ String.ofList (caretLine line position.column) ++ "\n" ++ diagnostic.message ++ "\n\n"

end PageMarkup.Report
