import PageMarkup.Text.Blank

/-!
# Source texts

Before a source text is read, the white space around it is cut off and carriage returns are
dropped, so line ends are single line feeds. A source with nothing but white space has no
characters to read.
-/

namespace PageMarkup.Source

/-- The characters of a source that are read. -/
def normalize (source : String) : List Char :=
  (Text.trim source.toList).filter (· != '\r')

/-- The characters of a source that are read, or nothing for a source of white space only. -/
def stream? (source : String) : Option (List Char) :=
  match normalize source with
  | [] => none
  | c :: rest => some (c :: rest)

end PageMarkup.Source
