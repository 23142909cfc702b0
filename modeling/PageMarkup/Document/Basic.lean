import PageMarkup.Document.Node

/-!
# Documents

A document has a body of nodes and, beside it, what its declarations recorded: configurations,
where the last value of a key counts, and references, where a key collects values.
-/

namespace PageMarkup

/-- A whole document. -/
structure Document where
  /-- What the document is, if that has been said. -/
  label : Option String := none
  /-- Facts about the document's making, in the order of their keys. -/
  metadata : Table String := ∅
  /-- The configurations. -/
  configurations : Table String := ∅
  /-- The references, each with its values. -/
  references : Table (List String) := ∅
  /-- The nodes outside all components. -/
  body : List Node := []

namespace Document

/-- The document with the stamp of a finished compilation. -/
def stamped (document : Document) : Document :=
  { document with
    label := some "Program"
    metadata := ((document.metadata.insert "languageName" "Notescript").insert
      "languageCompilerVersion" "0.3.0").sorted }

end Document

end PageMarkup
