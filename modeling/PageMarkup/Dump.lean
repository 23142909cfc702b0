import PageMarkup.Diagnostic
import PageMarkup.Document.Basic
import PageMarkup.Json
import PageMarkup.Token

/-!
# Dumps

Documents, tokens and diagnostics as JSON. Collections of a component that are empty are left
out, apart from its children.
-/

namespace PageMarkup

/-- Texts as an array. -/
def Json.texts (values : List String) : Json := .array (values.map .text)

/-- A table of texts as an object. -/
def Table.json (table : Table String) : Json :=
  .object (table.entries.map fun entry => (entry.1, .text entry.2))

/-- A table of lists of texts as an object. -/
def Table.listsJson (table : Table (List String)) : Json :=
  .object (table.entries.map fun entry => (entry.1, .texts entry.2))

/-- The fields of a component apart from its children. -/
def Component.jsonFields (component : Component) : List (String × Json) :=
  [("kind", .text "tag"), ("value", .text component.name),
    ("targetElement", .text component.element)]
    ++ (if component.classes.isEmpty then [] else [("cssClasses", .texts component.classes)])
    ++ (if component.parameters.isEmpty then [] else [("parameters", component.parameters.json)])
    ++ (if component.attributes.isEmpty then []
        else [("htmlAttributes", component.attributes.json)])

mutual

/-- A node as an object. -/
def Node.json : Node → Json
  | .component head children =>
    .object (head.jsonFields ++ [("children", .array (Node.jsonAll children))])
  | .literal text => .object [("kind", .text "literal"), ("value", .text text)]
  | .mark name element =>
    .object [("kind", .text "special-tag"), ("value", .text name),
      ("targetElement", .text element)]

/-- Nodes as objects. -/
def Node.jsonAll : List Node → List Json
  | [] => []
  | node :: rest => Node.json node :: Node.jsonAll rest

end

/-- Each node of a list is written on its own. -/
theorem Node.jsonAll_eq_map (nodes : List Node) : Node.jsonAll nodes = nodes.map Node.json := by
  induction nodes with
  | nil => rfl
  | cons node rest ih => simp [Node.jsonAll, ih]

/-- A document as an object. -/
def Document.json (document : Document) : Json :=
  .object ([("kind", .text "root")]
    ++ (match document.label with
        | some label => [("value", .text label)]
        | none => [])
    ++ [("meta", document.metadata.json), ("configurations", document.configurations.json),
      ("references", document.references.listsJson),
      ("body", .array (Node.jsonAll document.body))])

/-- A document in writing. -/
def Document.dump (style : Json.Style) (document : Document) : String :=
  document.json.render style

/-- The fields of a position. -/
def Position.jsonFields (position : Position) : List (String × Json) :=
  [("line", .number position.line), ("column", .number position.column)]

/-- A token as an object. -/
def Token.json (token : Token) : Json :=
  .object ([("kind", .text token.kind.name), ("text", .text token.text)]
    ++ token.position.jsonFields)

/-- Tokens in writing, each on one line. -/
def Token.dump (style : Json.Style) (tokens : List Token) : String :=
  Json.renderRows style (tokens.map Token.json)

/-- A diagnostic as an object. -/
def Diagnostic.json (diagnostic : Diagnostic) : Json :=
  .object ([("code", .text diagnostic.code), ("message", .text diagnostic.message)]
    ++ (match diagnostic.position? with
        | some position => position.jsonFields
        | none => []))

/-- A diagnostic in writing, on one line. -/
def Diagnostic.dump (diagnostic : Diagnostic) : String := diagnostic.json.render .compact

end PageMarkup
