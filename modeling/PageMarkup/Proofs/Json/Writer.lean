import PageMarkup.Dump
import PageMarkup.Proofs.Json.Indentation

/-!
# A writer that counts levels

A dump can be written from left to right by a writer that keeps the current level in a counter,
which is raised behind an opening brace or bracket and lowered before the closing one. Lowering a
counter that is zero would fail. This never happens: the acts of a dump run to their end, leave the
counter where it was, and write the dump.

Arrays of texts and tokens stay on one line, so the counter is not raised for them.
-/

namespace PageMarkup

namespace Json

/-- What a writer can do. -/
inductive Act where
  /-- Adds a text. -/
  | put (text : String)
  /-- Adds what the style has between two things on a line. -/
  | space
  /-- Begins a new line at the current level. -/
  | newline
  /-- Goes one level deeper. -/
  | raise
  /-- Goes back by one level. -/
  | lower
deriving DecidableEq, Repr

/-- A writer with what it has written and its level. -/
structure Writer where
  style : Style
  text : String := ""
  depth : Nat := 0
deriving DecidableEq, Repr

namespace Writer

/-- The writer after a text has been added. -/
def put (writer : Writer) (text : String) : Writer :=
  { writer with text := writer.text ++ text }

/-- The writer after an act, unless its level would fall below zero. -/
def perform (writer : Writer) : Act → Option Writer
  | .put text => some (writer.put text)
  | .space => some (writer.put writer.style.space)
  | .newline => some (writer.put (writer.style.newline writer.depth))
  | .raise => some { writer with depth := writer.depth + 1 }
  | .lower => if writer.depth = 0 then none else some { writer with depth := writer.depth - 1 }

/-- The writer after several acts. -/
def run (writer : Writer) : List Act → Option Writer
  | [] => some writer
  | act :: rest => (writer.perform act).bind fun next => next.run rest

/-- Acts one behind the other are performed one after the other. -/
theorem run_append (writer : Writer) (first second : List Act) :
    writer.run (first ++ second) = (writer.run first).bind fun next => next.run second := by
  induction first generalizing writer with
  | nil => rfl
  | cons act rest ih =>
    rw [List.cons_append, run, run, Option.bind_assoc]
    exact congrArg (writer.perform act).bind (funext ih)

end Writer

namespace Act

/-- Entries on lines of their own, between an opening and a closing character. -/
def lines (opener closer : String) : List (List Act) → List Act
  | [] => [put opener, raise, lower, put closer]
  | entry :: rest =>
    -- The level is lowered before the last line end, so the closing character stands further out.
    put opener :: raise :: newline :: [put ",", newline].intercalate (entry :: rest)
      ++ [lower, newline, put closer]

/-- A field with the acts of its value. -/
def field (entry : String × List Act) : List Act :=
  put (quote entry.1) :: put ":" :: space :: entry.2

/-- An object with the acts of its values. -/
def object (fields : List (String × List Act)) : List Act :=
  lines "\x7b" "\x7d" (fields.map field)

/-- The acts for a text. -/
def text (value : String) : List Act := [put (quote value)]

/-- The acts for an array of texts. -/
def texts (values : List String) : List Act :=
  put "[" :: [put ",", space].intercalate (values.map text) ++ [put "]"]

end Act

/-- Acts that write a text which depends on the style and on the level, and leave the level as it
is. -/
def Emits (acts : List Act) (text : Style → Nat → String) : Prop :=
  ∀ writer : Writer, writer.run acts = some (writer.put (text writer.style writer.depth))

namespace Emits

variable {acts first second : List Act} {text other : Style → Nat → String}

theorem nil : Emits [] fun _ _ => "" := by
  intro writer
  simp [Writer.run, Writer.put]

theorem append (hfirst : Emits first text) (hsecond : Emits second other) :
    Emits (first ++ second) fun style depth => text style depth ++ other style depth := by
  intro writer
  rw [Writer.run_append, hfirst writer, Option.bind_some, hsecond]
  simp [Writer.put, String.append_assoc]

theorem put (value : String) : Emits [.put value] fun _ _ => value := fun _ => rfl

theorem space : Emits [.space] fun style _ => style.space := fun _ => rfl

theorem newline : Emits [.newline] fun style depth => style.newline depth := fun _ => rfl

/-- What is written between raising and lowering the level is written one level deeper. -/
theorem nested (h : Emits acts text) :
    Emits (.raise :: acts ++ [.lower]) fun style depth => text style (depth + 1) := by
  intro writer
  have hraised := h { writer with depth := writer.depth + 1 }
  rw [Writer.run_append, Writer.run, Writer.perform, Option.bind_some, hraised]
  rfl

/-- Items with a separator between them are written as their texts with its text between them. -/
theorem intercalate {α : Type} {acts : α → List Act} {separator : List Act}
    {text : α → Style → Nat → String} (hseparator : Emits separator other) {items : List α}
    (hitems : ∀ item ∈ items, Emits (acts item) (text item)) :
    Emits (separator.intercalate (items.map acts)) fun style depth =>
      (other style depth).intercalate (items.map fun item => text item style depth) := by
  induction items with
  | nil => exact nil
  | cons item rest ih =>
    have hitem := hitems item List.mem_cons_self
    have hrest := ih fun next hnext => hitems next (List.mem_cons_of_mem item hnext)
    cases rest with
    | nil => simpa using hitem
    | cons next rest =>
      have hothers := hitem.append (hseparator.append hrest)
      simpa [List.intercalate, String.append_assoc] using hothers

/-- Entries on lines of their own are written one level deeper. -/
theorem lines {opener closer : String} {entries : List (List Act)} (hentries : entries ≠ [])
    (h : Emits ([Act.put ",", .newline].intercalate entries) text) :
    Emits (Act.lines opener closer entries) fun style depth =>
      opener ++ style.newline (depth + 1) ++ text style (depth + 1) ++ style.newline depth
        ++ closer := by
  obtain ⟨entry, rest, rfl⟩ := List.exists_cons_of_ne_nil hentries
  have hinner := (newline.append h).nested
  have hemits := (put opener).append (hinner.append (newline.append (put closer)))
  simpa [Act.lines, String.append_assoc] using hemits

/-- No entries are written as two characters. -/
theorem lines_nil (opener closer : String) :
    Emits (Act.lines opener closer []) fun _ _ => opener ++ closer := by
  have hemits := (put opener).append (nil.nested.append (put closer))
  simpa [Act.lines] using hemits

end Emits

/-- Acts that write a value at the current level. -/
def Writes (acts : List Act) (json : Json) : Prop :=
  Emits acts fun style level => json.write style level

/-- Values are written one after the other like the items of an array. -/
theorem emits_items {α : Type} {acts : α → List Act} {json : α → Json} {separator : List Act}
    {written : Style → Nat → String} (hseparator : Emits separator written) {items : List α}
    (hitems : ∀ item ∈ items, Writes (acts item) (json item)) :
    Emits (separator.intercalate (items.map acts)) fun style level =>
      writeItems style level (written style level) (items.map json) := by
  simpa [← intercalate_write, Function.comp_def] using hseparator.intercalate hitems

/-- Fields with the acts of their values, and the fields that they write. -/
inductive WritesFields : List (String × List Act) → List (String × Json) → Prop
  | nil : WritesFields [] []
  | cons {key : String} {acts : List Act} {json : Json} {fields : List (String × List Act)}
    {written : List (String × Json)} (hvalue : Writes acts json)
    (hrest : WritesFields fields written) :
    WritesFields ((key, acts) :: fields) ((key, json) :: written)

namespace WritesFields

theorem append {first second : List (String × List Act)} {written other : List (String × Json)}
    (hfirst : WritesFields first written) (hsecond : WritesFields second other) :
    WritesFields (first ++ second) (written ++ other) := by
  induction hfirst with
  | nil => exact hsecond
  | cons hvalue _ ih => exact .cons hvalue ih

/-- A field is written if its value is. -/
theorem single {key : String} {acts : List Act} {json : Json} (h : Writes acts json) :
    WritesFields [(key, acts)] [(key, json)] :=
  .cons h .nil

/-- Entries are written as one field each if their values are written. -/
theorem map {α : Type} {acts : α → List Act} {json : α → Json}
    (h : ∀ value, Writes (acts value) (json value)) (entries : List (String × α)) :
    WritesFields (entries.map fun entry => (entry.1, acts entry.2))
      (entries.map fun entry => (entry.1, json entry.2)) := by
  induction entries with
  | nil => exact .nil
  | cons entry rest ih => exact .cons (h entry.2) ih

/-- Fields are written one after the other. -/
theorem emits {fields : List (String × List Act)} {written : List (String × Json)}
    (h : WritesFields fields written) :
    Emits ([Act.put ",", .newline].intercalate (fields.map Act.field)) fun style level =>
      writeFields style level written := by
  induction h with
  | nil => exact .nil
  | @cons key acts json fields written hvalue hrest ih =>
    have hfield := (Emits.put (quote key)).append
      ((Emits.put ":").append (Emits.space.append hvalue))
    -- Only the last field has no comma behind it.
    cases hrest with
    | nil => simpa [writeFields, Act.field, String.append_assoc] using hfield
    | cons hnext hothers =>
      have hemits := hfield.append (((Emits.put ",").append .newline).append ih)
      simpa [writeFields, Act.field, List.intercalate, String.append_assoc] using hemits

end WritesFields

namespace Writes

/-- An object is written with its fields. -/
theorem object {fields : List (String × List Act)} {written : List (String × Json)}
    (h : WritesFields fields written) : Writes (Act.object fields) (.object written) := by
  have hemits := h.emits
  cases h with
  | nil => simpa [Writes, Act.object, write] using Emits.lines_nil "\x7b" "\x7d"
  | cons hvalue hrest =>
    simpa [Writes, Act.object, write] using hemits.lines (List.cons_ne_nil _ _)

theorem text (value : String) : Writes (Act.text value) (.text value) := .put (quote value)

/-- An array of texts is written on one line. -/
theorem texts (values : List String) : Writes (Act.texts values) (.texts values) := by
  have hitems := emits_items ((Emits.put ",").append .space)
    fun value (_ : value ∈ values) => text value
  have hemits := (Emits.put "[").append (hitems.append (.put "]"))
  have hall : (values.map Json.text).all isText = true := by simp [isText]
  simpa [Writes, Act.texts, Json.texts, write, hall, String.append_assoc] using hemits

/-- An array of other values is written with each of them on lines of its own. -/
theorem array {α : Type} {acts : α → List Act} {json : α → Json} {items : List α}
    (hitems : ∀ item ∈ items, Writes (acts item) (json item))
    (htexts : ∀ item ∈ items, (json item).isText = false) :
    Writes (Act.lines "[" "]" (items.map acts)) (.array (items.map json)) := by
  cases items with
  | nil => simpa [Writes, write, writeItems] using Emits.lines_nil "[" "]"
  | cons item rest =>
    have hlines := emits_items ((Emits.put ",").append .newline) hitems
    have htext := htexts item List.mem_cons_self
    simpa [Writes, write, htext] using hlines.lines (List.cons_ne_nil _ _)

end Writes

end Json

open Json (Act Writer Writes WritesFields)

namespace Table

/-- The acts for a table of texts. -/
def acts (table : Table String) : List Act :=
  Act.object (table.entries.map fun entry => (entry.1, Act.text entry.2))

/-- The acts for a table of lists of texts. -/
def listsActs (table : Table (List String)) : List Act :=
  Act.object (table.entries.map fun entry => (entry.1, Act.texts entry.2))

end Table

/-- The fields of a component apart from its children, with the acts of their values. -/
def Component.actFields (component : Component) : List (String × List Act) :=
  [("kind", Act.text "tag"), ("value", Act.text component.name),
    ("targetElement", Act.text component.element)]
    ++ (if component.classes.isEmpty then [] else [("cssClasses", Act.texts component.classes)])
    ++ (if component.parameters.isEmpty then [] else [("parameters", component.parameters.acts)])
    ++ (if component.attributes.isEmpty then []
        else [("htmlAttributes", component.attributes.acts)])

mutual

/-- The acts for a node. -/
def Node.acts : Node → List Act
  | .component head children =>
    Act.object (head.actFields ++ [("children", Act.lines "[" "]" (Node.actsAll children))])
  | .literal text => Act.object [("kind", Act.text "literal"), ("value", Act.text text)]
  | .mark name element =>
    Act.object [("kind", Act.text "special-tag"), ("value", Act.text name),
      ("targetElement", Act.text element)]

/-- The acts for each of several nodes. -/
def Node.actsAll : List Node → List (List Act)
  | [] => []
  | node :: rest => Node.acts node :: Node.actsAll rest

end

/-- The acts for a document. -/
def Document.acts (document : Document) : List Act :=
  Act.object ([("kind", Act.text "root")]
    ++ (match document.label with
        | some label => [("value", Act.text label)]
        | none => [])
    ++ [("meta", document.metadata.acts), ("configurations", document.configurations.acts),
      ("references", document.references.listsActs),
      ("body", Act.lines "[" "]" (Node.actsAll document.body))])

/-- The acts for tokens, each of which is put on one line. -/
def Token.acts (tokens : List Token) : List Act :=
  Act.lines "[" "]" (tokens.map fun token => [.put (token.json.render .compact)])

/-- A table of texts is written as an object. -/
theorem Table.writes (table : Table String) : Writes table.acts table.json :=
  .object (.map Writes.text table.entries)

/-- A table of lists of texts is written as an object. -/
theorem Table.writes_lists (table : Table (List String)) :
    Writes table.listsActs table.listsJson :=
  .object (.map Writes.texts table.entries)

/-- A field that may be left out is written if it is there. -/
theorem Json.WritesFields.optional {key : String} {acts : List Act} {json : Json} (omitted : Bool)
    (h : Writes acts json) :
    WritesFields (if omitted then [] else [(key, acts)])
      (if omitted then [] else [(key, json)]) := by
  cases omitted with
  | true => exact .nil
  | false => exact .single h

/-- The acts for the fields of a component write these fields. -/
theorem Component.writesFields (component : Component) :
    WritesFields component.actFields component.jsonFields := by
  have hnames : WritesFields
      [("kind", Act.text "tag"), ("value", Act.text component.name),
        ("targetElement", Act.text component.element)]
      [("kind", .text "tag"), ("value", .text component.name),
        ("targetElement", .text component.element)] :=
    .cons (.text _) (.cons (.text _) (.single (.text _)))
  exact ((hnames.append (.optional _ (.texts component.classes))).append
    (.optional _ component.parameters.writes)).append (.optional _ component.attributes.writes)

namespace Node

/-- Each node of a list has its own acts. -/
theorem actsAll_eq_map (nodes : List Node) : actsAll nodes = nodes.map acts := by
  induction nodes with
  | nil => rfl
  | cons node rest ih => simp [actsAll, ih]

/-- A node is no text. -/
theorem isText_json (node : Node) : node.json.isText = false := by
  cases node with
  | component head children => simp [json, Json.isText]
  | literal text => simp [json, Json.isText]
  | mark name element => simp [json, Json.isText]

/-- Nodes are written if each of them is. -/
theorem writes_lines {nodes : List Node} (h : ∀ node ∈ nodes, Writes node.acts node.json) :
    Writes (Act.lines "[" "]" (actsAll nodes)) (.array (jsonAll nodes)) := by
  rw [actsAll_eq_map, jsonAll_eq_map]
  exact .array h fun node _ => node.isText_json

mutual

/-- The acts for a node write its object. -/
theorem writes : (node : Node) → Writes node.acts node.json
  | component head children => by
    rw [acts, json]
    exact .object (head.writesFields.append (.single (writes_lines (writes_all children))))
  | literal text => by
    rw [acts, json]
    exact .object (.cons (.text _) (.single (.text text)))
  | mark name element => by
    rw [acts, json]
    exact .object (.cons (.text _) (.cons (.text name) (.single (.text element))))

/-- The acts for each of several nodes write its object. -/
theorem writes_all : (nodes : List Node) → ∀ node ∈ nodes, Writes node.acts node.json
  | [] => fun _ hnode => absurd hnode List.not_mem_nil
  | node :: rest => List.forall_mem_cons.mpr ⟨writes node, writes_all rest⟩

end

end Node

/-- The acts for a document write its object. -/
theorem Document.writes (document : Document) : Writes document.acts document.json := by
  have hlabel : WritesFields
      (match document.label with
        | some label => [("value", Act.text label)]
        | none => [])
      (match document.label with
        | some label => [("value", .text label)]
        | none => []) := by
    cases document.label with
    | none => exact .nil
    | some label => exact .single (.text label)
  have hkind : WritesFields [("kind", Act.text "root")] [("kind", .text "root")] :=
    .single (.text _)
  exact .object ((hkind.append hlabel).append
    (.cons document.metadata.writes (.cons document.configurations.writes
      (.cons document.references.writes_lists
        (.single (Node.writes_lines (Node.writes_all document.body)))))))

/-- A document is dumped by its acts, in either style, and the level is zero again at the end. -/
theorem Document.run_acts (style : Json.Style) (document : Document) :
    Writer.run { style } document.acts =
      some { style, text := document.dump style, depth := 0 } := by
  simpa [Writer.put, Document.dump, Json.render] using document.writes { style }

/-- Tokens are dumped by their acts, in either style, and the level is zero again at the end. -/
theorem Token.run_acts (style : Json.Style) (tokens : List Token) :
    Writer.run { style } (Token.acts tokens) =
      some { style, text := Token.dump style tokens, depth := 0 } := by
  cases tokens with
  | nil =>
    simpa [Token.acts, Token.dump, Json.renderRows, Writer.put] using
      Json.Emits.lines_nil "[" "]" { style }
  | cons token rest =>
    have hrows := ((Json.Emits.put ",").append .newline).intercalate
      fun (row : Token) (_ : row ∈ token :: rest) => .put (row.json.render .compact)
    simpa [Token.acts, Token.dump, Json.renderRows, Writer.put, Function.comp_def] using
      hrows.lines (List.cons_ne_nil _ _) { style }

/-- Dumps over several lines are the compact dumps with layout: without the spaces and line ends
that are not between quotation marks they are the compact dumps, and each of their lines is indented
by two spaces for each brace or bracket that is open. In both styles they are written by a writer
whose level never falls below zero and is zero at the end. -/
theorem pretty_dumps_are_compact_dumps_laid_out :
    (∀ document : Document,
      Json.withoutLayout (document.dump .pretty) = document.dump .compact ∧
      Json.Indented 0 (document.dump .pretty).toList ∧
      ∀ style,
        Writer.run { style } document.acts =
          some { style, text := document.dump style, depth := 0 }) ∧
    ∀ tokens : List Token,
      Json.withoutLayout (Token.dump .pretty tokens) = Token.dump .compact tokens ∧
      Json.Indented 0 (Token.dump .pretty tokens).toList ∧
      ∀ style,
        Writer.run { style } (Token.acts tokens) =
          some { style, text := Token.dump style tokens, depth := 0 } := by
  constructor
  · intro document
    have hspreads := Json.spreads_render .pretty document.json
    exact ⟨hspreads.withoutLayout_eq, hspreads.indented, fun style => document.run_acts style⟩
  · intro tokens
    have hspreads := Json.spreads_renderRows .pretty (tokens.map Token.json)
    exact ⟨hspreads.withoutLayout_eq, hspreads.indented, fun style => Token.run_acts style tokens⟩

end PageMarkup
