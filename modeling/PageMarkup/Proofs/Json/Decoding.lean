import PageMarkup.Dump
import PageMarkup.Proofs.Json.Reader
import PageMarkup.Proofs.Json.Writing

/-!
# Documents from their dumps

A document can be recovered from its dump. The fields of an object are looked up by their keys, so
their order plays no part, except in tables, which keep it. Collections of a component that are left
out are empty.
-/

namespace PageMarkup

namespace Json

/-- Something can be recovered from a text: the text is JSON, whatever value it denotes describes
the thing, and so does the value that is read from it. -/
structure Recoverable {α : Type} (decode : Value → Option α) (text : String) (item : α) : Prop where
  valid : ∃ value, Value.Denotes text.toList value
  decoded : ∀ value, Value.Denotes text.toList value → decode value = some item
  read : (Value.read? text.toList).bind decode = some item

/-- What is described by a value is recovered from the texts that denote this value. -/
theorem recoverable_of_denotes {α : Type} {decode : Value → Option α} {text : String} {item : α}
    {value : Value} (hdenotes : Value.Denotes text.toList value)
    (hdecode : decode value = some item) : Recoverable decode text item where
  valid := ⟨value, hdenotes⟩
  decoded := by
    intro other hother
    rw [hother.unique hdenotes, hdecode]
  read := by rw [Value.read?_eq_some_iff.mpr hdenotes, Option.bind_some, hdecode]

/-- A text does not stand for two things. -/
theorem Recoverable.unique {α : Type} {decode : Value → Option α} {text other : String}
    {first second : α} (hfirst : Recoverable decode text first)
    (hsecond : Recoverable decode other second) (htext : text = other) : first = second := by
  subst htext
  exact Option.some.inj (hfirst.read.symm.trans hsecond.read)

end Json

namespace Json.Value

/-- The text that a value is. -/
def text? : Value → Option String
  | text value => some value
  | _ => none

/-- The texts that an array holds. -/
def texts? : Value → Option (List String)
  | array items => items.mapM text?
  | _ => none

/-- A field with its decoded value. -/
def decodedField? {α : Type} (decode : Value → Option α) (field : String × Value) :
    Option (String × α) :=
  (decode field.2).map fun value => (field.1, value)

/-- The table that an object is, if no key occurs twice. -/
def table? {α : Type} (decode : Value → Option α) : Value → Option (Table α)
  | object fields => do
    let entries ← fields.mapM (decodedField? decode)
    if distinct : (entries.map Prod.fst).Nodup then some ⟨entries, distinct⟩ else none
  | _ => none

/-- The decoded field of the given key. -/
def field? {α : Type} (decode : Value → Option α) (key : String)
    (fields : List (String × Value)) : Option α :=
  (fields.lookup key).bind decode

/-- The decoded field of the given key, or else what stands for a field that is left out. -/
def fieldOr? {α : Type} (absent : α) (decode : Value → Option α) (key : String)
    (fields : List (String × Value)) : Option α :=
  (fields.lookup key).elim (some absent) decode

end Json.Value

open Json (Value)

/-- The component with the given fields. -/
def Component.ofFields? (fields : List (String × Value)) : Option Component := do
  let name ← Value.field? Value.text? "value" fields
  let element ← Value.field? Value.text? "targetElement" fields
  let classes ← Value.fieldOr? [] Value.texts? "cssClasses" fields
  let parameters ← Value.fieldOr? ∅ (Value.table? Value.text?) "parameters" fields
  let attributes ← Value.fieldOr? ∅ (Value.table? Value.text?) "htmlAttributes" fields
  return ⟨name, element, classes, parameters, attributes⟩

namespace Node

mutual

/-- The node that a value describes, by its kind. -/
def ofValue? : Value → Option Node
  | .object fields => do
    let kind ← Value.field? Value.text? "kind" fields
    if kind = "tag" then
      let head ← Component.ofFields? fields
      let children ← childrenOf? fields
      return .component head children
    else if kind = "literal" then
      (Value.field? Value.text? "value" fields).map .literal
    else if kind = "special-tag" then
      let name ← Value.field? Value.text? "value" fields
      let element ← Value.field? Value.text? "targetElement" fields
      return .mark name element
    else none
  | _ => none

/-- The nodes in the field for children. -/
def childrenOf? : List (String × Value) → Option (List Node)
  | [] => none
  | (key, value) :: rest => if key = "children" then allOfValue? value else childrenOf? rest

/-- The nodes that an array describes. -/
def allOfValue? : Value → Option (List Node)
  | .array items => allOf? items
  | _ => none

/-- The nodes that values describe. -/
def allOf? : List Value → Option (List Node)
  | [] => some []
  | value :: rest => do
    let node ← ofValue? value
    let nodes ← allOf? rest
    return node :: nodes

end

end Node

/-- The document that a value describes. -/
def Document.ofValue? : Value → Option Document
  | .object fields => do
    let kind ← Value.field? Value.text? "kind" fields
    if kind = "root" then
      let label ← Value.fieldOr? none (fun value => value.text?.map some) "value" fields
      let metadata ← Value.field? (Value.table? Value.text?) "meta" fields
      let configurations ← Value.field? (Value.table? Value.text?) "configurations" fields
      let references ← Value.field? (Value.table? Value.texts?) "references" fields
      let body ← Value.field? Node.allOfValue? "body" fields
      return { label, metadata, configurations, references, body }
    else none
  | _ => none

namespace Json

/-- Each item of an array is a value on its own. -/
theorem valueAll_eq_map (items : List Json) : valueAll items = items.map value := by
  induction items with
  | nil => rfl
  | cons item rest ih => simp [valueAll, ih]

/-- Each field of an object is a value with its key. -/
theorem valueFields_eq_map (fields : List (String × Json)) :
    valueFields fields = fields.map fun field => (field.1, field.2.value) := by
  induction fields with
  | nil => rfl
  | cons field rest ih => simp [valueFields, ih]

/-- A list is recovered from its encoded items if each item is. -/
theorem mapM_map_eq_some {α β : Type} {decode : β → Option α} {encode : α → β}
    (hdecode : ∀ item, decode (encode item) = some item) (items : List α) :
    (items.map encode).mapM decode = some items := by
  induction items with
  | nil => rfl
  | cons item rest ih =>
    rw [List.map_cons, List.mapM_cons, hdecode, ih]
    rfl

/-- Texts are recovered from their array. -/
theorem texts?_value_texts (values : List String) : (texts values).value.texts? = some values := by
  have hdecode : ∀ item, Value.text? ((value ∘ text) item) = some item := fun _ => rfl
  rw [texts, value, valueAll_eq_map, List.map_map, Value.texts?]
  exact mapM_map_eq_some hdecode values

/-- A table is recovered from the object of its entries. -/
theorem table?_value_object {α : Type} {decode : Value → Option α} {encode : α → Json}
    (hdecode : ∀ item, decode (encode item).value = some item) (table : Table α) :
    Value.table? decode (object (table.entries.map fun entry => (entry.1, encode entry.2))).value =
      some table := by
  obtain ⟨entries, distinct⟩ := table
  have hentries : (entries.map fun entry => (entry.1, (encode entry.2).value)).mapM
      (Value.decodedField? decode) = some entries :=
    mapM_map_eq_some (fun entry => by simp [Value.decodedField?, hdecode]) entries
  simp [value, valueFields_eq_map, Value.table?, Function.comp_def, hentries, distinct]

end Json

/-- A table of texts is recovered from its object. -/
theorem Table.table?_value_json (table : Table String) :
    Value.table? Value.text? table.json.value = some table :=
  Json.table?_value_object (fun _ => rfl) table

/-- A table of lists of texts is recovered from its object. -/
theorem Table.table?_value_listsJson (table : Table (List String)) :
    Value.table? Value.texts? table.listsJson.value = some table :=
  Json.table?_value_object Json.texts?_value_texts table

/-- A field that may be left out is found under its own key, and hides no other. -/
theorem Json.lookup_optional (wanted key : String) (absent : Prop) [Decidable absent]
    (value : Json) (rest : List (String × Json)) :
    (valueFields ((if absent then [] else [(key, value)]) ++ rest)).lookup wanted =
      if wanted = key then if absent then (valueFields rest).lookup wanted else some value.value
      else (valueFields rest).lookup wanted := by
  by_cases habsent : absent
  · simp [habsent]
  · by_cases hkey : wanted = key
    · simp [habsent, hkey, valueFields]
    · have hother : (wanted == key) = false := by simpa using hkey
      simp [habsent, hkey, hother, valueFields, List.lookup_cons]

/-- A collection is recovered from its field, which is left out if the collection is empty. -/
theorem Json.Value.fieldOr?_of_lookup {α : Type} {absent item : α} {decode : Value → Option α}
    {key : String} {fields : List (String × Value)} {empty : Bool} {value : Value}
    (hlookup : fields.lookup key = if empty then none else some value)
    (hempty : empty = true → item = absent) (hdecode : decode value = some item) :
    fieldOr? absent decode key fields = some item := by
  rw [fieldOr?, hlookup]
  cases empty with
  | true => rw [hempty rfl]; rfl
  | false => exact hdecode

/-- A table without entries is the empty table. -/
theorem Table.eq_empty_of_isEmpty {α : Type} {table : Table α} (h : table.isEmpty = true) :
    table = ∅ :=
  Table.ext (List.isEmpty_iff.mp h)

/-- A component is recovered from its fields. -/
theorem Component.ofFields?_jsonFields (component : Component) (children : Json) :
    Component.ofFields? (Json.valueFields (component.jsonFields ++ [("children", children)])) =
      some component := by
  let fields := Json.valueFields (component.jsonFields ++ [("children", children)])
  have hname : fields.lookup "value" = some (.text component.name) := rfl
  have helement : fields.lookup "targetElement" = some (.text component.element) := rfl
  have hclasses : fields.lookup "cssClasses" = if component.classes.isEmpty then none
      else some (Json.texts component.classes).value := by
    simp [fields, Component.jsonFields, Json.valueFields, List.lookup_cons, Json.lookup_optional]
  have hparameters : fields.lookup "parameters" = if component.parameters.isEmpty then none
      else some component.parameters.json.value := by
    simp [fields, Component.jsonFields, Json.valueFields, List.lookup_cons, Json.lookup_optional]
  have hattributes : fields.lookup "htmlAttributes" = if component.attributes.isEmpty then none
      else some component.attributes.json.value := by
    simp [fields, Component.jsonFields, Json.valueFields, List.lookup_cons, Json.lookup_optional]
  have hreadClasses := Value.fieldOr?_of_lookup hclasses List.isEmpty_iff.mp
    (Json.texts?_value_texts component.classes)
  have hreadParameters := Value.fieldOr?_of_lookup hparameters Table.eq_empty_of_isEmpty
    component.parameters.table?_value_json
  have hreadAttributes := Value.fieldOr?_of_lookup hattributes Table.eq_empty_of_isEmpty
    component.attributes.table?_value_json
  change Component.ofFields? fields = some component
  simp only [Component.ofFields?, Value.field?, hname, helement, hreadClasses, hreadParameters,
    hreadAttributes]
  rfl

namespace Node

/-- The children are those in the field of this name. -/
theorem childrenOf?_eq_field? (fields : List (String × Value)) :
    childrenOf? fields = Value.field? allOfValue? "children" fields := by
  induction fields with
  | nil => simp [childrenOf?, Value.field?]
  | cons field rest ih =>
    obtain ⟨key, value⟩ := field
    by_cases hkey : key = "children"
    · subst hkey
      simp [childrenOf?, Value.field?]
    · have hkey' : ("children" == key) = false := by simpa using fun h => hkey h.symm
      rw [childrenOf?, if_neg hkey, ih, Value.field?, Value.field?, List.lookup_cons, hkey']

/-- The field for children of a component. -/
theorem lookup_children (head : Component) (children : Json) :
    (Json.valueFields (head.jsonFields ++ [("children", children)])).lookup "children" =
      some children.value := by
  simp [Component.jsonFields, Json.valueFields, List.lookup_cons, Json.lookup_optional]

mutual

/-- A node is recovered from its object. -/
theorem ofValue?_value : (node : Node) → ofValue? node.json.value = some node
  | component head children => by
    have hkind : (Json.valueFields (head.jsonFields ++
        [("children", .array (jsonAll children))])).lookup "kind" = some (.text "tag") := rfl
    have hhead := head.ofFields?_jsonFields (.array (jsonAll children))
    have hchildren := lookup_children head (.array (jsonAll children))
    have hnodes : allOfValue? (Json.array (jsonAll children)).value = some children := by
      rw [Json.value, allOfValue?, allOf?_valueAll children]
    rw [json, Json.value, ofValue?, childrenOf?_eq_field?]
    simp only [Value.field?, hkind, hhead, hchildren, Option.bind_some, hnodes]
    rfl
  | literal text => rfl
  | mark name element => rfl

/-- Nodes are recovered from their objects. -/
theorem allOf?_valueAll : (nodes : List Node) →
    allOf? (Json.valueAll (jsonAll nodes)) = some nodes
  | [] => rfl
  | node :: rest => by
    rw [jsonAll, Json.valueAll, allOf?, ofValue?_value node, allOf?_valueAll rest]
    rfl

end

end Node

namespace Document

/-- A document is recovered from its object. -/
theorem ofValue?_value (document : Document) : ofValue? document.json.value = some document := by
  obtain ⟨label, metadata, configurations, references, body⟩ := document
  have hbody : Node.allOfValue? (Json.array (Node.jsonAll body)).value = some body := by
    rw [Json.value, Node.allOfValue?, Node.allOf?_valueAll body]
  -- The label may be left out, so the fields after it may stand in two places.
  have hfields : ofValue? (json ⟨label, metadata, configurations, references, body⟩).value = (do
      let metadata ← Value.table? Value.text? metadata.json.value
      let configurations ← Value.table? Value.text? configurations.json.value
      let references ← Value.table? Value.texts? references.listsJson.value
      let body ← Node.allOfValue? (Json.array (Node.jsonAll body)).value
      return { label, metadata, configurations, references, body }) := by
    cases label with
    | none => rfl
    | some label => rfl
  rw [hfields, metadata.table?_value_json, configurations.table?_value_json,
    references.table?_value_listsJson, hbody]
  rfl

/-- A document is recovered from its dump. -/
theorem recoverable_dump (style : Json.Style) (document : Document) :
    Json.Recoverable ofValue? (document.dump style) document :=
  Json.recoverable_of_denotes (Json.denotes_render style document.json) document.ofValue?_value

/-- A dump is JSON in either style. Whatever value it denotes describes the document that was
dumped, so any reader of JSON recovers the document from it, and no two documents share a dump. -/
theorem dump_lossless (style : Json.Style) (document : Document) :
    Json.Recoverable ofValue? (document.dump style) document ∧
      ∀ otherStyle other, document.dump style = other.dump otherStyle → document = other :=
  ⟨recoverable_dump style document, fun otherStyle other =>
    (recoverable_dump style document).unique (recoverable_dump otherStyle other)⟩

/-- The compact dump of a document whose only text needs three kinds of escapes. -/
def escapedDump : String :=
  "\x7b\"kind\":\"root\",\"meta\":\x7b\x7d,\"configurations\":\x7b\x7d," ++
    "\"references\":\x7b\x7d,\"body\":[\x7b\"kind\":\"literal\"," ++
    "\"value\":\"\\\"\\n\\u0001\"\x7d]\x7d"

/-- A text with a quotation mark, a line end and a control character is recovered. -/
theorem recovered_from_escapes :
    (Value.read? escapedDump.toList).bind ofValue? = some { body := [.literal "\"\n\x01"] } := by
  have hdump : ({ body := [.literal "\"\n\x01"] } : Document).dump .compact = escapedDump := by
    decide
  rw [← hdump]
  exact (dump_lossless .compact { body := [.literal "\"\n\x01"] }).1.read

end Document

end PageMarkup
