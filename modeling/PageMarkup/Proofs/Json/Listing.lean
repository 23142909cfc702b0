import PageMarkup.Proofs.Json.Decoding

/-!
# Tokens and diagnostics from their dumps

Tokens are dumped as an array of compact rows, which only the pretty style puts on lines of their
own, and a diagnostic as a single object. Both can be recovered, whatever texts and numbers they
hold: an array of rows is written by the rules of the grammar, and the value that it denotes
describes its tokens one by one. A diagnostic has a line and a column exactly if it is lexical or
syntactic.
-/

namespace PageMarkup

namespace Json

/-- The items of an array in writing are the items in writing with a separator between them. -/
theorem intercalate_write (style : Style) (level : Nat) (separator : String) (items : List Json) :
    separator.intercalate (items.map (write style level)) =
      writeItems style level separator items := by
  induction items with
  | nil => simp [writeItems]
  | cons item rest ih =>
    cases rest with
    | nil => simp [writeItems]
    | cons next more =>
      rw [List.map_cons] at ih ⊢
      rw [List.map_cons, String.intercalate_cons_cons, ih, writeItems]

/-- Rows with a separator between them are written like the items of a compact array. -/
theorem intercalate_render (separator : String) (rows : List Json) :
    separator.intercalate (rows.map (render .compact)) = writeItems .compact 0 separator rows :=
  intercalate_write .compact 0 separator rows

/-- Rows in writing denote the array of their values, in either style. -/
theorem denotes_renderRows (style : Style) (rows : List Json) :
    Value.Denotes (renderRows style rows).toList (.array (rows.map value)) := by
  have hspells : Value.Spells (renderRows style rows).toList (.array (rows.map value)) := by
    cases rows with
    | nil =>
      have hempty : Value.Spells ('[' :: ([] ++ [']'])) (.array []) := .emptyArray rfl
      simpa [renderRows] using hempty
    | cons row rest =>
      have hitems := spellsItems_writeItems .compact (row :: rest) (List.cons_ne_nil row rest) 0
        (style.all_isBlank_newline 1) (style.all_isBlank_newline 1) (style.all_isBlank_newline 0)
      rw [valueAll_eq_map, ← intercalate_render] at hitems
      simpa [renderRows] using Value.Spells.array hitems
  have hdenotes := Value.Denotes.intro all_isBlank_nil hspells all_isBlank_nil
  simpa using hdenotes

namespace Value

/-- The natural number that a value is. -/
def nat? : Value → Option Nat
  | number (.ofNat value) 0 => some value
  | _ => none

end Value

end Json

open Json (Value)

/-- The position with the given fields. -/
def Position.ofFields? (fields : List (String × Value)) : Option Position := do
  let line ← Value.field? Value.nat? "line" fields
  let column ← Value.field? Value.nat? "column" fields
  return ⟨line, column⟩

namespace Token

/-- The token that a value describes. -/
def ofValue? : Value → Option Token
  | .object fields => do
    let name ← Value.field? Value.text? "kind" fields
    let kind ← TokenKind.ofName? name
    let text ← Value.field? Value.text? "text" fields
    let position ← Position.ofFields? fields
    return ⟨kind, text, position⟩
  | _ => none

/-- The tokens that an array describes. -/
def allOfValue? : Value → Option (List Token)
  | .array items => items.mapM ofValue?
  | _ => none

/-- A token is recovered from its object. -/
theorem ofValue?_value (token : Token) : ofValue? token.json.value = some token := by
  have hfields : ofValue? token.json.value =
      (TokenKind.ofName? token.kind.name).bind fun kind =>
        some ⟨kind, token.text, token.position⟩ := rfl
  rw [hfields, TokenKind.ofName?_name]
  rfl

/-- Tokens are recovered from their dump. -/
theorem recoverable_dump (style : Json.Style) (tokens : List Token) :
    Json.Recoverable allOfValue? (dump style tokens) tokens := by
  refine Json.recoverable_of_denotes (Json.denotes_renderRows style (tokens.map json)) ?_
  rw [List.map_map]
  exact Json.mapM_map_eq_some ofValue?_value tokens

end Token

namespace Diagnostic

/-- The diagnostic with the given code, message and position. -/
def ofParts? (code message : String) : Option Position → Option Diagnostic
  | none =>
    if code = "input-error" then some (.input message)
    else if code = "codegen-error" then some (.generation message)
    else none
  | some position =>
    if code = "lexical-error" then some (.lexical message position)
    else if code = "syntax-error" then some (.syntactic message position)
    else none

/-- A diagnostic is made of its code, its message and its position. -/
theorem ofParts?_code (diagnostic : Diagnostic) :
    ofParts? diagnostic.code diagnostic.message diagnostic.position? = some diagnostic := by
  cases diagnostic <;> rfl

/-- The position with the given fields, which may be left out together. -/
def positionOf? (fields : List (String × Value)) : Option (Option Position) :=
  match fields.lookup "line", fields.lookup "column" with
  | none, none => some none
  | _, _ => (Position.ofFields? fields).map some

/-- The diagnostic that a value describes. -/
def ofValue? : Value → Option Diagnostic
  | .object fields => do
    let code ← Value.field? Value.text? "code" fields
    let message ← Value.field? Value.text? "message" fields
    let position? ← positionOf? fields
    ofParts? code message position?
  | _ => none

/-- Whether a diagnostic is of a kind that has a place in the text. -/
def hasPlace : Diagnostic → Bool
  | input _ | generation _ => false
  | lexical _ _ | syntactic _ _ => true

/-- What the object of a diagnostic holds. -/
structure Described (diagnostic : Diagnostic) (fields : List (String × Value)) : Prop where
  code : Value.field? Value.text? "code" fields = some diagnostic.code
  message : Value.field? Value.text? "message" fields = some diagnostic.message
  position : positionOf? fields = some diagnostic.position?
  /-- There are a line and a column exactly if the diagnostic is lexical or syntactic, and no key
  occurs twice. -/
  keys : fields.map Prod.fst =
    if diagnostic.hasPlace then ["code", "message", "line", "column"] else ["code", "message"]

/-- The object of a diagnostic holds its parts. -/
theorem exists_described (diagnostic : Diagnostic) :
    ∃ fields, diagnostic.json.value = .object fields ∧ diagnostic.Described fields := by
  refine ⟨_, rfl, ?_⟩
  cases diagnostic with
  | input message => exact ⟨rfl, rfl, rfl, rfl⟩
  | lexical message position => exact ⟨rfl, rfl, rfl, rfl⟩
  | syntactic message position => exact ⟨rfl, rfl, rfl, rfl⟩
  | generation message => exact ⟨rfl, rfl, rfl, rfl⟩

/-- A diagnostic is recovered from what its object holds. -/
theorem Described.ofValue? {diagnostic : Diagnostic} {fields : List (String × Value)}
    (h : diagnostic.Described fields) : ofValue? (.object fields) = some diagnostic := by
  rw [Diagnostic.ofValue?, h.code, h.message, h.position]
  exact diagnostic.ofParts?_code

/-- A diagnostic is recovered from its dump. -/
theorem recoverable_dump (diagnostic : Diagnostic) :
    Json.Recoverable Diagnostic.ofValue? diagnostic.dump diagnostic := by
  obtain ⟨fields, hvalue, hdescribed⟩ := diagnostic.exists_described
  refine Json.recoverable_of_denotes (Json.denotes_render .compact diagnostic.json) ?_
  rw [hvalue]
  exact hdescribed.ofValue?

end Diagnostic

/-- Dumps of tokens and of diagnostics are JSON from which any reader recovers what was dumped, so
no two lists of tokens share a dump, even in different styles, and neither do two diagnostics. The
object of a diagnostic holds its code, its message and, if it is lexical or syntactic, its place. -/
theorem listings_lossless :
    (∀ style tokens, Json.Recoverable Token.allOfValue? (Token.dump style tokens) tokens) ∧
    (∀ style otherStyle tokens others,
      Token.dump style tokens = Token.dump otherStyle others → tokens = others) ∧
    (∀ diagnostic, Json.Recoverable Diagnostic.ofValue? (Diagnostic.dump diagnostic) diagnostic) ∧
    (∀ (diagnostic : Diagnostic) (value : Value), Value.Denotes diagnostic.dump.toList value →
      ∃ fields, value = .object fields ∧ diagnostic.Described fields) ∧
    ∀ first second : Diagnostic, first.dump = second.dump → first = second := by
  refine ⟨Token.recoverable_dump, ?_, Diagnostic.recoverable_dump, ?_, ?_⟩
  · intro style otherStyle tokens others hdump
    exact (Token.recoverable_dump style tokens).unique (Token.recoverable_dump otherStyle others)
      hdump
  · intro diagnostic value hvalue
    rw [hvalue.unique (Json.denotes_render .compact diagnostic.json)]
    exact diagnostic.exists_described
  · intro first second hdump
    exact first.recoverable_dump.unique second.recoverable_dump hdump

/-- The pretty dump of two tokens, the first of which has a text that looks like the end of a
row. -/
def dumpedRows : String :=
  "[\n  \x7b\"kind\":\"String\",\"text\":\"\\\"\x7d,\\n\",\"line\":1,\"column\":20\x7d,\n" ++
    "  \x7b\"kind\":\"Dot\",\"text\":\".\",\"line\":2,\"column\":1\x7d\n]"

/-- The dump of a diagnostic whose message has a quotation mark. -/
def dumpedDiagnostic : String :=
  "\x7b\"code\":\"lexical-error\",\"message\":\"Unexpected character '\\\"'\"," ++
    "\"line\":3,\"column\":4\x7d"

/-- A token whose text looks like the end of its row is recovered from the lines of a pretty dump,
and a message with a quotation mark from the dump of a diagnostic. -/
theorem recovered_from_rows :
    (Value.read? dumpedRows.toList).bind Token.allOfValue? =
      some [⟨.string, "\"\x7d,\n", ⟨1, 20⟩⟩, ⟨.dot, ".", ⟨2, 1⟩⟩] ∧
    ∃ value, Value.Denotes dumpedDiagnostic.toList value ∧
      ∃ fields, value = .object fields ∧
        (Diagnostic.lexical "Unexpected character '\"'" ⟨3, 4⟩).Described fields := by
  have htokens : Token.dump .pretty [⟨.string, "\"\x7d,\n", ⟨1, 20⟩⟩, ⟨.dot, ".", ⟨2, 1⟩⟩] =
      dumpedRows := by decide
  have hdiagnostic : (Diagnostic.lexical "Unexpected character '\"'" ⟨3, 4⟩).dump =
      dumpedDiagnostic := by decide
  obtain ⟨hrows, -, hrecovered, hdescribed, -⟩ := listings_lossless
  rw [← htokens, ← hdiagnostic]
  obtain ⟨value, hvalue⟩ := (hrecovered (.lexical "Unexpected character '\"'" ⟨3, 4⟩)).valid
  exact ⟨(hrows .pretty _).read, value, hvalue, hdescribed _ value hvalue⟩

end PageMarkup
