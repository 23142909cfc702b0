import PageMarkup.Proofs.Scan.Spacing
import PageMarkup.Report
import PageMarkup.Session

/-!
# Normalised sources

The white space around a source is cut off first, and carriage returns are dropped afterwards. As a
carriage return is white space itself, the order does not matter: the source without carriage
returns, with the white space around it cut off, is the same text. So no blank comes to the ends
when carriage returns are dropped, a normalised source stays as it is, and sources that only differ
in carriage returns are the same for everything that follows.
-/

namespace PageMarkup

namespace Source

/-- The characters of a source apart from carriage returns. -/
def withoutReturns (source : String) : List Char := source.toList.filter (· != '\r')

/-- What is dropped from white space leaves white space. -/
theorem all_isBlank_filter {text : List Char} (h : text.all Text.isBlank = true)
    (keeps : Char → Bool) : (text.filter keeps).all Text.isBlank = true := by
  rw [List.all_eq_true] at h ⊢
  intro c hc
  exact h c (List.mem_filter.mp hc).1

/-- What is read stands between white space in the source without carriage returns. -/
theorem exists_eq_append_normalize (source : String) :
    ∃ lead tail, withoutReturns source = lead ++ (normalize source ++ tail) ∧
      lead.all Text.isBlank = true ∧ tail.all Text.isBlank = true := by
  obtain ⟨lead, tail, hsource, hlead, htail, -, -⟩ := Text.exists_eq_append_trim source.toList
  refine ⟨lead.filter (· != '\r'), tail.filter (· != '\r'), ?_, all_isBlank_filter hlead _,
    all_isBlank_filter htail _⟩
  have hfilter := congrArg (List.filter (· != '\r')) hsource
  rw [List.filter_append, List.filter_append] at hfilter
  exact hfilter

/-- A source has a text to read exactly if something is left of it. -/
theorem stream?_eq_some_iff {source : String} {stream : List Char} :
    stream? source = some stream ↔ normalize source = stream ∧ stream ≠ [] := by
  rw [stream?]
  cases normalize source with
  | nil => simp
  | cons c rest => simpa using fun h : c :: rest = stream => h ▸ List.cons_ne_nil c rest

/-- A source has no text to read exactly if nothing is left of it. -/
theorem stream?_eq_none_iff {source : String} : stream? source = none ↔ normalize source = [] := by
  rw [stream?]
  cases normalize source <;> simp

/-- It does not matter whether white space is cut off before or after carriage returns are
dropped. -/
theorem normalize_eq_trim (source : String) :
    normalize source = Text.trim (withoutReturns source) := by
  obtain ⟨lead, tail, hreturns, hlead, htail⟩ := exists_eq_append_normalize source
  by_cases hempty : normalize source = []
  · -- Then the source is white space, and so is what is left of it.
    have hblank := normalize_eq_nil_iff.mp hempty
    rw [hempty, eq_comm, Text.trim_eq_nil_iff]
    intro c hc
    exact hblank c (List.mem_filter.mp hc).1
  · obtain ⟨-, -, hfirst, hlast⟩ := stream?_eq_some (stream?_eq_some_iff.mpr ⟨rfl, hempty⟩)
    rw [hreturns, Text.trim_append hlead htail hempty hfirst hlast]

/-- A text that is read is read again as it stands. -/
theorem stream?_ofList {source : String} {stream : List Char} (h : stream? source = some stream) :
    stream? (String.ofList stream) = some stream := by
  obtain ⟨hne, hreturns, hfirst, hlast⟩ := stream?_eq_some h
  refine stream?_of_trim ?_ hne hreturns
  rw [String.toList_ofList, Text.trim_eq_self hfirst hlast]

/-- Carriage returns do not change what is read. -/
theorem stream?_eq_of_withoutReturns {source other : String}
    (h : withoutReturns source = withoutReturns other) : stream? source = stream? other := by
  rw [stream?, stream?, normalize_eq_trim, normalize_eq_trim, h]

end Source

/-- What a compilation answers and leaves behind depends on what is read of the source only: the
empty source is no exception, as any other source of white space leaves the same behind. -/
theorem Session.compile_eq (session : Session) (source : String) (elapsed : Elapsed) :
    (session.compile source elapsed).1 =
        (Compilation.ofSource source).result.map Compiled.document ∧
      (session.compile source elapsed).2.stream = (Compilation.ofSource source).stream ∧
      (session.compile source elapsed).2.lineCount = (Compilation.ofSource source).lineCount ∧
      (session.compile source elapsed).2.tokens =
        (Compilation.ofSource source).result.toOption.map Compiled.tokens ∧
      (session.compile source elapsed).2.document =
        (Compilation.ofSource source).result.toOption.map Compiled.document := by
  by_cases hsource : source = ""
  · subst hsource
    have hempty : Compilation.ofSource "" = { result := .error .emptySource } := by
      rw [Compilation.ofSource, Source.stream?_eq_none_iff.mpr (by decide +kernel)]
    rw [compile, if_pos rfl, hempty]
    exact ⟨rfl, rfl, rfl, rfl, rfl⟩
  · rw [compile, if_neg hsource]
    dsimp only
    cases (Compilation.ofSource source).result with
    | error diagnostic => exact ⟨rfl, rfl, rfl, rfl, rfl⟩
    | ok compiled => exact ⟨rfl, rfl, rfl, rfl, rfl⟩

/-- A report shows the line and the caret of the text that is read. -/
theorem Report.render_of_stream? {source : String} {stream : List Char}
    (h : Source.stream? source = some stream) {diagnostic : Diagnostic} {position : Position}
    (hposition : diagnostic.position? = some position) :
    Report.render source diagnostic =
      "ERROR AT LINE " ++ toString position.line ++ ":\n"
        ++ String.ofList (lineAt stream position.line) ++ "\n"
        ++ String.ofList (caretLine (lineAt stream position.line) position.column) ++ "\n"
        ++ diagnostic.message ++ "\n\n" := by
  rw [render, hposition, (Source.stream?_eq_some_iff.mp h).1]

/-- What is known of a text that is read of a source. -/
structure Source.Normal (source : String) (stream : List Char) : Prop where
  /-- It is the source without carriage returns and without the white space around it. -/
  between : ∃ lead tail, withoutReturns source = lead ++ (stream ++ tail) ∧
    lead.all Text.isBlank = true ∧ tail.all Text.isBlank = true
  /-- It is not empty. -/
  nonempty : stream ≠ []
  /-- There is no carriage return in it. -/
  returns : '\r' ∉ stream
  /-- It begins with no white space. -/
  first : ∃ c, stream.head? = some c ∧ Text.isBlank c = false
  /-- It ends with no white space. -/
  last : ∃ c, stream.getLast? = some c ∧ Text.isBlank c = false
  /-- Reports show its lines. -/
  reported : ∀ diagnostic position, diagnostic.position? = some position →
    Report.render source diagnostic =
      "ERROR AT LINE " ++ toString position.line ++ ":\n"
        ++ String.ofList (Report.lineAt stream position.line) ++ "\n"
        ++ String.ofList (Report.caretLine (Report.lineAt stream position.line) position.column)
        ++ "\n" ++ diagnostic.message ++ "\n\n"
  /-- It is read again as it stands. -/
  again : stream? (String.ofList stream) = some stream

/-- An end of a text that is no white space. -/
theorem Source.exists_of_all {outer : Option Char} (hsome : outer.isSome = true)
    (hall : outer.all (!Text.isBlank ·) = true) :
    ∃ c, outer = some c ∧ Text.isBlank c = false := by
  obtain ⟨c, rfl⟩ := Option.isSome_iff_exists.mp hsome
  exact ⟨c, rfl, by simpa using hall⟩

/-- Whatever is read of a source is normal. -/
theorem Source.normal_of_stream? {source : String} {stream : List Char}
    (h : stream? source = some stream) : Normal source stream := by
  obtain ⟨hne, hreturns, hfirst, hlast⟩ := stream?_eq_some h
  obtain ⟨hnormal, -⟩ := stream?_eq_some_iff.mp h
  exact
    { between := hnormal ▸ exists_eq_append_normalize source
      nonempty := hne
      returns := hreturns
      first := exists_of_all (by simpa using hne) hfirst
      last := exists_of_all (by simpa using hne) hlast
      reported := fun _ _ hposition => Report.render_of_stream? h hposition
      again := stream?_ofList h }

/-- A source has nothing to read exactly if it is all white space, and what is read of any other
source is normal: it has no carriage returns, it begins and ends with no white space, it is what
reports show, and it stays as it is. Sources that are the same without their carriage returns are
compiled alike, whatever was compiled before. -/
theorem carriage_returns_never_matter (source : String) :
    (Source.stream? source = none ↔ ∀ c ∈ source.toList, Text.isBlank c = true) ∧
    (∀ stream, Source.stream? source = some stream → Source.Normal source stream) ∧
    ∀ other : String, source.toList.filter (· != '\r') = other.toList.filter (· != '\r') →
      ∀ (session session' : Session) (elapsed elapsed' : Elapsed),
        (session.compile source elapsed).1 = (session'.compile other elapsed').1 ∧
        (session.compile source elapsed).2.stream = (session'.compile other elapsed').2.stream ∧
        (session.compile source elapsed).2.tokens = (session'.compile other elapsed').2.tokens ∧
        (session.compile source elapsed).2.lineCount =
          (session'.compile other elapsed').2.lineCount ∧
        (session.compile source elapsed).2.document =
          (session'.compile other elapsed').2.document := by
  refine ⟨Source.stream?_eq_none_iff.trans Source.normalize_eq_nil_iff,
    fun stream => Source.normal_of_stream?, ?_⟩
  intro other hreturns session session' elapsed elapsed'
  have hsame : Compilation.ofSource source = Compilation.ofSource other := by
    rw [Compilation.ofSource, Compilation.ofSource, Source.stream?_eq_of_withoutReturns hreturns]
  obtain ⟨hanswer, hstream, hlines, htokens, hdocument⟩ := session.compile_eq source elapsed
  obtain ⟨hanswer', hstream', hlines', htokens', hdocument'⟩ := session'.compile_eq other elapsed'
  rw [hanswer, hstream, hlines, htokens, hdocument, hanswer', hstream', hlines', htokens',
    hdocument', hsame]
  exact ⟨rfl, rfl, rfl, rfl, rfl⟩

/-- A source with carriage returns in many places. -/
def returnsInside : String := "\r\nA\rb\r\n[ \"x\ry\" ]\r"

/-- A source like this one without carriage returns. -/
def returnsLeftOut : String := "\nAb\n[ \"xy\" ]"

/-- Carriage returns at both ends, before a line end, inside a word and inside a quoted text leave
the same behind as a source without them. -/
theorem carriage_returns_inside_words :
    Source.stream? returnsInside =
      some ['A', 'b', '\n', '[', ' ', '"', 'x', 'y', '"', ' ', ']'] ∧
    Source.Normal returnsInside ['A', 'b', '\n', '[', ' ', '"', 'x', 'y', '"', ' ', ']'] ∧
    (({} : Session).compile returnsInside ⟨0, 1⟩).1 =
      (({} : Session).compile returnsLeftOut ⟨0, 2⟩).1 ∧
    (({} : Session).compile returnsInside ⟨0, 1⟩).2.document =
      (({} : Session).compile returnsLeftOut ⟨0, 2⟩).2.document := by
  have hstream : Source.stream? returnsInside =
      some ['A', 'b', '\n', '[', ' ', '"', 'x', 'y', '"', ' ', ']'] := by
    decide +kernel
  obtain ⟨-, hnormal, halike⟩ := carriage_returns_never_matter returnsInside
  obtain ⟨hanswer, -, -, -, hdocument⟩ :=
    halike returnsLeftOut (by decide +kernel) {} {} ⟨0, 1⟩ ⟨0, 2⟩
  exact ⟨hstream, hnormal _ hstream, hanswer, hdocument⟩

end PageMarkup
