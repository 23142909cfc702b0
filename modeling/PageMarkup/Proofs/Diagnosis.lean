import PageMarkup.Proofs.Compilation
import PageMarkup.Proofs.Lines
import PageMarkup.Proofs.Matching
import PageMarkup.Proofs.Scan.Splitting

/-!
# Diagnostics name the offending character

Where a source is not all white space, the diagnostic of its failure has a position. The character
there is the one that is refused, the delimiter that has no second one behind it, or the first
character of the offending token, and a report shows the line that it stands in with a caret below
it.
-/

namespace PageMarkup

/-- A token that is at fault, with the wording of the fault. -/
inductive Offends (tokens : List Token) : Token → String → Prop
  /-- The tokens before it can be read, and it cannot. -/
  | read {before after : List Token} {token : Token} {builder : Document.Builder}
    {fault : Document.Fault} (htokens : tokens = before ++ token :: after)
    (hbefore : Document.Builder.run {} before = .ok builder)
    (haccept : builder.accept token.kind token.text = .error fault) :
    Offends tokens token fault.message
  /-- It closes a bracket that is not the innermost open one. -/
  | unmatched {before after : List Token} {token : Token}
    {opened : List (Located Brackets.Shape)} (htokens : tokens = before ++ token :: after)
    (hbefore : Brackets.opened? [] before = some opened)
    (hstep : Brackets.step? opened token = none) :
    Offends tokens token (Brackets.Fault.unmatched token.text).message
  /-- It opens a bracket that is never closed, and behind it all brackets match. -/
  | unclosed {before after : List Token} {token : Token} {shape : Brackets.Shape}
    {opened : List (Located Brackets.Shape)} (htokens : tokens = before ++ token :: after)
    (hbefore : Brackets.opened? [] before = some opened)
    (hopens : Brackets.opens? token.kind = some shape)
    (hafter : Brackets.opened? [] after = some []) :
    Offends tokens token (Brackets.Fault.unclosed shape).message

/-- The character of a text that a diagnostic is about. -/
inductive Offender (text : List Char) : Diagnostic → Char → Prop
  /-- What stands before the character are tokens, and with the character there are none, whatever
  follows it. -/
  | unexpected {before after : List Char} {c : Char} (htext : text = before ++ c :: after)
    (hbefore : ∃ scanned, Scan.scan before = .ok scanned)
    (hrefused : ∀ more, ∃ tokens, Scan.scan (before ++ c :: more) =
      .error ⟨⟨.unexpected c, Position.first.after before⟩, tokens⟩) :
    Offender text
      (.lexical (Scan.Fault.unexpected c).message (Position.first.after before)) c
  /-- What stands before the quote are tokens, and there is no quote behind it. -/
  | string {before word : List Char} (htext : text = before ++ '"' :: word) (hword : '"' ∉ word)
    (hbefore : ∃ scanned, Scan.scan before = .ok scanned) :
    Offender text (.lexical "Unterminated string" (Position.first.after before)) '"'
  /-- What stands before the slash are tokens, and there is no slash behind it. -/
  | decorator {before word : List Char} (htext : text = before ++ '/' :: word) (hword : '/' ∉ word)
    (hbefore : ∃ scanned, Scan.scan before = .ok scanned) :
    Offender text (.lexical "Unterminated decorator" (Position.first.after before)) '/'
  /-- The character is the first one of the offending token. -/
  | token {scanned : Scan.Scanned} {token : Token} {message : String} {before rest : List Char}
    {c : Char} {after : List Char} (hscan : Scan.scan text = .ok scanned)
    (hoffends : Offends scanned.tokens token message)
    (hspelling : token.lexeme.spelling = c :: rest)
    (htext : text = before ++ (token.lexeme.spelling ++ after))
    (hposition : token.position = Position.first.after before) :
    Offender text (.syntactic message token.position) c

/-- The position of a diagnostic names the offending character, and a report puts a caret below this
character. -/
def Diagnosed (text : List Char) (diagnostic : Diagnostic) : Prop :=
  ∃ position line c, diagnostic.position? = some position ∧ Offender text diagnostic c ∧
    Report.PointsAt text position line c ∧
    Report.CaretBelow line position.column (Report.caretLine line position.column)

section

variable {text before after : List Char} {diagnostic : Diagnostic} {c : Char}

/-- A line end is a blank. -/
theorem ne_newline_of_isGap (h : Scan.isGap c = false) : c ≠ '\n' := by
  rintro rfl
  exact absurd h (by decide)

/-- A diagnostic has its place where the offending character stands. -/
theorem diagnosed_of_offender (htext : text = before ++ c :: after) (hc : c ≠ '\n')
    (hposition : diagnostic.position? = some (Position.first.after before))
    (hoffender : Offender text diagnostic c) : Diagnosed text diagnostic := by
  obtain ⟨line, hpoints⟩ := Report.exists_pointsAt before hc after
  rw [← htext] at hpoints
  exact ⟨_, line, c, hposition, hoffender, hpoints,
    Report.caretBelow_caretLine hpoints.column_pos hpoints.column_le⟩

/-- A lexical diagnostic is about the character that is refused or the delimiter that has no second
one behind it. -/
theorem diagnosed_of_scan {stop : Scan.Stop} (hscan : Scan.scan text = .error stop) :
    Diagnosed text (Scan.Fault.diagnostic stop.fault) := by
  obtain ⟨before, fault, hstops, hfault⟩ := Scan.exists_stops_of_scan hscan
  obtain ⟨split, hsplit⟩ := hstops.exists_spells_before
  have hbefore := Scan.scan_of_spells hsplit
  obtain ⟨c, after, rfl, hgap, hcases⟩ := hstops.exists_eq_append
  have hc := ne_newline_of_isGap hgap
  rw [hfault]
  rcases hcases with rfl | ⟨kind, hkind, rfl, hafter⟩
  · exact diagnosed_of_offender rfl hc rfl
      (.unexpected rfl ⟨_, hbefore⟩ fun more => Scan.scan_of_stops (hstops.continued more))
  · cases kind with
    | string =>
      cases hkind
      exact diagnosed_of_offender rfl hc rfl (.string rfl hafter ⟨_, hbefore⟩)
    | decorator =>
      cases hkind
      exact diagnosed_of_offender rfl hc rfl (.decorator rfl hafter ⟨_, hbefore⟩)
    | _ => cases hkind

/-- A diagnostic about an offending token is about the token's first character. -/
theorem diagnosed_of_offends {scanned : Scan.Scanned} (hscan : Scan.scan text = .ok scanned)
    {token : Token} (htoken : token ∈ scanned.tokens) {message : String}
    (hoffends : Offends scanned.tokens token message) :
    Diagnosed text (.syntactic message token.position) := by
  obtain ⟨split, hvalid, rfl⟩ := Scan.exists_spells_of_scan hscan
  have hscanned := Scan.scan_of_spells ⟨hvalid, rfl⟩
  rw [hscan] at hscanned
  cases hscanned
  obtain ⟨before, after, htext, hposition, hform⟩ := Scan.Split.exists_of_mem_tokens hvalid htoken
  obtain ⟨c, rest, hspelling, hgap⟩ := Scan.Lexeme.exists_spelling_eq_cons hform
  have hwhole : split.text = before ++ c :: (rest ++ after) := by
    rw [htext, hspelling, List.cons_append]
  exact diagnosed_of_offender hwhole (ne_newline_of_isGap hgap) (congrArg some hposition)
    (.token hscan hoffends hspelling htext hposition)

/-- A diagnostic of the builder is about a token that cannot be read. -/
theorem diagnosed_of_ofTokens {scanned : Scan.Scanned} (hscan : Scan.scan text = .ok scanned)
    {fault : Located Document.Fault} (hread : Document.ofTokens scanned.tokens = .error fault) :
    Diagnosed text (Document.Fault.diagnostic fault) := by
  obtain ⟨before, token, after, middle, htokens, hbefore, haccept, hposition⟩ :=
    Document.Builder.exists_of_run_error (Document.run_of_ofTokens_error hread)
  rw [Document.Fault.diagnostic, hposition]
  exact diagnosed_of_offends hscan (by simp [htokens]) (.read htokens hbefore haccept)

/-- A diagnostic of the check is about a bracket that closes or opens none. -/
theorem diagnosed_of_check {scanned : Scan.Scanned} (hscan : Scan.scan text = .ok scanned)
    {fault : Located Brackets.Fault} (hcheck : Brackets.check scanned.tokens = .error fault) :
    Diagnosed text (Brackets.Fault.diagnostic fault) := by
  rcases Brackets.exists_of_checkFrom_error hcheck with
    ⟨before, token, after, left, htokens, hbefore, hstep, rfl⟩ | ⟨inner, outer, hopened, rfl⟩
  · exact diagnosed_of_offends hscan (by simp [htokens]) (.unmatched htokens hbefore hstep)
  · rw [← List.nil_append (inner :: outer)] at hopened
    obtain ⟨before, token, after, htokens, hopens, hposition, hbefore, hafter⟩ :=
      Brackets.exists_opener hopened
    rw [← hposition]
    exact diagnosed_of_offends hscan (by simp [htokens]) (.unclosed htokens hbefore hopens hafter)

end

/-- A source fails as empty exactly if it is all white space, and any other failure names the
offending character: its line is one that a report finds, it stands there at the column, and the
caret stands below it. -/
theorem diagnostics_name_offender (checks : Bool) (source : String) :
    (∀ options : Command.Options, options.checks = checks →
      options.compile source = checked checks source >>= options.emit) ∧
    (checked checks source = .error (.input "source is empty") ↔
      ∀ c ∈ source.toList, Text.isBlank c = true) ∧
    ∀ diagnostic, checked checks source = .error diagnostic →
      diagnostic = .input "source is empty" ∨ Diagnosed (Source.normalize source) diagnostic := by
  refine ⟨?_, ?_, ?_⟩
  · rintro options rfl
    exact options.compile_eq source
  · rw [← Source.normalize_eq_nil_iff]
    constructor
    · intro h
      rcases checked_cases h with ⟨hempty, -⟩ | ⟨stop, -, hother⟩ |
        ⟨scanned, -, ⟨fault, -, hother⟩ | ⟨fault, -, hother⟩⟩
      · exact hempty
      · cases hother
      · cases hother
      · cases hother
    · intro hempty
      rw [checked, Compilation.ofSource, Source.stream?, hempty]
      rfl
  · intro diagnostic h
    rcases checked_cases h with ⟨-, rfl⟩ | ⟨stop, hscan, rfl⟩ |
      ⟨scanned, hscan, ⟨fault, hread, rfl⟩ | ⟨fault, hcheck, rfl⟩⟩
    · exact .inl rfl
    · exact .inr (diagnosed_of_scan hscan)
    · exact .inr (diagnosed_of_ofTokens hscan hread)
    · exact .inr (diagnosed_of_check hscan hcheck)

/-- A refused character behind a tab in the second line is named by that line and the second column,
although the source has white space and a carriage return that are not read. -/
theorem diagnosed_behind_tab :
    checked true " A\r\n\t% " = .error (.lexical (Scan.Fault.unexpected '%').message ⟨2, 2⟩) ∧
      Diagnosed (Source.normalize " A\r\n\t% ")
        (.lexical (Scan.Fault.unexpected '%').message ⟨2, 2⟩) := by
  have hnormal : Source.normalize " A\r\n\t% " = ['A', '\n', '\t', '%'] := by decide +kernel
  have hstops : Scan.Stops ['A', '\n', '\t', '%'] ['A', '\n', '\t'] (.unexpected '%') :=
    have hrest : Scan.Stops ['\n', '\t', '%'] ['\n', '\t'] (.unexpected '%') :=
      .gap rfl (.gap rfl (.here (.character rfl [])))
    hrest.lexeme (show Scan.Lexeme.wellFormed ⟨.keyword, ['A']⟩ = true from rfl) rfl
  have hfails : checked true " A\r\n\t% " =
      .error (.lexical (Scan.Fault.unexpected '%').message ⟨2, 2⟩) := by
    obtain ⟨tokens, hscan⟩ := Scan.scan_of_stops hstops
    rw [checked, Compilation.ofSource, Source.stream?, hnormal]
    dsimp only [Compilation.ofStream]
    rw [hscan]
    rfl
  refine ⟨hfails, ?_⟩
  rcases (diagnostics_name_offender true " A\r\n\t% ").2.2 _ hfails with hempty | hdiagnosed
  · cases hempty
  · exact hdiagnosed

end PageMarkup
