import PageMarkup.Compilation
import PageMarkup.Proofs.Matching
import PageMarkup.Proofs.Scan.Spacing

/-!
# Layout has no meaning

Where the tokens stand plays a part only in the report of a fault. Two lists of the same lexemes are
read side by side: the builder takes the same steps on both, and the brackets that the check keeps
differ at most in their places. So both give the same document or the same fault, up to its place.
Together with the scanner, which finds the same lexemes whatever blanks stand between them, this
makes the HTML of a source, or the message that takes its place, independent of its layout.
-/

namespace PageMarkup

/-- A diagnostic without its place: its code and its message. -/
def Diagnostic.unplaced (diagnostic : Diagnostic) : String × String :=
  (diagnostic.code, diagnostic.message)

/-- Equal lexemes are of one kind and have one text. -/
theorem Token.eq_of_lexeme {first second : Token} (h : first.lexeme = second.lexeme) :
    first.kind = second.kind ∧ first.text = second.text := by
  have hparts := Scan.Lexeme.mk.inj h
  exact ⟨hparts.1, String.toList_inj.mp hparts.2⟩

/-- Results that agree up to the place of a fault are the same, or fail for the same reason. -/
theorem agree_cases {ε α : Type} {first second : Except (Located ε) α}
    (h : first.mapError Located.value = second.mapError Located.value) :
    (∃ result, first = .ok result ∧ second = .ok result) ∨
      ∃ fault other, first = .error fault ∧ second = .error other ∧ fault.value = other.value := by
  cases first with
  | ok result =>
    cases second with
    | ok other =>
      cases h
      exact .inl ⟨result, rfl, rfl⟩
    | error other => cases h
  | error fault =>
    cases second with
    | ok other => cases h
    | error other => exact .inr ⟨fault, other, rfl, rfl, Except.error.inj h⟩

namespace Document

/-- The same lexemes are read alike, up to the place of a fault. -/
theorem Builder.run_agrees {first second : List Token}
    (h : first.map Token.lexeme = second.map Token.lexeme) (builder : Builder) :
    (builder.run first).mapError Located.value = (builder.run second).mapError Located.value := by
  induction first generalizing second builder with
  | nil =>
    obtain rfl := List.map_eq_nil_iff.mp h.symm
    rfl
  | cons token rest ih =>
    obtain ⟨other, others, rfl, hother, hothers⟩ := List.map_eq_cons_iff.mp h.symm
    obtain ⟨hkind, htext⟩ := Token.eq_of_lexeme hother
    rw [run_cons, run_cons, read, read, hkind, htext]
    cases builder.accept token.kind token.text with
    | error fault => rfl
    | ok next => exact ih hothers.symm next

/-- The same lexemes give the same document or the same fault, up to its place. -/
theorem ofTokens_agrees {first second : List Token}
    (h : first.map Token.lexeme = second.map Token.lexeme) :
    (ofTokens first).mapError Located.value = (ofTokens second).mapError Located.value := by
  rw [ofTokens, ofTokens]
  rcases agree_cases (Builder.run_agrees h {}) with
    ⟨final, hfirst, hsecond⟩ | ⟨fault, other, hfirst, hsecond, hfault⟩
  · rw [hfirst, hsecond]
  · rw [hfirst, hsecond]
    exact congrArg Except.error hfault

end Document

namespace Brackets

/-- Brackets of the same shapes are opened and closed alike by tokens of one kind. -/
theorem step?_agrees {opened others : List (Located Shape)} {first second : Token}
    (hopened : opened.map Located.value = others.map Located.value)
    (hkind : first.kind = second.kind) :
    (step? opened first).map (List.map Located.value) =
      (step? others second).map (List.map Located.value) := by
  unfold step?
  rw [hkind]
  cases opens? second.kind with
  | some shape => simp [hopened]
  | none =>
    cases closes? second.kind with
    | none => simp [hopened]
    | some shape =>
      cases opened with
      | nil =>
        obtain rfl := List.map_eq_nil_iff.mp hopened.symm
        rfl
      | cons inner outer =>
        obtain ⟨inner', outer', rfl, hinner, houter⟩ := List.map_eq_cons_iff.mp hopened.symm
        by_cases hshape : inner.value = shape
        · simp [hinner, hshape, houter]
        · simp [hinner, hshape]

/-- Brackets of the same shapes before the same lexemes are checked alike, up to the place of a
fault. -/
theorem checkFrom_agrees {first second : List Token} {opened others : List (Located Shape)}
    (hopened : opened.map Located.value = others.map Located.value)
    (h : first.map Token.lexeme = second.map Token.lexeme) :
    (checkFrom opened first).mapError Located.value =
      (checkFrom others second).mapError Located.value := by
  induction first generalizing second opened others with
  | nil =>
    obtain rfl := List.map_eq_nil_iff.mp h.symm
    cases opened with
    | nil =>
      obtain rfl := List.map_eq_nil_iff.mp hopened.symm
      rfl
    | cons inner outer =>
      obtain ⟨inner', outer', rfl, hinner, -⟩ := List.map_eq_cons_iff.mp hopened.symm
      exact congrArg (Except.error ∘ Fault.unclosed) hinner.symm
  | cons token rest ih =>
    obtain ⟨other, remaining, rfl, hother, hremaining⟩ := List.map_eq_cons_iff.mp h.symm
    obtain ⟨hkind, htext⟩ := Token.eq_of_lexeme hother
    have hstep := step?_agrees hopened hkind.symm
    rw [checkFrom_cons, checkFrom_cons]
    cases hfirst : step? opened token with
    | none =>
      rw [hfirst, Option.map_none, eq_comm, Option.map_eq_none_iff] at hstep
      rw [hstep, htext]
      rfl
    | some next =>
      rw [hfirst, Option.map_some, eq_comm, Option.map_eq_some_iff] at hstep
      obtain ⟨next', hsecond, hnext⟩ := hstep
      rw [hsecond]
      exact ih hnext.symm hremaining.symm

/-- The same lexemes are checked alike, up to the place of a fault. -/
theorem check_agrees {first second : List Token}
    (h : first.map Token.lexeme = second.map Token.lexeme) :
    (check first).mapError Located.value = (check second).mapError Located.value :=
  checkFrom_agrees rfl h

end Brackets

/-- The HTML of tokens whose brackets match. -/
def tokensToHtml (tokens : List Token) : Except Diagnostic String := do
  let document ← (Document.ofTokens tokens).mapError Document.Fault.diagnostic
  (Brackets.check tokens).mapError Brackets.Fault.diagnostic
  (document.stamped.generate {} "html").mapError Target.Fault.diagnostic

/-- The HTML of a source is that of its tokens. -/
theorem compileToHtml_eq {source : String} {stream : List Char} {scanned : Scan.Scanned}
    (hstream : Source.stream? source = some stream) (hscan : Scan.scan stream = .ok scanned) :
    compileToHtml source = tokensToHtml scanned.tokens := by
  rw [compileToHtml, Compilation.ofSource, hstream]
  dsimp only
  rw [Compilation.ofStream, hscan]
  dsimp only
  rw [tokensToHtml]
  cases Document.ofTokens scanned.tokens with
  | error fault => rfl
  | ok document => rfl

/-- The same lexemes have the same HTML, or fail with the same message. -/
theorem tokensToHtml_agrees {first second : List Token}
    (h : first.map Token.lexeme = second.map Token.lexeme) :
    (tokensToHtml first).mapError Diagnostic.unplaced =
      (tokensToHtml second).mapError Diagnostic.unplaced := by
  rw [tokensToHtml, tokensToHtml]
  rcases agree_cases (Document.ofTokens_agrees h) with
    ⟨document, hfirst, hsecond⟩ | ⟨fault, other, hfirst, hsecond, hfault⟩
  · rw [hfirst, hsecond]
    rcases agree_cases (Brackets.check_agrees h) with
      ⟨result, hcheck, hother⟩ | ⟨fault, other, hcheck, hother, hfault⟩
    · rw [hcheck, hother]
    · rw [hcheck, hother]
      exact congrArg (fun cause : Brackets.Fault => Except.error ("syntax-error", cause.message))
        hfault
  · rw [hfirst, hsecond]
    exact congrArg (fun cause : Document.Fault => Except.error ("syntax-error", cause.message))
      hfault

/-- The lexemes of a source, written with any blanks around them and at least one between two of
them, are read as the same lexemes, and the HTML is the same, or the message is. -/
theorem layout_keeps_meaning {source : String} {stream : List Char} {scanned : Scan.Scanned}
    {split : Scan.Split} (hstream : Source.stream? source = some stream)
    (hscan : Scan.scan stream = .ok scanned) (hseparated : split.separated = true)
    (hlexemes : split.lexemes = scanned.tokens.map Token.lexeme) :
    (∃ respaced rescanned, Source.stream? (String.ofList split.text) = some respaced ∧
      Scan.scan respaced = .ok rescanned ∧
      rescanned.tokens.map Token.lexeme = scanned.tokens.map Token.lexeme) ∧
    (compileToHtml (String.ofList split.text)).mapError Diagnostic.unplaced =
      (compileToHtml source).mapError Diagnostic.unplaced ∧
    ∀ first second : List Token, first.map Token.lexeme = second.map Token.lexeme →
      (Document.ofTokens first).mapError Located.value =
        (Document.ofTokens second).mapError Located.value ∧
      (Brackets.check first).mapError Located.value =
        (Brackets.check second).mapError Located.value := by
  obtain ⟨respaced, hrespaced, hvalid, hsame⟩ :=
    Scan.exists_stream_of_separated hstream hscan hseparated hlexemes
  have hrescan := Scan.scan_of_spells ⟨hvalid, rfl⟩
  have htokens : (respaced.tokens .first).map Token.lexeme = scanned.tokens.map Token.lexeme := by
    rw [respaced.map_lexeme_tokens, hsame, hlexemes]
  refine ⟨⟨respaced.text, _, hrespaced, hrescan, htokens⟩, ?_, ?_⟩
  · rw [compileToHtml_eq hrespaced hrescan, compileToHtml_eq hstream hscan]
    exact tokensToHtml_agrees htokens
  · intro first second h
    exact ⟨Document.ofTokens_agrees h, Brackets.check_agrees h⟩

/-- A source without blanks between its lexemes. -/
def denseSource : String := "A[\"x y\")"

/-- The same lexemes with blanks around all of them. -/
def spacedSplit : Scan.Split :=
  .next [' '] ⟨.keyword, ['A']⟩ <| .next ['\n'] ⟨.squareOpen, ['[']⟩ <|
    .next ['\t', ' '] ⟨.string, ['x', ' ', 'y']⟩ <| .next ['\n'] ⟨.roundClose, [')']⟩ <|
    .finish [' ', '\n']

/-- The source that this split spells. -/
def spacedSource : String := " A\n[\t \"x y\"\n) \n"

/-- Blanks between lexemes that stood side by side, with a bracket among them that closes none. -/
theorem layout_around_unmatched_bracket :
    ∃ stream scanned, Source.stream? denseSource = some stream ∧ Scan.scan stream = .ok scanned ∧
      spacedSplit.separated = true ∧
      spacedSplit.lexemes = scanned.tokens.map Token.lexeme ∧
      (∃ respaced rescanned, Source.stream? spacedSource = some respaced ∧
        Scan.scan respaced = .ok rescanned ∧
        rescanned.tokens.map Token.lexeme = scanned.tokens.map Token.lexeme) ∧
      (compileToHtml spacedSource).mapError Diagnostic.unplaced =
        (compileToHtml denseSource).mapError Diagnostic.unplaced := by
  have hstream : Source.stream? denseSource =
      some ['A', '[', '"', 'x', ' ', 'y', '"', ')'] := by
    decide
  have hspells : Scan.Split.Spells (.next [] ⟨.keyword, ['A']⟩ <|
      .next [] ⟨.squareOpen, ['[']⟩ <| .next [] ⟨.string, ['x', ' ', 'y']⟩ <|
      .next [] ⟨.roundClose, [')']⟩ <| .finish []) ['A', '[', '"', 'x', ' ', 'y', '"', ')'] :=
    ⟨by decide, rfl⟩
  have hseparated : spacedSplit.separated = true := by decide
  have hscan := Scan.scan_of_spells hspells
  have hkept := layout_keeps_meaning hstream hscan hseparated rfl
  exact ⟨_, _, hstream, hscan, hseparated, rfl, hkept.1, hkept.2.1⟩

end PageMarkup
