import PageMarkup.Proofs.Scan.Stopping

/-!
# Texts that are read are texts with a split

A text with a split is read, with one token for each lexeme of the split. Conversely a text that
is read has a split, since in any other text there is a place where the scanner stops with a fault.
As the scanner finds only one list of tokens, a text has at most one split.
-/

namespace PageMarkup.Scan

namespace Split

/-- The tokens of a split that stands at the given position. -/
def tokens : Split → Position → List Token
  | finish _, _ => []
  | next gap lexeme rest, position =>
    ⟨lexeme.kind, String.ofList lexeme.text, position.after gap⟩ ::
      rest.tokens ((position.after gap).after lexeme.spelling)

/-- The tokens of a split are its lexemes with their places. -/
theorem map_lexeme_tokens (split : Split) (position : Position) :
    (split.tokens position).map Token.lexeme = split.lexemes := by
  induction split generalizing position with
  | finish gap => rfl
  | next gap lexeme rest ih => simp [tokens, lexemes, Token.lexeme, ih]

/-- A token of a split stands where its lexeme is spelled. -/
theorem exists_of_mem_tokens {split : Split} (hvalid : split.valid = true) {position : Position}
    {token : Token} (htoken : token ∈ split.tokens position) :
    ∃ before after, split.text = before ++ (token.lexeme.spelling ++ after) ∧
      token.position = position.after before ∧ token.lexeme.wellFormed = true := by
  induction split generalizing position with
  | finish gap => cases htoken
  | next gap lexeme rest ih =>
    simp only [valid, Bool.and_eq_true] at hvalid
    rcases List.mem_cons.mp htoken with rfl | hrest
    · exact ⟨gap, rest.text, by simp [text, Token.lexeme], rfl,
        by simpa [Token.lexeme] using hvalid.1.1.2⟩
    · obtain ⟨before, after, htext, hposition, hform⟩ := ih hvalid.2 hrest
      refine ⟨gap ++ (lexeme.spelling ++ before), after, by simp [text, htext], ?_, hform⟩
      rw [hposition, Position.after_append, Position.after_append]

end Split

namespace Scanner

variable {scanner : Scanner}

/-- Where no token is being read, blanks are passed over. -/
theorem run_gaps (hready : scanner.Ready) {gap : List Char} (hgap : gap.all isGap = true)
    (rest : List Char) :
    scanner.run (gap ++ rest) =
      ({ scanner with position := scanner.position.after gap }).run rest := by
  induction gap generalizing scanner with
  | nil => rfl
  | cons c gap ih =>
    rw [List.all_cons, Bool.and_eq_true] at hgap
    rw [List.cons_append, run_gap hready.state hgap.1, ih (hready.moved _) hgap.2,
      Position.after_cons]

/-- Where no token is being read, the text may end. -/
theorem run_end (hready : scanner.Ready) :
    scanner.run [] = .ok { scanner with state := .finished, origin := scanner.position } := by
  have hstep : scanner.state.step none = .advance .finished .skip := by
    rw [hready.state]
    rfl
  rw [run_nil, read_of_advances (by rw [hstep]; rfl) (perform_skip hstep)]
  simp [mark, advance, hready.state]

/-- A text with a split is read to its end, with the tokens of the split. -/
theorem run_split (hready : scanner.Ready) {split : Split} (hvalid : split.valid = true) :
    scanner.run split.text =
      .ok { scanner with
        state := .finished
        origin := scanner.position.after split.text
        position := scanner.position.after split.text
        tokens := scanner.tokens ++ split.tokens scanner.position } := by
  induction split generalizing scanner with
  | finish gap =>
    have hpassed := hready.moved (scanner.position.after gap)
    have hrun := run_gaps hready hvalid []
    rw [List.append_nil] at hrun
    rw [Split.text, hrun, run_end hpassed]
    simp [Split.tokens]
  | next gap lexeme rest ih =>
    simp only [Split.valid, Bool.and_eq_true] at hvalid
    obtain ⟨⟨⟨hgap, hform⟩, hallows⟩, hrest⟩ := hvalid
    have hpassed := hready.moved (scanner.position.after gap)
    rw [Split.text, run_gaps hready hgap, run_lexeme hpassed hform hallows,
      ih (hpassed.push lexeme) hrest]
    simp [push, Split.tokens, Position.after_append]

/-- A text that is read to its end has a split. -/
theorem exists_split_of_run (hready : scanner.Ready) {final : Scanner} {text : List Char}
    (hrun : scanner.run text = .ok final) : ∃ split : Split, split.Spells text := by
  rcases spells_or_stops text with hsplit | ⟨before, fault, hstops⟩
  · exact hsplit
  · obtain ⟨tokens, herror⟩ := run_of_stops hready hstops
    rw [hrun] at herror
    cases herror

end Scanner

/-- Reading a text with a split gives the tokens of the split. -/
theorem scan_of_spells {split : Split} {text : List Char} (h : split.Spells text) :
    scan text =
      .ok ⟨split.tokens .first, if text = [] then 0 else (Position.first.after text).line⟩ := by
  obtain ⟨hvalid, rfl⟩ := h
  have hready : Scanner.Ready {} := ⟨rfl, rfl⟩
  rw [scan, Scanner.run_split hready hvalid]
  simp [Except.map]

/-- Reading a text with a place where it is refused gives the fault there. -/
theorem scan_of_stops {text before : List Char} {fault : Fault} (h : Stops text before fault) :
    ∃ tokens, scan text = .error ⟨⟨fault, Position.first.after before⟩, tokens⟩ := by
  have hready : Scanner.Ready {} := ⟨rfl, rfl⟩
  obtain ⟨tokens, hrun⟩ := Scanner.run_of_stops hready h
  rw [scan, hrun]
  exact ⟨tokens, rfl⟩

/-- A text that is read has a split. -/
theorem exists_spells_of_scan {scanned : Scanned} {text : List Char}
    (h : scan text = .ok scanned) : ∃ split : Split, split.Spells text := by
  have hready : Scanner.Ready {} := ⟨rfl, rfl⟩
  cases hrun : Scanner.run {} text with
  | error stop =>
    rw [scan, hrun] at h
    cases h
  | ok final => exact Scanner.exists_split_of_run hready hrun

/-- A text that is not read has a place where it is refused, and the fault is the one there. -/
theorem exists_stops_of_scan {stop : Stop} {text : List Char} (h : scan text = .error stop) :
    ∃ before fault, Stops text before fault ∧
      stop.fault = ⟨fault, Position.first.after before⟩ := by
  rcases spells_or_stops text with ⟨split, hsplit⟩ | ⟨before, fault, hstops⟩
  · rw [scan_of_spells hsplit] at h
    cases h
  · obtain ⟨tokens, herror⟩ := scan_of_stops hstops
    rw [h] at herror
    cases herror
    exact ⟨before, fault, hstops, rfl⟩

namespace Split

/-- The blanks before a lexeme are all the blanks that the text begins with. -/
theorem takeWhile_text_next {gap : List Char} {lexeme : Lexeme} {rest : Split}
    (hvalid : (next gap lexeme rest).valid = true) :
    (next gap lexeme rest).text.takeWhile isGap = gap := by
  simp only [valid, Bool.and_eq_true] at hvalid
  obtain ⟨c, more, hspelling, hgap⟩ := Lexeme.exists_spelling_eq_cons hvalid.1.1.2
  exact takeWhile_run hvalid.1.1.1 (by simp [hspelling, hgap])

/-- A split is determined by its text and its lexemes. -/
theorem eq_of_text_eq {split other : Split} (hsplit : split.valid = true)
    (hother : other.valid = true) (htext : split.text = other.text)
    (hlexemes : split.lexemes = other.lexemes) : split = other := by
  induction split generalizing other with
  | finish gap =>
    cases other with
    | finish gap' => exact congrArg finish htext
    | next gap' lexeme rest => cases hlexemes
  | next gap lexeme rest ih =>
    cases other with
    | finish gap' => cases hlexemes
    | next gap' lexeme' rest' =>
      obtain ⟨rfl, hrest⟩ := List.cons.inj hlexemes
      have hgap : gap = gap' := by
        rw [← takeWhile_text_next hsplit, ← takeWhile_text_next hother, htext]
      subst hgap
      simp only [text, List.append_cancel_left_eq] at htext
      simp only [valid, Bool.and_eq_true] at hsplit hother
      rw [ih hsplit.2 hother.2 htext hrest]

/-- A text has at most one split. -/
theorem Spells.unique {split other : Split} {text : List Char} (hsplit : split.Spells text)
    (hother : other.Spells text) : split = other := by
  have htokens : split.tokens .first = other.tokens .first := by
    have hscan := scan_of_spells hsplit
    rw [scan_of_spells hother] at hscan
    simpa using hscan.symm
  refine eq_of_text_eq hsplit.1 hother.1 (hsplit.2.trans hother.2.symm) ?_
  rw [← split.map_lexeme_tokens .first, htokens, other.map_lexeme_tokens]

end Split

/-- A text is read exactly if it can be split into blanks and lexemes, each with a follower that it
allows. There is only one such split, and the tokens are its lexemes in order. -/
theorem scan_accepts_exactly_splits (text : List Char) :
    ((∃ scanned, scan text = .ok scanned) ↔ ∃ split : Split, split.Spells text) ∧
      (∀ split other : Split, split.Spells text → other.Spells text → split = other) ∧
      ∀ split : Split, split.Spells text →
        ∃ scanned, scan text = .ok scanned ∧ scanned.tokens.map Token.lexeme = split.lexemes := by
  refine ⟨⟨?_, ?_⟩, ?_, ?_⟩
  · rintro ⟨scanned, hscan⟩
    exact exists_spells_of_scan hscan
  · rintro ⟨split, hsplit⟩
    exact ⟨_, scan_of_spells hsplit⟩
  · intro split other hsplit hother
    exact hsplit.unique hother
  · intro split hsplit
    exact ⟨_, scan_of_spells hsplit, split.map_lexeme_tokens .first⟩

/-- A number needs no blank behind it, and a dollar sign alone is a constant. -/
theorem scan_adjacent_lexemes :
    ∃ scanned, scan ['7', 'x', ':', ' ', '$', ')'] = .ok scanned ∧
      scanned.tokens.map Token.lexeme =
        [⟨.integer, ['7']⟩, ⟨.identifier, ['x']⟩, ⟨.colon, [':']⟩, ⟨.constant, []⟩,
          ⟨.roundClose, [')']⟩] :=
  (scan_accepts_exactly_splits ['7', 'x', ':', ' ', '$', ')']).2.2
    (.next [] ⟨.integer, ['7']⟩ <| .next [] ⟨.identifier, ['x']⟩ <| .next [] ⟨.colon, [':']⟩ <|
      .next [' '] ⟨.constant, []⟩ <| .next [] ⟨.roundClose, [')']⟩ <| .finish [])
    ⟨by decide, by decide⟩

end PageMarkup.Scan
