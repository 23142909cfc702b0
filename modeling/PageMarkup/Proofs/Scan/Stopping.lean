import PageMarkup.Proofs.Scan.Spelling
import PageMarkup.Proofs.Span

/-!
# Where reading stops

A text that begins with no blank begins with a lexeme, or it is refused for one of three reasons: a
character begins nothing, a character may not follow the word before it, or a delimiter is not
followed by a second one. So every text has a split, or it has a split up to a place where it is
refused. This says nothing about how a text is read; the scanner stops exactly at that place, with
the fault that the text has there.
-/

namespace PageMarkup.Scan

/-- A well-formed lexeme is written with at least one character, and its first one is no blank. -/
theorem Lexeme.exists_spelling_eq_cons {lexeme : Lexeme} (hform : lexeme.wellFormed = true) :
    ∃ c rest, lexeme.spelling = c :: rest ∧ isGap c = false := by
  obtain ⟨kind, text⟩ := lexeme
  cases kind with
  | roundOpen | roundClose | squareOpen | squareClose | colon | comma | dot =>
    obtain rfl : text = [_] := by simpa [Lexeme.wellFormed, TokenKind.symbol?] using hform
    exact ⟨_, [], rfl, by decide⟩
  | identifier | keyword | integer =>
    obtain _ | ⟨c, word⟩ := text
    · cases hform
    simp only [Lexeme.wellFormed, Bool.and_eq_true] at hform
    refine ⟨c, word, rfl, isGap_eq_false_of_isAlphanum ?_⟩
    simp [Char.isAlphanum, isAlpha_of_isLower, isAlpha_of_isUpper, hform.1]
  | constant | declaration | decorator | string => exact ⟨_, _, rfl, by decide⟩

/-- Every lexeme can be the last one. -/
theorem Lexeme.allows_none (lexeme : Lexeme) : lexeme.allows none = true := by
  unfold Lexeme.allows
  split <;> rfl

namespace Split

/-- The split with one more blank in front. -/
def widen (c : Char) : Split → Split
  | finish gap => finish (c :: gap)
  | next gap lexeme rest => next (c :: gap) lexeme rest

/-- One more blank in front of a split is one more blank in front of its text. -/
theorem Spells.widen {split : Split} {text : List Char} (h : split.Spells text) {c : Char}
    (hgap : isGap c = true) : (split.widen c).Spells (c :: text) := by
  obtain ⟨hvalid, rfl⟩ := h
  cases split with
  | finish gap => exact ⟨by simpa [valid, Split.widen, hgap] using hvalid, rfl⟩
  | next gap lexeme rest => exact ⟨by simpa [valid, Split.widen, hgap] using hvalid, rfl⟩

/-- One more lexeme in front of a split is its spelling in front of the text. -/
theorem Spells.cons {split : Split} {text : List Char} (h : split.Spells text) {lexeme : Lexeme}
    (hform : lexeme.wellFormed = true) (hallows : lexeme.allows text.head? = true) :
    (next [] lexeme split).Spells (lexeme.spelling ++ text) := by
  obtain ⟨hvalid, rfl⟩ := h
  exact ⟨by simp [valid, hform, hallows, hvalid], rfl⟩

end Split

/-- A text that begins with a well-formed lexeme and a follower that it allows. -/
def BeginsWithLexeme (text : List Char) : Prop :=
  ∃ lexeme : Lexeme, ∃ rest, text = lexeme.spelling ++ rest ∧ lexeme.wellFormed = true ∧
    lexeme.allows rest.head? = true

/-- The delimiter of the kinds of lexemes that have one. -/
def delimiter? : TokenKind → Option Char
  | .string => some '"'
  | .decorator => some '/'
  | _ => none

/-- A lexeme with a delimiter is spelled between two of them. -/
theorem spelling_of_delimiter? {kind : TokenKind} {mark : Char} (h : delimiter? kind = some mark)
    (word : List Char) : Lexeme.spelling ⟨kind, word⟩ = mark :: (word ++ [mark]) := by
  cases kind <;> cases h <;> rfl

/-- A lexeme with a delimiter holds any characters but the delimiter. -/
theorem wellFormed_of_delimiter? {kind : TokenKind} {mark : Char}
    (h : delimiter? kind = some mark) (word : List Char) :
    Lexeme.wellFormed ⟨kind, word⟩ = word.all (· != mark) := by
  cases kind <;> cases h <;> rfl

/-- A text that begins neither with a blank nor with a lexeme, with what stands before the place of
the fault, and the fault. -/
inductive Refused : List Char → List Char → Fault → Prop
  /-- A character begins nothing. -/
  | character {c : Char} (hbegin : State.step .start (some c) = .advance .failed .reject)
    (rest : List Char) : Refused (c :: rest) [] (.unexpected c)
  /-- A character may not follow the word or the constant before it. -/
  | follower {lexeme : Lexeme} {c : Char}
    (hkind : lexeme.kind = .identifier ∨ lexeme.kind = .keyword ∨ lexeme.kind = .constant)
    (hform : lexeme.wellFormed = true) (hword : isWordChar c = false)
    (hallows : lexeme.allows (some c) = false) (rest : List Char) :
    Refused (lexeme.spelling ++ c :: rest) lexeme.spelling (.unexpected c)
  /-- A delimiter has no second one behind it. -/
  | unterminated {kind : TokenKind} {mark : Char} {word : List Char}
    (hmark : delimiter? kind = some mark) (hword : mark ∉ word) :
    Refused (mark :: word) [] (.unterminated kind)

/-- A character that is no blank is a mark, a sign, a delimiter, or left to words and numbers. -/
theorem symbol_or_begin {c : Char} (hgap : isGap c = false) :
    (∃ kind : TokenKind, kind.symbol? = some c) ∨ c = '$' ∨ c = '@' ∨ c = '/' ∨ c = '"' ∨
      State.step .start (some c) = State.beginWord c := by
  rw [State.step]
  unfold State.begin
  split
  case h_1 heq => cases heq
  case h_2 heq | h_3 heq | h_4 heq =>
    cases heq
    exact absurd hgap (by decide)
  case h_5 heq => cases heq; exact .inl ⟨.roundOpen, rfl⟩
  case h_6 heq => cases heq; exact .inl ⟨.roundClose, rfl⟩
  case h_7 heq => cases heq; exact .inl ⟨.squareOpen, rfl⟩
  case h_8 heq => cases heq; exact .inl ⟨.squareClose, rfl⟩
  case h_9 heq => cases heq; exact .inl ⟨.colon, rfl⟩
  case h_10 heq => cases heq; exact .inl ⟨.comma, rfl⟩
  case h_11 heq => cases heq; exact .inl ⟨.dot, rfl⟩
  all_goals simp_all

/-- A mark is a lexeme of its own. -/
theorem beginsWithLexeme_symbol {kind : TokenKind} {c : Char} (hsymbol : kind.symbol? = some c)
    (text : List Char) : BeginsWithLexeme (c :: text) := by
  refine ⟨⟨kind, [c]⟩, text, ?_⟩
  cases kind <;> cases hsymbol <;> exact ⟨rfl, rfl, rfl⟩

/-- Digits are a number as far as they reach. -/
theorem beginsWithLexeme_integer {c : Char} (hdigit : c.isDigit = true) (text : List Char) :
    BeginsWithLexeme (c :: text) := by
  refine ⟨⟨.integer, c :: text.takeWhile Char.isDigit⟩, text.dropWhile Char.isDigit, ?_, ?_, ?_⟩
  · simp [Lexeme.spelling]
  · simp [Lexeme.wellFormed, hdigit, List.all_takeWhile]
  · exact all_head?_dropWhile Char.isDigit text

/-- Whatever follows an at sign up to a blank is a declaration. -/
theorem beginsWithLexeme_declaration (text : List Char) : BeginsWithLexeme ('@' :: text) := by
  refine ⟨⟨.declaration, text.takeWhile (!isGap ·)⟩, text.dropWhile (!isGap ·), ?_, ?_, ?_⟩
  · simp [Lexeme.spelling]
  · simp only [Lexeme.wellFormed, List.all_takeWhile]
  · simpa [Lexeme.allows] using all_head?_dropWhile (!isGap ·) text

/-- Behind its first character a word or a constant reaches as far as it can, and what follows then
is allowed or refused. -/
theorem word_or_refused (lexeme : List Char → Lexeme) {c : Char} {ends : Char → Bool}
    (hkind : ∀ word, (lexeme word).kind = .identifier ∨ (lexeme word).kind = .keyword ∨
      (lexeme word).kind = .constant)
    (hspelling : ∀ word, (lexeme word).spelling = c :: word)
    (hform : ∀ word, (lexeme word).wellFormed = word.all isWordChar)
    (hallows : ∀ word next, (lexeme word).allows next = next.all ends) (text : List Char) :
    BeginsWithLexeme (c :: text) ∨ ∃ before fault, Refused (c :: text) before fault := by
  have hwhole : c :: text =
      (lexeme (text.takeWhile isWordChar)).spelling ++ text.dropWhile isWordChar := by
    rw [hspelling, List.cons_append, List.takeWhile_append_dropWhile]
  have hwell : (lexeme (text.takeWhile isWordChar)).wellFormed = true := by
    rw [hform, List.all_takeWhile]
  cases hends : (text.dropWhile isWordChar).head?.all ends with
  | true => exact .inl ⟨_, _, hwhole, hwell, by rw [hallows, hends]⟩
  | false =>
    have hword := all_head?_dropWhile isWordChar text
    cases hrest : text.dropWhile isWordChar with
    | nil => simp [hrest] at hends
    | cons next rest =>
      simp only [hrest, List.head?_cons, Option.all_some, Bool.not_eq_true'] at hends hword
      rw [hwhole, hrest]
      exact .inr ⟨_, _, .follower (hkind _) hwell hword (by simpa [hallows] using hends) rest⟩

/-- A delimiter begins a text between delimiters, or it has no second one behind it. -/
theorem delimited_or_refused {kind : TokenKind} {mark : Char} (hmark : delimiter? kind = some mark)
    (text : List Char) :
    BeginsWithLexeme (mark :: text) ∨ ∃ before fault, Refused (mark :: text) before fault := by
  have hallows (word : List Char) (next : Option Char) :
      Lexeme.allows ⟨kind, word⟩ next = true := by
    cases kind <;> cases hmark <;> rfl
  have hwhole : text.takeWhile (· != mark) ++ text.dropWhile (· != mark) = text :=
    List.takeWhile_append_dropWhile
  have hall : (text.takeWhile (· != mark)).all (· != mark) = true := List.all_takeWhile
  cases hrest : text.dropWhile (· != mark) with
  | cons c rest =>
    left
    obtain rfl : c = mark := by simpa [hrest] using all_head?_dropWhile (· != mark) text
    refine ⟨⟨kind, text.takeWhile (· != c)⟩, rest, ?_, ?_, hallows _ _⟩
    · rw [hrest] at hwhole
      simp [spelling_of_delimiter? hmark, hwhole]
    · rw [wellFormed_of_delimiter? hmark, hall]
  | nil =>
    rw [hrest, List.append_nil] at hwhole
    rw [hwhole, List.all_eq_true] at hall
    have hword : mark ∉ text := fun hmem => by simpa using hall mark hmem
    exact .inr ⟨_, _, .unterminated hmark hword⟩

/-- What begins with no blank begins with a lexeme, or it is refused. -/
theorem lexeme_or_refused {c : Char} (hgap : isGap c = false) (text : List Char) :
    BeginsWithLexeme (c :: text) ∨ ∃ before fault, Refused (c :: text) before fault := by
  rcases symbol_or_begin hgap with ⟨kind, hsymbol⟩ | rfl | rfl | rfl | rfl | hbegin
  · exact .inl (beginsWithLexeme_symbol hsymbol text)
  · exact word_or_refused (fun word => ⟨.constant, word⟩) (fun _ => by simp)
      (fun _ => rfl) (fun _ => rfl) (fun _ _ => rfl) text
  · exact .inl (beginsWithLexeme_declaration text)
  · exact delimited_or_refused (show delimiter? .decorator = some '/' from rfl) text
  · exact delimited_or_refused (show delimiter? .string = some '"' from rfl) text
  by_cases hlower : c.isLower = true
  · exact word_or_refused (fun word => ⟨.identifier, c :: word⟩) (fun _ => by simp)
      (fun _ => rfl) (fun _ => by simp [Lexeme.wellFormed, hlower]) (fun _ _ => rfl) text
  by_cases hupper : c.isUpper = true
  · exact word_or_refused (fun word => ⟨.keyword, c :: word⟩) (fun _ => by simp)
      (fun _ => rfl) (fun _ => by simp [Lexeme.wellFormed, hupper]) (fun _ _ => rfl) text
  by_cases hdigit : c.isDigit = true
  · exact .inl (beginsWithLexeme_integer hdigit text)
  · refine .inr ⟨_, _, .character (hbegin.trans ?_) text⟩
    simp [State.beginWord, hlower, hupper, hdigit]

/-- A text that can be split up to a place where it is refused, with what stands before the place of
the fault, and the fault. -/
inductive Stops : List Char → List Char → Fault → Prop
  | here {text before : List Char} {fault : Fault} (h : Refused text before fault) :
    Stops text before fault
  | gap {c : Char} {text before : List Char} {fault : Fault} (hgap : isGap c = true)
    (h : Stops text before fault) : Stops (c :: text) (c :: before) fault
  | lexeme {lexeme : Lexeme} {text before : List Char} {fault : Fault}
    (hform : lexeme.wellFormed = true) (hallows : lexeme.allows text.head? = true)
    (h : Stops text before fault) :
    Stops (lexeme.spelling ++ text) (lexeme.spelling ++ before) fault

/-- Every text has a split or a place where it is refused. -/
theorem spells_or_stops (text : List Char) :
    (∃ split : Split, split.Spells text) ∨ ∃ before fault, Stops text before fault := by
  -- The length of the text bounds the recursion, since a gap or a lexeme is never empty.
  induction hlength : text.length using Nat.strongRecOn generalizing text with
  | ind length ih =>
    cases text with
    | nil => exact .inl ⟨.finish [], rfl, rfl⟩
    | cons c text =>
      cases hgap : isGap c with
      | true =>
        rcases ih text.length (by simp [← hlength]) text rfl with
          ⟨split, hsplit⟩ | ⟨before, fault, hstops⟩
        · exact .inl ⟨split.widen c, hsplit.widen hgap⟩
        · exact .inr ⟨_, _, hstops.gap hgap⟩
      | false =>
        rcases lexeme_or_refused hgap text with
          ⟨lexeme, rest, htext, hform, hallows⟩ | ⟨before, fault, hrefused⟩
        · have hshorter : rest.length < length := by
            obtain ⟨first, more, hspelling, -⟩ := Lexeme.exists_spelling_eq_cons hform
            have hlengths := congrArg List.length htext
            simp only [hspelling, List.length_append, List.length_cons] at hlengths hlength
            omega
          rw [htext]
          rcases ih rest.length hshorter rest rfl with ⟨split, hsplit⟩ | ⟨before, fault, hstops⟩
          · exact .inl ⟨_, hsplit.cons hform hallows⟩
          · exact .inr ⟨_, _, hstops.lexeme hform hallows⟩
        · exact .inr ⟨_, _, .here hrefused⟩

namespace State

/-- A word is refused at a character that neither belongs to it nor may follow it. -/
theorem word_of_refused {c : Char} {ends : Char → Bool} (hends : ends c = false)
    (hword : isWordChar c = false) (state : State) (kind : TokenKind) :
    word state kind ends (some c) = .advance .failed .reject := by
  simp [word, hends, hword]

end State

namespace Scanner

variable {scanner : Scanner}

/-- Inside a word the scanner stops at a character that neither belongs to the word nor may follow
it. -/
theorem run_word_refused (hstate : scanner.state ≠ .start) {kind : TokenKind} {ends : Char → Bool}
    (hstep : ∀ next, scanner.state.step next = State.word scanner.state kind ends next)
    (hclass : ∀ {c}, isWordChar c = true → ends c = false) {word : List Char}
    (hword : word.all isWordChar = true) {c : Char} (hchar : isWordChar c = false)
    (hends : ends c = false) (rest : List Char) :
    scanner.run (word ++ c :: rest) =
      .error ⟨⟨.unexpected c, scanner.position.after word⟩, scanner.tokens⟩ := by
  have hkept : ∀ d ∈ word, scanner.state.step (some d) = .advance scanner.state .keep := by
    intro d hd
    have hletter : isWordChar d = true := List.all_eq_true.mp hword d hd
    rw [hstep]
    exact State.word_of_isWordChar hletter (hclass hletter) _ _
  have hend : scanner.state.step (c :: rest).head? = .advance .failed .reject := by
    rw [hstep]
    exact State.word_of_refused hends hchar _ _
  exact run_refused hstate hkept hend

/-- A word that is entered before its first character is read stops where it is refused. -/
theorem run_name_refused (hready : scanner.Ready) {kind : TokenKind} {state : State} {first : Char}
    (hstate : state ≠ .start) (hbegin : State.step .start (some first) = .reread state .skip)
    (hstep : ∀ next, state.step next = State.word state kind endsWord next) {word : List Char}
    (hword : (first :: word).all isWordChar = true) {c : Char} (hchar : isWordChar c = false)
    (hends : endsWord c = false) (rest : List Char) :
    scanner.run (first :: word ++ c :: rest) =
      .error ⟨⟨.unexpected c, scanner.position.after (first :: word)⟩, scanner.tokens⟩ := by
  let entered : Scanner := { scanner with state := state, origin := scanner.position }
  have hentered : entered.state ≠ .start := hstate
  have henter : scanner.run (first :: word ++ c :: rest) =
      entered.run (first :: word ++ c :: rest) :=
    run_entered hready.state hstate hbegin
  rw [henter]
  exact run_word_refused hentered hstep endsWord_eq_false_of_isWordChar hword hchar hends rest

/-- A delimiter without a second one behind it stops the scanner at the end of the text, and the
fault is that of the delimiter. -/
theorem run_delimited_refused (hready : scanner.Ready) {kind : TokenKind} {state : State}
    {mark : Char} (hstate : state ≠ .start)
    (hbegin : State.step .start (some mark) = .advance state .skip)
    (hstep : ∀ next, state.step next = State.delimited state kind mark next) {word : List Char}
    (hword : mark ∉ word) :
    scanner.run (mark :: word) =
      .error ⟨⟨.unterminated kind, scanner.position⟩, scanner.tokens⟩ := by
  let entered : Scanner := { scanner with
    state := state
    origin := scanner.position
    position := scanner.position.next mark }
  have hentered : entered.state ≠ .start := hstate
  have hkept : ∀ c ∈ word, entered.state.step (some c) = .advance entered.state .keep := by
    intro c hc
    have hne : c ≠ mark := fun heq => hword (heq ▸ hc)
    exact (hstep (some c)).trans (by simp [State.delimited, hne, entered])
  rw [run_entered_past hready.state hstate hbegin]
  exact run_unterminated hentered hkept (hstep none)

/-- The scanner stops at a text that is refused, with the fault of the text. -/
theorem run_of_refused (hready : scanner.Ready) {text before : List Char} {fault : Fault}
    (h : Refused text before fault) :
    scanner.run text =
      .error ⟨⟨fault, scanner.position.after before⟩, scanner.tokens⟩ := by
  cases h with
  | @character c hbegin rest =>
    have hstep : scanner.state.step (c :: rest).head? = .advance .failed .reject := by
      rw [hready.state]
      exact hbegin
    exact run_of_error (perform_reject hstep)
  | @follower lexeme c hkind hform hword hallows rest =>
    obtain ⟨kind, text⟩ := lexeme
    rcases hkind with rfl | rfl | rfl
    · obtain _ | ⟨first, word⟩ := text
      · cases hform
      simp only [Lexeme.wellFormed, Bool.and_eq_true] at hform
      have halpha : isWordChar first = true := by
        simp [isWordChar, Char.isAlphanum, isAlpha_of_isLower hform.1]
      exact run_name_refused hready (by decide) (State.step_start_of_isLower hform.1) (fun _ => rfl)
        (by simp [halpha, hform.2]) hword hallows rest
    · obtain _ | ⟨first, word⟩ := text
      · cases hform
      simp only [Lexeme.wellFormed, Bool.and_eq_true] at hform
      have halpha : isWordChar first = true := by
        simp [isWordChar, Char.isAlphanum, isAlpha_of_isUpper hform.1]
      exact run_name_refused hready (by decide) (State.step_start_of_isUpper hform.1) (fun _ => rfl)
        (by simp [halpha, hform.2]) hword hallows rest
    · let entered : Scanner := { scanner with
        state := .constant
        origin := scanner.position
        position := scanner.position.next '$' }
      have hentered : entered.state ≠ .start := State.noConfusion
      have henter : scanner.run ('$' :: text ++ c :: rest) = entered.run (text ++ c :: rest) :=
        run_entered_past hready.state (by decide) rfl _
      exact henter.trans (run_word_refused hentered (fun _ => rfl)
        endsConstant_eq_false_of_isWordChar hform hword hallows rest)
  | @unterminated kind mark word hmark hword =>
    cases kind <;> cases hmark
    · exact run_delimited_refused hready (by decide) rfl (fun _ => rfl) hword
    · exact run_delimited_refused hready (by decide) rfl (fun _ => rfl) hword

/-- The scanner stops where the text does, with the fault of the text. -/
theorem run_of_stops (hready : scanner.Ready) {text before : List Char} {fault : Fault}
    (h : Stops text before fault) :
    ∃ tokens, scanner.run text = .error ⟨⟨fault, scanner.position.after before⟩, tokens⟩ := by
  induction h generalizing scanner with
  | here h => exact ⟨_, run_of_refused hready h⟩
  | @gap c text before fault hgap h ih =>
    obtain ⟨tokens, hrun⟩ := ih (hready.moved (scanner.position.next c))
    exact ⟨tokens, (run_gap hready.state hgap text).trans hrun⟩
  | @lexeme lexeme text before fault hform hallows h ih =>
    obtain ⟨tokens, hrun⟩ := ih (hready.push lexeme)
    rw [run_lexeme hready hform hallows, hrun, Position.after_append]
    exact ⟨tokens, rfl⟩

end Scanner

/-- A blank begins no fault. -/
theorem isGap_eq_false_of_begin {c : Char}
    (h : State.step .start (some c) = .advance .failed .reject) : isGap c = false := by
  rw [Bool.eq_false_iff]
  intro hgap
  simp only [isGap, Bool.or_eq_true, beq_iff_eq, or_assoc] at hgap
  rcases hgap with rfl | rfl | rfl <;> cases h

/-- Where a text is refused, there is a character that is no blank: the refused one, or the
delimiter that has no second one behind it. -/
theorem Refused.exists_eq_append {text before : List Char} {fault : Fault}
    (h : Refused text before fault) :
    ∃ c after, text = before ++ c :: after ∧ isGap c = false ∧
      (fault = .unexpected c ∨
        ∃ kind, delimiter? kind = some c ∧ fault = .unterminated kind ∧ c ∉ after) := by
  cases h with
  | @character c hbegin rest =>
    exact ⟨c, rest, rfl, isGap_eq_false_of_begin hbegin, .inl rfl⟩
  | @follower lexeme c hkind hform hword hallows rest =>
    -- A blank may follow any word and any constant.
    have hgap : isGap c = false := by
      obtain ⟨kind, text⟩ := lexeme
      rcases hkind with rfl | rfl | rfl <;>
        simp_all [Lexeme.allows, endsWord, endsConstant]
    exact ⟨c, rest, rfl, hgap, .inl rfl⟩
  | @unterminated kind mark word hmark hword =>
    have hgap : isGap mark = false := by cases kind <;> cases hmark <;> decide
    exact ⟨mark, word, rfl, hgap, .inr ⟨kind, hmark, rfl, hword⟩⟩

namespace Stops

variable {text before : List Char} {fault : Fault}

/-- What stands before a fault is the beginning of the text, followed by the offending character:
the refused one, or the delimiter that has no second one behind it. -/
theorem exists_eq_append (h : Stops text before fault) :
    ∃ c after, text = before ++ c :: after ∧ isGap c = false ∧
      (fault = .unexpected c ∨
        ∃ kind, delimiter? kind = some c ∧ fault = .unterminated kind ∧ c ∉ after) := by
  induction h with
  | here h => exact h.exists_eq_append
  | gap hgap h ih =>
    obtain ⟨c, after, rfl, hfault⟩ := ih
    exact ⟨c, after, rfl, hfault⟩
  | lexeme hform hallows h ih =>
    obtain ⟨c, after, rfl, hfault⟩ := ih
    exact ⟨c, after, by simp, hfault⟩

/-- A lexeme before the fault may be followed by what stands before the fault, or by its end. -/
theorem allows_before (h : Stops text before fault) {lexeme : Lexeme}
    (hallows : lexeme.allows text.head? = true) : lexeme.allows before.head? = true := by
  obtain ⟨c, after, rfl, -⟩ := h.exists_eq_append
  cases before with
  | nil => exact lexeme.allows_none
  | cons first rest => exact hallows

/-- What stands before a fault has a split. -/
theorem exists_spells_before (h : Stops text before fault) :
    ∃ split : Split, split.Spells before := by
  induction h with
  | here h =>
    cases h with
    | character hbegin rest => exact ⟨.finish [], rfl, rfl⟩
    | @follower lexeme c hkind hform hword hallows rest =>
      have hempty : (Split.finish []).Spells [] := ⟨rfl, rfl⟩
      have hspells := hempty.cons hform lexeme.allows_none
      rw [List.append_nil] at hspells
      exact ⟨_, hspells⟩
    | unterminated hmark hword => exact ⟨.finish [], rfl, rfl⟩
  | gap hgap h ih =>
    obtain ⟨split, hsplit⟩ := ih
    exact ⟨_, hsplit.widen hgap⟩
  | lexeme hform hallows h ih =>
    obtain ⟨split, hsplit⟩ := ih
    exact ⟨_, hsplit.cons hform (h.allows_before hallows)⟩

/-- Where a character is refused, what follows it plays no part. -/
theorem continued {c : Char} (h : Stops text before (.unexpected c)) (more : List Char) :
    Stops (before ++ c :: more) before (.unexpected c) := by
  generalize hfault : Fault.unexpected c = fault at h
  induction h with
  | here h =>
    cases h with
    | character hbegin rest =>
      cases hfault
      exact .here (.character hbegin more)
    | follower hkind hform hword hallows rest =>
      cases hfault
      exact .here (.follower hkind hform hword hallows more)
    | unterminated hmark hword => cases hfault
  | gap hgap h ih => exact (ih hfault).gap hgap
  | @lexeme lexeme text before fault hform hallows h ih =>
    -- The character behind the lexeme is the same, since it is the refused one or stands before it.
    have hnext : lexeme.allows (before ++ c :: more).head? = true := by
      obtain ⟨d, after, rfl, -, hcases⟩ := h.exists_eq_append
      obtain rfl : c = d := by
        subst hfault
        simpa using hcases
      cases before with
      | nil => exact hallows
      | cons first rest => exact hallows
    rw [List.append_assoc]
    exact (ih hfault).lexeme hform hnext

end Stops

end PageMarkup.Scan
