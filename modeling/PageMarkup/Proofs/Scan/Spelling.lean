import PageMarkup.Proofs.Scan.Lexeme
import PageMarkup.Proofs.Scan.Reading

/-!
# Reading one lexeme

Where a lexeme begins and a character follows that the lexeme allows, the scanner reads exactly
that lexeme: it ends with the token of the lexeme and goes on behind the spelling. The kinds of
lexemes fall into a few families, by whether the first character is used up when the token is
entered and by whether the character that ends the token is.
-/

namespace PageMarkup.Scan

/-- A character of a word does not end a word. -/
theorem endsWord_eq_false_of_isWordChar {c : Char} (h : isWordChar c = true) :
    endsWord c = false := by
  rw [Bool.eq_false_iff]
  intro hends
  simp only [endsWord, isGap, Bool.or_eq_true, beq_iff_eq, or_assoc] at hends
  rcases hends with rfl | rfl | rfl | rfl | rfl | rfl | rfl | rfl | rfl | rfl
  all_goals exact absurd h (by decide)

/-- A character of a word does not end a constant. -/
theorem endsConstant_eq_false_of_isWordChar {c : Char} (h : isWordChar c = true) :
    endsConstant c = false := by
  have hends := endsWord_eq_false_of_isWordChar h
  simp only [endsWord, Bool.or_eq_false_iff] at hends
  simp [endsConstant, hends]

/-- A letter or a digit is no blank. -/
theorem isGap_eq_false_of_isAlphanum {c : Char} (h : c.isAlphanum = true) : isGap c = false := by
  have hends := endsWord_eq_false_of_isWordChar (c := c) (by simp [isWordChar, h])
  simp only [endsWord, Bool.or_eq_false_iff] at hends
  simp [hends]

/-- A capital letter is no small letter. -/
theorem isLower_eq_false_of_isUpper {c : Char} (h : c.isUpper = true) : c.isLower = false := by
  have hupper : 'A'.val ≤ c.val ∧ c.val ≤ 'Z'.val := of_decide_eq_true h
  change (decide ('a'.val ≤ c.val) && decide (c.val ≤ 'z'.val)) = false
  grind

/-- A digit is no capital letter. -/
theorem isUpper_eq_false_of_isDigit {c : Char} (h : c.isDigit = true) : c.isUpper = false := by
  have hdigit : (decide ('0'.val ≤ c.val) && decide (c.val ≤ '9'.val)) = true := h
  change decide ('A'.val ≤ c.val ∧ c.val ≤ 'Z'.val) = false
  grind

/-- A digit is no small letter. -/
theorem isLower_eq_false_of_isDigit {c : Char} (h : c.isDigit = true) : c.isLower = false := by
  have hdigit : (decide ('0'.val ≤ c.val) && decide (c.val ≤ '9'.val)) = true := h
  change (decide ('a'.val ≤ c.val) && decide (c.val ≤ 'z'.val)) = false
  grind

namespace State

/-- A letter or a digit begins a word or a number. -/
theorem begin_of_isAlphanum {c : Char} (h : c.isAlphanum = true) :
    begin (some c) = beginWord c := by
  unfold begin
  split
  case h_1 heq => exact absurd heq (Option.some_ne_none c)
  case h_16 heq => rw [Option.some.inj heq]
  all_goals
    rename_i heq
    cases heq
    exact absurd h (by decide)

/-- A small letter begins an identifier. -/
theorem step_start_of_isLower {c : Char} (h : c.isLower = true) :
    State.step .start (some c) = .reread .identifier .skip := by
  have hbegin : begin (some c) = beginWord c :=
    begin_of_isAlphanum (by simp [Char.isAlphanum, isAlpha_of_isLower h])
  simp [step, hbegin, beginWord, h]

/-- A capital letter begins a keyword. -/
theorem step_start_of_isUpper {c : Char} (h : c.isUpper = true) :
    State.step .start (some c) = .reread .keyword .skip := by
  have hbegin : begin (some c) = beginWord c :=
    begin_of_isAlphanum (by simp [Char.isAlphanum, isAlpha_of_isUpper h])
  have hlower : c.isLower = false := isLower_eq_false_of_isUpper h
  simp [step, hbegin, beginWord, h, hlower]

/-- A digit begins a number. -/
theorem step_start_of_isDigit {c : Char} (h : c.isDigit = true) :
    State.step .start (some c) = .reread .integer .skip := by
  have hbegin : begin (some c) = beginWord c := begin_of_isAlphanum (by simp [Char.isAlphanum, h])
  have hupper : c.isUpper = false := isUpper_eq_false_of_isDigit h
  have hlower : c.isLower = false := isLower_eq_false_of_isDigit h
  simp [step, hbegin, beginWord, h, hupper, hlower]

/-- The token of the given kind is read to its end before the character. A space may be used up,
since it would be passed over anyway. -/
def Ends (state : State) (kind : TokenKind) (next : Option Char) : Prop :=
  state.step next = .reread .start (.emit kind) ∨
    next = some ' ' ∧ state.step (some ' ') = .advance .start (.emit kind)

/-- The characters of a word are kept, whatever may follow the word. -/
theorem word_of_isWordChar {c : Char} (h : isWordChar c = true) {ends : Char → Bool}
    (hends : ends c = false) (state : State) (kind : TokenKind) :
    word state kind ends (some c) = .advance state .keep := by
  simp [word, h, hends]

/-- A word ends at the end of the text and at the characters that may follow it. -/
theorem word_of_ends {next : Option Char} {ends : Char → Bool} (h : next.all ends = true)
    (state : State) (kind : TokenKind) :
    word state kind ends next = .reread .start (.emit kind) := by
  cases next with
  | none => rfl
  | some c => simp_all [word]

/-- The characters of a declaration are kept. -/
theorem topic_of_not_isGap {c : Char} (h : isGap c = false) :
    topic (some c) = .advance .declaration .keep := by
  have hspace : c ≠ ' ' := by
    rintro rfl
    exact absurd h (by decide)
  simp [topic, h, hspace]

/-- A number ends at the end of the text and at what is no digit. -/
theorem ends_integer {next : Option Char} (h : next.all (!·.isDigit) = true) :
    integer.Ends .integer next := by
  cases next with
  | none => exact .inl rfl
  | some c =>
    have hdigit : c.isDigit = false := by simpa using h
    by_cases hspace : c = ' '
    · subst hspace
      exact .inr ⟨rfl, rfl⟩
    · exact .inl (by simp [step, digits, hdigit, hspace])

/-- A declaration ends at the end of the text and at blanks. -/
theorem ends_declaration {next : Option Char} (h : next.all isGap = true) :
    declaration.Ends .declaration next := by
  cases next with
  | none => exact .inl rfl
  | some c =>
    have hgap : isGap c = true := by simpa using h
    by_cases hspace : c = ' '
    · subst hspace
      exact .inr ⟨rfl, rfl⟩
    · exact .inl (by simp [step, topic, hgap, hspace])

end State

namespace Scanner

variable {scanner : Scanner}

/-- No token is being read. -/
structure Ready (scanner : Scanner) : Prop where
  /-- A token may begin. -/
  state : scanner.state = .start
  /-- No text is kept. -/
  buffer : scanner.buffer = ""

/-- The scanner behind a lexeme. -/
def push (scanner : Scanner) (lexeme : Lexeme) : Scanner :=
  { scanner with
    origin := scanner.position
    position := scanner.position.after lexeme.spelling
    tokens := scanner.tokens.push ⟨lexeme.kind, String.ofList lexeme.text, scanner.position⟩ }

/-- Where no token is being read, the place does not matter. -/
theorem Ready.moved (hready : scanner.Ready) (position : Position) :
    Ready { scanner with position } :=
  ⟨hready.state, hready.buffer⟩

/-- Behind a lexeme no token is being read. -/
theorem Ready.push (hready : scanner.Ready) (lexeme : Lexeme) : (scanner.push lexeme).Ready :=
  ⟨hready.state, hready.buffer⟩

/-- A mark that is used up when it is entered is read as its token. -/
theorem run_opening (hready : scanner.Ready) {kind : TokenKind} {state : State} {c : Char}
    (hsymbol : kind.symbol? = some c) (hspelling : Lexeme.spelling ⟨kind, [c]⟩ = [c])
    (hstate : state ≠ .start) (hbegin : State.step .start (some c) = .advance state .skip)
    (hend : ∀ next, state.step next = .reread .start (.emit kind)) (rest : List Char) :
    scanner.run (c :: rest) = (scanner.push ⟨kind, [c]⟩).run rest := by
  rw [run_entered_past hready.state hstate hbegin]
  refine (run_ended ?_ (hend rest.head?)).trans ?_
  · exact hstate
  · simp only [emit, hsymbol, push, hspelling, hready.state, hready.buffer, Position.after_cons,
      Position.after_nil]
    rfl

/-- A mark that is entered before it is used up is read as its token. -/
theorem run_closing (hready : scanner.Ready) {kind : TokenKind} {state : State} {c : Char}
    (hsymbol : kind.symbol? = some c) (hspelling : Lexeme.spelling ⟨kind, [c]⟩ = [c])
    (hstate : state ≠ .start) (hbegin : State.step .start (some c) = .reread state .skip)
    (hend : state.step (some c) = .advance .start (.emit kind)) (rest : List Char) :
    scanner.run (c :: rest) = (scanner.push ⟨kind, [c]⟩).run rest := by
  let entered : Scanner := { scanner with state := state, origin := scanner.position }
  have hentered : entered.state ≠ .start := hstate
  calc
    scanner.run (c :: rest) = entered.run (c :: rest) := run_entered hready.state hstate hbegin
    _ = ({ entered.emit kind with
        state := .start
        position := entered.position.next c }).run rest := run_ended_past hentered hend rest
    _ = (scanner.push ⟨kind, [c]⟩).run rest := by
      simp only [entered, emit, hsymbol, push, hspelling, hready.state, hready.buffer,
        Position.after_cons, Position.after_nil]
      rfl

/-- A token that ends before what follows it has the text kept for it. -/
theorem run_ending (hstate : scanner.state ≠ .start) (hbuffer : scanner.buffer = "")
    {kind : TokenKind} (hkind : kind.symbol? = none) {word rest : List Char}
    (hword : ∀ c ∈ word, scanner.state.step (some c) = .advance scanner.state .keep)
    (hend : scanner.state.Ends kind rest.head?) :
    scanner.run (word ++ rest) =
      ({ scanner with
        state := .start
        position := scanner.position.after word
        tokens := scanner.tokens.push ⟨kind, String.ofList word, scanner.origin⟩ }).run rest := by
  rcases hend with hend | ⟨hspace, hend⟩
  · exact run_body hstate hbuffer hkind hword hend
  · obtain ⟨rest, rfl⟩ := List.head?_eq_some_iff.mp hspace
    rw [run_body_past hstate hbuffer hkind hword hend, run_gap (by rfl) (by decide)]
    simp only [Position.after_append, Position.after_cons, Position.after_nil]

/-- A word or a number is read as its token. -/
theorem run_unsigned (hready : scanner.Ready) {kind : TokenKind} {state : State} {c : Char}
    {word rest : List Char} (hkind : kind.symbol? = none)
    (hspelling : Lexeme.spelling ⟨kind, c :: word⟩ = c :: word)
    (hstate : state ≠ .start) (hbegin : State.step .start (some c) = .reread state .skip)
    (hword : ∀ d ∈ c :: word, state.step (some d) = .advance state .keep)
    (hend : state.Ends kind rest.head?) :
    scanner.run (c :: word ++ rest) = (scanner.push ⟨kind, c :: word⟩).run rest := by
  let entered : Scanner := { scanner with state := state, origin := scanner.position }
  have hentered : entered.state ≠ .start := hstate
  calc
    scanner.run (c :: word ++ rest) = entered.run (c :: word ++ rest) :=
      run_entered hready.state hstate hbegin
    _ = ({ entered with
        state := .start
        position := entered.position.after (c :: word)
        tokens := entered.tokens.push ⟨kind, String.ofList (c :: word), entered.origin⟩ }).run
          rest := run_ending hentered hready.buffer hkind hword hend
    _ = (scanner.push ⟨kind, c :: word⟩).run rest := by
      simp only [entered, push, hspelling, hready.state]

/-- An identifier or a keyword is read as its token. -/
theorem run_name (hready : scanner.Ready) {kind : TokenKind} {state : State} {c : Char}
    {word rest : List Char} (hkind : kind.symbol? = none)
    (hspelling : Lexeme.spelling ⟨kind, c :: word⟩ = c :: word)
    (hstate : state ≠ .start) (hbegin : State.step .start (some c) = .reread state .skip)
    (hstep : ∀ next, state.step next = State.word state kind endsWord next)
    (halpha : c.isAlpha = true) (hword : word.all isWordChar = true)
    (hend : rest.head?.all endsWord = true) :
    scanner.run (c :: word ++ rest) = (scanner.push ⟨kind, c :: word⟩).run rest := by
  have hchars : ∀ d ∈ c :: word, isWordChar d = true :=
    List.forall_mem_cons.mpr
      ⟨by simp [isWordChar, Char.isAlphanum, halpha], List.all_eq_true.mp hword⟩
  refine run_unsigned hready hkind hspelling hstate hbegin ?_ ?_
  · intro d hd
    rw [hstep]
    exact State.word_of_isWordChar (hchars d hd)
      (endsWord_eq_false_of_isWordChar (hchars d hd)) _ _
  · left
    rw [hstep]
    exact State.word_of_ends hend _ _

/-- A constant or a declaration is read as its token. -/
theorem run_signed (hready : scanner.Ready) {kind : TokenKind} {state : State} {sign : Char}
    {word rest : List Char} (hkind : kind.symbol? = none)
    (hspelling : Lexeme.spelling ⟨kind, word⟩ = sign :: word)
    (hstate : state ≠ .start) (hbegin : State.step .start (some sign) = .advance state .skip)
    (hword : ∀ c ∈ word, state.step (some c) = .advance state .keep)
    (hend : state.Ends kind rest.head?) :
    scanner.run (sign :: word ++ rest) = (scanner.push ⟨kind, word⟩).run rest := by
  let entered : Scanner := { scanner with
    state := state
    origin := scanner.position
    position := scanner.position.next sign }
  have hentered : entered.state ≠ .start := hstate
  calc
    scanner.run (sign :: word ++ rest) = entered.run (word ++ rest) :=
      run_entered_past hready.state hstate hbegin _
    _ = ({ entered with
        state := .start
        position := entered.position.after word
        tokens := entered.tokens.push ⟨kind, String.ofList word, entered.origin⟩ }).run rest :=
      run_ending hentered hready.buffer hkind hword hend
    _ = (scanner.push ⟨kind, word⟩).run rest := by
      simp only [entered, push, hspelling, hready.state, Position.after_cons]

/-- A text between delimiters is read as its token. -/
theorem run_delimited (hready : scanner.Ready) {kind : TokenKind} {state : State} {mark : Char}
    {word : List Char} (hkind : kind.symbol? = none)
    (hspelling : Lexeme.spelling ⟨kind, word⟩ = mark :: (word ++ [mark]))
    (hstate : state ≠ .start) (hbegin : State.step .start (some mark) = .advance state .skip)
    (hword : ∀ c ∈ word, state.step (some c) = .advance state .keep)
    (hend : state.step (some mark) = .advance .start (.emit kind)) (rest : List Char) :
    scanner.run (mark :: (word ++ [mark]) ++ rest) = (scanner.push ⟨kind, word⟩).run rest := by
  let entered : Scanner := { scanner with
    state := state
    origin := scanner.position
    position := scanner.position.next mark }
  have hentered : entered.state ≠ .start := hstate
  calc
    scanner.run (mark :: (word ++ [mark]) ++ rest) = scanner.run (mark :: (word ++ mark :: rest)) :=
      by simp
    _ = entered.run (word ++ mark :: rest) := run_entered_past hready.state hstate hbegin _
    _ = ({ entered with
        state := .start
        position := entered.position.after (word ++ [mark])
        tokens := entered.tokens.push ⟨kind, String.ofList word, entered.origin⟩ }).run rest :=
      run_body_past hentered hready.buffer hkind hword hend rest
    _ = (scanner.push ⟨kind, word⟩).run rest := by
      simp only [entered, push, hspelling, hready.state, Position.after_cons]

/-- A well-formed lexeme with a follower that it allows is read as its token. -/
theorem run_lexeme (hready : scanner.Ready) {lexeme : Lexeme} {rest : List Char}
    (hform : lexeme.wellFormed = true) (hallows : lexeme.allows rest.head? = true) :
    scanner.run (lexeme.spelling ++ rest) = (scanner.push lexeme).run rest := by
  obtain ⟨kind, text⟩ := lexeme
  cases kind with
  | roundOpen | squareOpen | colon | comma | dot =>
    obtain rfl : text = [_] := by simpa [Lexeme.wellFormed, TokenKind.symbol?] using hform
    exact run_opening hready rfl rfl (by decide) rfl (fun _ => rfl) rest
  | roundClose | squareClose =>
    obtain rfl : text = [_] := by simpa [Lexeme.wellFormed, TokenKind.symbol?] using hform
    exact run_closing hready rfl rfl (by decide) rfl rfl rest
  | identifier =>
    obtain _ | ⟨c, word⟩ := text
    · cases hform
    simp only [Lexeme.wellFormed, Bool.and_eq_true] at hform
    exact run_name hready rfl rfl (by decide) (State.step_start_of_isLower hform.1)
      (fun _ => rfl) (isAlpha_of_isLower hform.1) hform.2 hallows
  | keyword =>
    obtain _ | ⟨c, word⟩ := text
    · cases hform
    simp only [Lexeme.wellFormed, Bool.and_eq_true] at hform
    exact run_name hready rfl rfl (by decide) (State.step_start_of_isUpper hform.1)
      (fun _ => rfl) (isAlpha_of_isUpper hform.1) hform.2 hallows
  | integer =>
    obtain _ | ⟨c, word⟩ := text
    · cases hform
    simp only [Lexeme.wellFormed, Bool.and_eq_true, List.all_eq_true] at hform
    have hall : ∀ d ∈ c :: word, d.isDigit = true := List.forall_mem_cons.mpr hform
    exact run_unsigned hready rfl rfl (by decide) (State.step_start_of_isDigit hform.1)
      (fun d hd => by simp [State.step, State.digits, hall d hd]) (State.ends_integer hallows)
  | constant =>
    simp only [Lexeme.wellFormed, List.all_eq_true] at hform
    exact run_signed hready rfl rfl (by decide) rfl
      (fun d hd => State.word_of_isWordChar (hform d hd)
        (endsConstant_eq_false_of_isWordChar (hform d hd)) _ _)
      (.inl (State.word_of_ends hallows _ _))
  | declaration =>
    simp only [Lexeme.wellFormed, List.all_eq_true, Bool.not_eq_true'] at hform
    exact run_signed hready rfl rfl (by decide) rfl
      (fun d hd => State.topic_of_not_isGap (hform d hd)) (State.ends_declaration hallows)
  | decorator | string =>
    simp only [Lexeme.wellFormed, List.all_eq_true, bne_iff_ne] at hform
    exact run_delimited hready rfl rfl (by decide) rfl
      (fun d hd => by simp [State.step, State.delimited, hform d hd]) rfl rest

end Scanner

end PageMarkup.Scan
