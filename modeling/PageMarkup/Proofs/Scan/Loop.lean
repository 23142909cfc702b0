import PageMarkup.Proofs.Scan.Reading

/-!
# The scanner as a loop

Reading a text is a loop with an index: each turn reads the character at the index, or the end of
the text behind the last character, and the index stays where it is if the character is to be read
again. Every turn is one step of the scanner. A character is read three times at most, so the loop
ends; it ends with a fault, or with the index behind the end of the text and the scanner in its last
state.
-/

namespace PageMarkup.Scan

namespace State

/-- The states in which characters are kept for a token. -/
def keepsText : State → Bool
  | identifier | keyword | integer | string | constant | declaration | decorator => true
  | _ => false

/-- The states in which a punctuation mark is about to become a token. -/
def isPunctuation : State → Bool
  | roundOpen | roundClose | squareOpen | squareClose | colon | comma | dot => true
  | _ => false

/-- The states that are entered before their mark is used up. -/
def isClosing : State → Bool
  | roundClose | squareClose => true
  | _ => false

/-- What a step can be before the last state is reached. -/
inductive Move (state : State) (c : Option Char) : Step → Prop
  /-- Something begins. Only the end of the text leads to the last state, and a closing bracket is
  left to its state. -/
  | begins {next : State} {rereads : Bool} (hstart : state = start) (hfailed : next ≠ failed)
    (hend : c = none → rereads = false) (hfinished : next = finished ↔ c = none)
    (hclosing : next.isClosing = true → rereads = true ∧ c.isSome = true) :
    Move state c ⟨next, .skip, rereads⟩
  /-- A character is kept. -/
  | keeps {d : Char} (hchar : c = some d) (hkeeps : state.keepsText = true) :
    Move state c (.advance state .keep)
  /-- A token ends. Only a closing bracket would use up the end of the text. -/
  | ends {kind : TokenKind} {rereads : Bool} (hstart : state ≠ start)
    (hused : rereads = false → c.isSome = true ∨ state.isClosing = true) :
    Move state c ⟨start, .emit kind, rereads⟩
  /-- A character is refused. -/
  | refuses {d : Char} (hchar : c = some d) : Move state c (.advance failed .reject)
  /-- The text ends between delimiters. -/
  | breaksOff {kind : TokenKind} (hend : c = none) (hstart : state ≠ start) :
    Move state c (.advance failed (.unterminated kind))

/-- What a step from the start can be. -/
theorem move_begin (c : Option Char) : Move start c (begin c) := by
  unfold begin
  split
  case h_16 c _ _ _ _ _ _ _ _ _ _ _ _ _ _ =>
    unfold beginWord
    split
    · exact .begins rfl (by decide) (by simp) (by simp) (by simp [isClosing])
    split
    · exact .begins rfl (by decide) (by simp) (by simp) (by simp [isClosing])
    split
    · exact .begins rfl (by decide) (by simp) (by simp) (by simp [isClosing])
    · exact .refuses rfl
  all_goals exact .begins rfl (by decide) (by simp) (by simp) (by simp [isClosing])

/-- What a step inside a word can be. -/
theorem move_word {state : State} (hkeeps : state.keepsText = true) (hstart : state ≠ start)
    (kind : TokenKind) (ends : Char → Bool) (c : Option Char) :
    Move state c (word state kind ends c) := by
  unfold word
  split
  · exact .ends hstart (by simp)
  split
  · exact .ends hstart (by simp)
  split
  · exact .keeps rfl hkeeps
  · exact .refuses rfl

/-- What a step between delimiters can be. -/
theorem move_delimited {state : State} (hkeeps : state.keepsText = true) (hstart : state ≠ start)
    (kind : TokenKind) (closer : Char) (c : Option Char) :
    Move state c (delimited state kind closer c) := by
  unfold delimited
  split
  · exact .breaksOff rfl hstart
  split
  · exact .ends hstart (by simp)
  · exact .keeps rfl hkeeps

/-- What a step can be, before the last state is reached. -/
theorem move_step {state : State} (hfailed : state ≠ failed) (hfinished : state ≠ finished)
    (c : Option Char) : Move state c (state.step c) := by
  cases state with
  | start => exact move_begin c
  | roundOpen | squareOpen | colon | comma | dot => exact .ends (by decide) (by simp)
  | roundClose | squareClose => exact .ends (by decide) (by simp [isClosing])
  | identifier | keyword | constant => exact move_word rfl (by decide) _ _ c
  | string | decorator => exact move_delimited rfl (by decide) _ _ c
  | integer =>
    rw [step]
    unfold digits
    split
    · exact .ends (by decide) (by simp)
    split
    · exact .keeps rfl rfl
    split
    · exact .ends (by decide) (by simp)
    · exact .ends (by decide) (by simp)
  | declaration =>
    rw [step]
    unfold topic
    split
    · exact .ends (by decide) (by simp)
    split
    · exact .ends (by decide) (by simp)
    split
    · exact .ends (by decide) (by simp)
    · exact .keeps rfl rfl
  | finished => exact absurd rfl hfinished
  | failed => exact absurd rfl hfailed

end State

/-- No characters are kept where a closing bracket is to be read. -/
theorem State.isClosing_eq_false {state : State} (h : state.keepsText = true) :
    state.isClosing = false := by
  cases state <;> first | rfl | cases h

/-- No characters are kept for punctuation. -/
theorem State.keepsText_eq_false {state : State} (h : state.isPunctuation = true) :
    state.keepsText = false := by
  cases state <;> first | rfl | cases h

namespace Scanner

/-- Using a character up does not change the state. -/
theorem state_advance (scanner : Scanner) (c : Option Char) :
    (scanner.advance c).state = scanner.state := by
  cases c <;> rfl

/-- Using a character up does not change what is kept. -/
theorem buffer_advance (scanner : Scanner) (c : Option Char) :
    (scanner.advance c).buffer = scanner.buffer := by
  cases c <;> rfl

/-- Remembering where a token begins does not change what is kept. -/
theorem buffer_mark (scanner : Scanner) (next : State) :
    (scanner.mark next).buffer = scanner.buffer := by
  rw [mark]
  split <;> rfl

/-- What a step does to the state and to the characters that are kept. -/
inductive Performed (scanner : Scanner) (c : Option Char) (next : Scanner) : Prop
  /-- Something begins, and the characters that are kept stay. -/
  | begins (hstart : scanner.state = .start) (hbuffer : next.buffer = scanner.buffer)
    (hfailed : next.state ≠ .failed) (hend : c = none → (scanner.state.step c).rereads = false)
    (hfinished : next.state = .finished ↔ c = none)
    (hclosing : next.state.isClosing = true →
      (scanner.state.step c).rereads = true ∧ c.isSome = true)
  /-- A character is kept. -/
  | keeps (hstate : next.state = scanner.state) (hkeeps : scanner.state.keepsText = true)
    (hchar : c.isSome = true) (hreads : (scanner.state.step c).rereads = false)
  /-- A token ends, and no characters are kept. -/
  | ends (hstate : next.state = .start) (hbuffer : next.buffer = "")
    (hused : (scanner.state.step c).rereads = false →
      c.isSome = true ∨ scanner.state.isClosing = true)

variable {scanner : Scanner}

/-- Every step that is carried out does one of these things. A step that is not carried out has
found a fault, which is never that the text ends: only a failed state would refuse the end as such.
-/
theorem perform_cases (hfailed : scanner.state ≠ .failed) (hfinished : scanner.state ≠ .finished)
    (c : Option Char) :
    (∃ next, scanner.perform c = .ok next ∧ Performed scanner c next) ∨
      ∃ stop, scanner.perform c = .error stop ∧ stop.fault.value ≠ .unexpectedEnd := by
  have hmove := State.move_step hfailed hfinished c
  generalize hstep : scanner.state.step c = step at hmove
  cases hmove with
  | begins hstart hnext hend hlast hclosing =>
    exact .inl ⟨_, perform_skip hstep,
      .begins hstart (buffer_mark scanner _) hnext (by rwa [hstep]) hlast (by rwa [hstep])⟩
  | keeps hchar hkeeps =>
    have hinside : scanner.state ≠ .start := by
      intro hstart
      rw [hstart] at hkeeps
      cases hkeeps
    exact .inl ⟨_, perform_keep hinside hstep,
      .keeps rfl hkeeps (by rw [hchar]; rfl) (by rw [hstep]; rfl)⟩
  | ends hstart hused => exact .inl ⟨_, perform_emit hstart hstep, .ends rfl rfl (by rwa [hstep])⟩
  | refuses hchar =>
    refine .inr ⟨_, perform_reject hstep, ?_⟩
    rw [hchar]
    exact Fault.noConfusion
  | breaksOff hend hstart =>
    exact .inr ⟨_, perform_unterminated hstart hstep, Fault.noConfusion⟩

end Scanner

/-- The scanner with the index of the character that it reads next. -/
structure Loop where
  /-- The scanner. -/
  scanner : Scanner := {}
  /-- The index. -/
  index : Nat := 0

namespace Loop

/-- Whether the character at the index is read again after this turn. -/
def rereads (text : List Char) (loop : Loop) : Bool :=
  (loop.scanner.state.step text[loop.index]?).rereads

/-- One turn: a step for the character at the index, or for the end of the text if there is none,
and the next index unless the character is to be read again. -/
def turn (text : List Char) (loop : Loop) : Except Stop Loop :=
  (loop.scanner.perform text[loop.index]?).map fun next =>
    if loop.rereads text then ⟨next, loop.index⟩
    else ⟨next.advance text[loop.index]?, loop.index + 1⟩

/-- The turns of the loop up to some place: those that were made, each by the state of the loop that
it began in, and the state that the loop is in then. -/
inductive Turns (text : List Char) : List Loop → Loop → Prop
  | start : Turns text [] {}
  | more {made : List Loop} {loop next : Loop} (h : Turns text made loop)
    (hindex : loop.index ≤ text.length) (hturn : loop.turn text = .ok next) :
    Turns text (made ++ [loop]) next

variable {text : List Char} {loop next : Loop}

/-- A turn is a step of the scanner, and the index grows by one unless the character is to be read
again. -/
theorem exists_of_turn (h : loop.turn text = .ok next) :
    ∃ performed, loop.scanner.perform text[loop.index]? = .ok performed ∧
      ((loop.rereads text = true ∧ next = ⟨performed, loop.index⟩) ∨
        (loop.rereads text = false ∧
          next = ⟨performed.advance text[loop.index]?, loop.index + 1⟩)) := by
  rw [turn] at h
  cases hperform : loop.scanner.perform text[loop.index]? with
  | error stop =>
    rw [hperform] at h
    cases h
  | ok performed =>
    rw [hperform] at h
    cases h
    cases hreads : loop.rereads text with
    | true => exact ⟨performed, rfl, .inl ⟨rfl, rfl⟩⟩
    | false => exact ⟨performed, rfl, .inr ⟨rfl, rfl⟩⟩

/-- A turn ends with a fault exactly if its step does. -/
theorem turn_eq_error_iff {stop : Stop} :
    loop.turn text = .error stop ↔ loop.scanner.perform text[loop.index]? = .error stop := by
  rw [turn]
  cases loop.scanner.perform text[loop.index]? <;> simp [Except.map]

/-- What holds of the loop whenever a turn begins, and when it ends without a fault. -/
structure Sound (text : List Char) (loop : Loop) : Prop where
  /-- The index goes no further than behind the end of the text. -/
  index_le : loop.index ≤ text.length + 1
  /-- Characters are kept only for a token that is made of them. -/
  buffer : loop.scanner.state.keepsText = false → loop.scanner.buffer = ""
  /-- The loop does not go on behind a fault. -/
  failed : loop.scanner.state ≠ .failed
  /-- A closing bracket that is to be read stands at the index. -/
  closing : loop.scanner.state.isClosing = true → loop.index < text.length
  /-- The last state is that behind the end of the text. -/
  finished : loop.scanner.state = .finished ↔ loop.index = text.length + 1

/-- The loop begins soundly. -/
theorem sound_start (text : List Char) : Sound text {} where
  index_le := Nat.zero_le _
  buffer _ := rfl
  failed := by decide
  closing := by simp [State.isClosing]
  finished := by simp

/-- Before the end of the text has been read, the last state is not reached. -/
theorem Sound.ne_finished (h : Sound text loop) (hindex : loop.index ≤ text.length) :
    loop.scanner.state ≠ .finished := by
  intro hstate
  have hlast := h.finished.mp hstate
  omega

/-- What a turn does to the parts of the loop that are kept track of: the state and the kept
characters are those after the step, as using a character up only moves the scanner. -/
theorem parts_of_turn (h : loop.turn text = .ok next) :
    ∃ performed, loop.scanner.perform text[loop.index]? = .ok performed ∧
      next.scanner.state = performed.state ∧ next.scanner.buffer = performed.buffer ∧
      next.index = if loop.rereads text then loop.index else loop.index + 1 := by
  obtain ⟨performed, hperform, ⟨hreads, rfl⟩ | ⟨hreads, rfl⟩⟩ := exists_of_turn h
  · exact ⟨performed, hperform, rfl, rfl, by rw [hreads]; rfl⟩
  · exact ⟨performed, hperform, Scanner.state_advance _ _, Scanner.buffer_advance _ _,
      by rw [hreads]; rfl⟩

/-- A turn keeps the loop sound. -/
theorem Sound.turn (h : Sound text loop) (hindex : loop.index ≤ text.length)
    (hturn : loop.turn text = .ok next) : Sound text next := by
  obtain ⟨performed, hperform, hstate, hbuffer, hmoved⟩ := parts_of_turn hturn
  have hperformed : loop.scanner.Performed text[loop.index]? performed := by
    rcases Scanner.perform_cases h.failed (h.ne_finished hindex) text[loop.index]? with
      ⟨other, hother, hperformed⟩ | ⟨stop, hstop, -⟩
    · rw [hperform] at hother
      cases hother
      exact hperformed
    · rw [hperform] at hstop
      cases hstop
  have hnone : text[loop.index]? = none ↔ text.length ≤ loop.index := by simp
  have hsome : text[loop.index]?.isSome = true ↔ loop.index < text.length := by simp
  have hle : next.index ≤ text.length + 1 := by
    rw [hmoved]
    split <;> omega
  rw [rereads] at hmoved
  cases hperformed with
  | begins hstart hkept hfailed hend hfinished hclosing =>
    rw [← hstate] at hfailed hfinished hclosing
    rw [hnone] at hend hfinished
    rw [hsome] at hclosing
    refine ⟨hle, ?_, hfailed, ?_, hfinished.trans ?_⟩
    · intro _
      rw [hbuffer, hkept]
      exact h.buffer (by rw [hstart]; rfl)
    · intro hstays
      obtain ⟨hreads, hread⟩ := hclosing hstays
      rwa [hmoved, if_pos hreads]
    · split at hmoved
      · next hreads =>
        have hread : ¬text.length ≤ loop.index := fun hlast => by simp [hend hlast] at hreads
        omega
      · omega
  | keeps hstays hkeeps hchar hreads =>
    rw [hsome] at hchar
    rw [hreads] at hmoved
    rw [← hstate] at hstays
    refine ⟨hle, ?_, ?_, ?_, ?_⟩
    · intro hfree
      rw [hstays, hkeeps] at hfree
      cases hfree
    · rw [hstays]
      exact h.failed
    · rw [hstays, State.isClosing_eq_false hkeeps]
      exact nofun
    · rw [hstays]
      exact iff_of_false (h.ne_finished hindex) (by simp at hmoved; omega)
  | ends hended hfree hused =>
    rw [← hstate] at hended
    refine ⟨hle, fun _ => hbuffer.trans hfree, ?_, ?_, ?_⟩
    · rw [hended]
      decide
    · rw [hended]
      exact nofun
    · rw [hended]
      refine iff_of_false (by decide) ?_
      split at hmoved
      · omega
      · next hreads =>
        -- A token that uses the character up has one to use up.
        have hread : loop.index < text.length :=
          (hused (Bool.eq_false_iff.mpr hreads)).elim hsome.mp h.closing
        omega

/-- A turn of a sound loop does not find that the text ends where it cannot. -/
theorem Sound.ne_unexpectedEnd {stop : Stop} (h : Sound text loop)
    (hindex : loop.index ≤ text.length) (hturn : loop.turn text = .error stop) :
    stop.fault.value ≠ .unexpectedEnd := by
  have hperform := turn_eq_error_iff.mp hturn
  rcases Scanner.perform_cases h.failed (h.ne_finished hindex) text[loop.index]? with
    ⟨next, hnext, -⟩ | ⟨other, hother, hfault⟩
  · rw [hperform] at hnext
    cases hnext
  · rw [hperform] at hother
    cases hother
    exact hfault

/-- Whatever turns were made, the loop is sound. -/
theorem Turns.sound {made : List Loop} (h : Turns text made loop) : Sound text loop := by
  induction h with
  | start => exact sound_start text
  | more h hindex hturn ih => exact ih.turn hindex hturn

/-- How often the character at an index was read. -/
def readsAt (made : List Loop) (index : Nat) : Nat := made.countP (·.index == index)

/-- How often the character at an index was left to be read again. -/
def rereadsAt (text : List Char) (made : List Loop) (index : Nat) : Nat :=
  made.countP fun past => past.index == index && past.rereads text

/-- One more turn reads the character at its index once more. -/
theorem readsAt_concat (made : List Loop) (loop : Loop) (index : Nat) :
    readsAt (made ++ [loop]) index = readsAt made index + if loop.index = index then 1 else 0 := by
  simp [readsAt, List.countP_append, List.countP_singleton]

/-- One more turn leaves the character at its index to be read again, or it uses it up. -/
theorem rereadsAt_concat (text : List Char) (made : List Loop) (loop : Loop) (index : Nat) :
    rereadsAt text (made ++ [loop]) index =
      rereadsAt text made index +
        if loop.index = index ∧ loop.rereads text = true then 1 else 0 := by
  simp [rereadsAt, List.countP_append, List.countP_singleton]

/-- A character that is left to be read again has been read. -/
theorem rereadsAt_le_readsAt (text : List Char) (made : List Loop) (index : Nat) :
    rereadsAt text made index ≤ readsAt made index :=
  List.countP_mono_left fun _ _ h => (Bool.and_eq_true_iff.mp h).1

/-- A character is read again twice at most. -/
theorem pendingReads_le (state : State) (c : Option Char) : state.pendingReads c ≤ 2 := by
  rw [State.pendingReads]
  split
  · split <;> decide
  · decide

/-- What holds of the turns that were made when the loop is in a given state. -/
structure Counted (text : List Char) (made : List Loop) (loop : Loop) : Prop where
  /-- No later character has been read. -/
  later : ∀ index, loop.index < index → readsAt made index = 0
  /-- The character at the index is read twice at most before the turn that uses it up. -/
  pending : readsAt made loop.index + loop.scanner.state.pendingReads text[loop.index]? ≤ 2
  /-- No character has been read more than three times. -/
  reads : ∀ index, readsAt made index ≤ 3
  /-- No character has been left to be read again more than twice. -/
  rereads : ∀ index, rereadsAt text made index ≤ 2
  /-- There are three turns at most for each character before the index. -/
  length_le : made.length ≤ 3 * loop.index + readsAt made loop.index

/-- No turns have been made at the start. -/
theorem counted_start (text : List Char) : Counted text [] {} where
  later _ _ := rfl
  pending := by simpa [readsAt] using pendingReads_le _ _
  reads _ := Nat.zero_le 3
  rereads _ := Nat.zero_le 2
  length_le := Nat.zero_le _

namespace Counted

variable {made : List Loop} {performed : Scanner}

/-- With the turn that is made next no character is read more than three times. -/
theorem reads_current (h : Counted text made loop) (index : Nat) :
    readsAt (made ++ [loop]) index ≤ 3 := by
  have hbefore := h.reads index
  have hpending := h.pending
  rw [readsAt_concat]
  split
  · next hsame =>
    subst hsame
    omega
  · exact hbefore

/-- With the turn that is made next no character is left to be read again more than twice. -/
theorem rereads_current (h : Counted text made loop) (index : Nat) :
    rereadsAt text (made ++ [loop]) index ≤ 2 := by
  have hbefore := h.rereads index
  have hle := rereadsAt_le_readsAt text made index
  have hpending := h.pending
  rw [rereadsAt_concat]
  split
  · next hsame =>
    obtain ⟨rfl, hreads⟩ := hsame
    have hleft := State.pendingReads_next_lt hreads
    omega
  · exact hbefore

/-- A turn that leaves the character to be read again is counted for it. -/
theorem reread (h : Counted text made loop) (hreads : loop.rereads text = true)
    (hperform : loop.scanner.perform text[loop.index]? = .ok performed) :
    Counted text (made ++ [loop]) ⟨performed, loop.index⟩ := by
  have hlt := State.pendingReads_next_lt hreads
  rw [← Scanner.state_of_perform hperform] at hlt
  have hpending := h.pending
  refine ⟨?_, ?_, ?_, ?_, ?_⟩
  · intro index hindex
    have hlater := h.later index hindex
    rw [readsAt_concat, hlater, if_neg (Nat.ne_of_lt hindex)]
  · rw [readsAt_concat, if_pos rfl]
    simp only
    omega
  · exact h.reads_current
  · exact h.rereads_current
  · have hlength := h.length_le
    rw [readsAt_concat, if_pos rfl, List.length_append, List.length_singleton]
    simp only
    omega

/-- A turn that uses the character up is the last one for it. -/
theorem pass (h : Counted text made loop) :
    Counted text (made ++ [loop]) ⟨performed, loop.index + 1⟩ := by
  have hpending := h.pending
  have hnew : readsAt (made ++ [loop]) (loop.index + 1) = 0 := by
    rw [readsAt_concat, h.later _ (Nat.lt_succ_self _), if_neg (by omega)]
  refine ⟨?_, ?_, ?_, ?_, ?_⟩
  · intro index hindex
    have hlater := h.later index (by simp only at hindex; omega)
    rw [readsAt_concat, hlater, if_neg (by simp only at hindex; omega)]
  · rw [hnew, Nat.zero_add]
    exact pendingReads_le _ _
  · exact h.reads_current
  · exact h.rereads_current
  · have hlength := h.length_le
    rw [hnew, List.length_append, List.length_singleton]
    simp only
    omega

end Counted

/-- Whatever turns were made, they are counted. -/
theorem Turns.counted {made : List Loop} (h : Turns text made loop) : Counted text made loop := by
  induction h with
  | start => exact counted_start text
  | more h hindex hturn ih =>
    obtain ⟨performed, hperform, ⟨hreads, rfl⟩ | ⟨hreads, rfl⟩⟩ := exists_of_turn hturn
    · exact ih.reread hreads hperform
    · exact ih.pass

/-- Turns are made for the characters of the text and for its end. -/
theorem Turns.index_le {made : List Loop} (h : Turns text made loop) :
    ∀ past ∈ made, past.index ≤ text.length := by
  induction h with
  | start => exact nofun
  | more h hindex hturn ih =>
    intro past hpast
    rcases List.mem_append.mp hpast with hpast | hpast
    · exact ih past hpast
    · rwa [List.mem_singleton.mp hpast]

/-- There are three turns at most for each character and for the end of the text. -/
theorem Turns.length_le {made : List Loop} (h : Turns text made loop) :
    made.length ≤ 3 * (text.length + 1) := by
  have hlength := h.counted.length_le
  have hpending := h.counted.pending
  by_cases hindex : loop.index ≤ text.length
  · omega
  · have hlast := h.sound.index_le
    have hnone : readsAt made loop.index = 0 := by
      rw [readsAt, List.countP_eq_zero]
      intro past hpast
      have hpast := h.index_le past hpast
      simp only [beq_iff_eq]
      omega
    omega

/-- The loop has ended: there is nothing left to read, or the turn ends with a fault. -/
def Ended (text : List Char) (loop : Loop) : Prop :=
  text.length < loop.index ∨ loop.index ≤ text.length ∧ ∃ stop, loop.turn text = .error stop

/-- Whatever turns were made, the loop comes to an end. -/
theorem Turns.exists_ended {made : List Loop} (h : Turns text made loop) :
    ∃ all last, Turns text all last ∧ Ended text last := by
  -- The turns that are left are bounded by those that were made.
  induction hleft : 3 * (text.length + 1) - made.length using Nat.strongRecOn
      generalizing made loop with
  | ind left ih =>
    by_cases hindex : loop.index ≤ text.length
    · cases hturn : loop.turn text with
      | error stop => exact ⟨made, loop, h, .inr ⟨hindex, stop, hturn⟩⟩
      | ok next =>
        have hmore := h.more hindex hturn
        have hlength := hmore.length_le
        rw [List.length_append, List.length_singleton] at hlength
        refine ih _ ?_ hmore rfl
        rw [List.length_append, List.length_singleton]
        omega
    · exact ⟨made, loop, h, .inl (by omega)⟩

/-- Whatever turns were made, what is left to read leads to the result of the whole text. -/
theorem Turns.run_eq {made : List Loop} (h : Turns text made loop) :
    (loop.index ≤ text.length →
      loop.scanner.run (text.drop loop.index) = Scanner.run {} text) ∧
    (text.length < loop.index → Scanner.run {} text = .ok loop.scanner) := by
  induction h with
  | start => exact ⟨fun _ => rfl, fun hindex => absurd hindex (Nat.not_lt_zero _)⟩
  | @more made loop next h hindex hturn ih =>
    obtain ⟨performed, hperform, ⟨hreads, rfl⟩ | ⟨hreads, rfl⟩⟩ := exists_of_turn hturn
    · refine ⟨fun _ => ?_, fun hlast => absurd hlast (Nat.not_lt.mpr hindex)⟩
      rw [← ih.1 hindex]
      rw [rereads, ← List.head?_drop] at hreads
      rw [← List.head?_drop] at hperform
      exact (Scanner.run_of_rereads hreads hperform).symm
    · rw [rereads] at hreads
      rcases Nat.lt_or_eq_of_le hindex with hlt | heq
      · refine ⟨fun _ => ?_, fun hlast => absurd hlast (by simp only; omega)⟩
        rw [List.getElem?_eq_getElem hlt] at hreads hperform ⊢
        rw [← ih.1 hindex, List.drop_eq_getElem_cons hlt]
        exact (Scanner.run_of_advances hreads hperform).symm
      · refine ⟨fun hnext => absurd hnext (by simp only; omega), fun _ => ?_⟩
        have hend : text[loop.index]? = none := List.getElem?_eq_none (by omega)
        rw [hend] at hreads hperform ⊢
        rw [← ih.1 hindex, heq, List.drop_length]
        exact Scanner.read_of_advances hreads hperform

end Loop

/-- The wording that the text ends where it cannot belongs to this fault only. -/
theorem Fault.message_ne_unexpectedEnd {fault : Fault} (h : fault ≠ .unexpectedEnd) :
    fault.message ≠ "Unexpected end of input" := by
  cases fault with
  | unexpected c =>
    intro hmessage
    have hmessage : "Unexpected character '" ++ Text.shownChar c ++ "'" =
        "Unexpected end of input" := hmessage
    -- The two messages differ behind their first word.
    have hsecond := congrArg (fun message : String => message.toList[11]?) hmessage
    rw [String.append_assoc, String.toList_append,
      List.getElem?_append_left (by decide)] at hsecond
    exact absurd hsecond (by decide)
  | unexpectedEnd => exact absurd rfl h
  | unterminated kind => cases kind <;> decide

/-- The scanner as a loop comes to an end that gives the result of the whole text: it has read the
end of the text, or its last turn ends with the fault. -/
theorem exists_end_of_scan (text : List Char) :
    ∃ made loop, Loop.Turns text made loop ∧
      ((text.length < loop.index ∧
        scan text = .ok ⟨loop.scanner.tokens.toList,
          if text = [] then 0 else loop.scanner.position.line⟩) ∨
      (loop.index ≤ text.length ∧
        ∃ stop, loop.turn text = .error stop ∧ scan text = .error stop)) := by
  have hstart : Loop.Turns text [] {} := .start
  obtain ⟨made, loop, hturns, hend⟩ := hstart.exists_ended
  refine ⟨made, loop, hturns, ?_⟩
  rcases hend with hlast | ⟨hindex, stop, hturn⟩
  · left
    rw [scan, hturns.run_eq.2 hlast]
    exact ⟨hlast, rfl⟩
  · have hperform := Loop.turn_eq_error_iff.mp hturn
    rw [← List.head?_drop] at hperform
    right
    rw [scan, ← hturns.run_eq.1 hindex, Scanner.run_of_error hperform]
    exact ⟨hindex, stop, hturn, rfl⟩

/-- Reading any text as a loop, no character and no end of the text is read more than three times,
nor left to be read again more than twice, so the loop ends. Wherever it is, no characters are kept
at the start, at the end and for punctuation, and it has not failed before; when it has read
everything, it is in its last state. Its end is the result of reading the text, and this is never
that the text ends where it cannot. -/
theorem scanning_ends_cleanly (text : List Char) :
    (∀ made loop, Loop.Turns text made loop →
      (∀ index, Loop.readsAt (made ++ [loop]) index ≤ 3) ∧
      (∀ index, Loop.rereadsAt text (made ++ [loop]) index ≤ 2) ∧
      made.length ≤ 3 * (text.length + 1) ∧
      (loop.scanner.state = .start ∨ loop.scanner.state = .finished ∨
        loop.scanner.state.isPunctuation = true → loop.scanner.buffer = "") ∧
      loop.scanner.state ≠ .failed ∧
      (text.length < loop.index → loop.scanner.state = .finished)) ∧
    (∃ made loop, Loop.Turns text made loop ∧
      ((text.length < loop.index ∧
        scan text = .ok ⟨loop.scanner.tokens.toList,
          if text = [] then 0 else loop.scanner.position.line⟩) ∨
      (loop.index ≤ text.length ∧
        ∃ stop, loop.turn text = .error stop ∧ scan text = .error stop))) ∧
    ∀ stop, scan text = .error stop →
      stop.fault.value.message ≠ "Unexpected end of input" := by
  refine ⟨?_, exists_end_of_scan text, ?_⟩
  · intro made loop hturns
    have hsound := hturns.sound
    refine ⟨hturns.counted.reads_current, hturns.counted.rereads_current, hturns.length_le, ?_,
      hsound.failed, ?_⟩
    · intro hstate
      apply hsound.buffer
      rcases hstate with hstate | hstate | hstate
      · rw [hstate]
        rfl
      · rw [hstate]
        rfl
      · exact State.keepsText_eq_false hstate
    · intro hlast
      have hle := hsound.index_le
      exact hsound.finished.mpr (by omega)
  · intro stop hscan
    obtain ⟨made, loop, hturns, ⟨-, hok⟩ | ⟨hindex, other, hturn, herror⟩⟩ :=
      exists_end_of_scan text
    · rw [hscan] at hok
      cases hok
    · rw [hscan] at herror
      cases herror
      exact Fault.message_ne_unexpectedEnd (hturns.sound.ne_unexpectedEnd hindex hturn)

/-- A closing bracket behind a word is read three times: to end the word, to begin the bracket, and
to use it up. -/
theorem scanning_bracket_behind_word :
    ∃ made loop, Loop.Turns ['a', ')'] made loop ∧ Loop.readsAt made 1 = 3 ∧
      Loop.rereadsAt ['a', ')'] made 1 = 2 ∧ made.length ≤ 9 ∧ 2 < loop.index ∧
      loop.scanner.state = .finished ∧ loop.scanner.buffer = "" := by
  let word : Token := ⟨.identifier, "a", ⟨1, 1⟩⟩
  let bracket : Token := ⟨.roundClose, ")", ⟨1, 2⟩⟩
  have hentered : Loop.Turns ['a', ')'] _ ⟨{ state := .identifier }, 0⟩ :=
    .more .start (by decide) rfl
  have hkept : Loop.Turns ['a', ')'] _
      ⟨{ state := .identifier, buffer := "a", position := ⟨1, 2⟩ }, 1⟩ :=
    hentered.more (by decide) rfl
  have hended : Loop.Turns ['a', ')'] _ ⟨{ position := ⟨1, 2⟩, tokens := #[word] }, 1⟩ :=
    hkept.more (by decide) rfl
  have hbegun : Loop.Turns ['a', ')'] _
      ⟨{ state := .roundClose, origin := ⟨1, 2⟩, position := ⟨1, 2⟩, tokens := #[word] }, 1⟩ :=
    hended.more (by decide) rfl
  have hclosed : Loop.Turns ['a', ')'] _
      ⟨{ origin := ⟨1, 2⟩, position := ⟨1, 3⟩, tokens := #[word, bracket] }, 2⟩ :=
    hbegun.more (by decide) rfl
  have hlast : Loop.Turns ['a', ')'] _
      ⟨{ state := .finished, origin := ⟨1, 3⟩, position := ⟨1, 3⟩,
          tokens := #[word, bracket] }, 3⟩ :=
    hclosed.more (by decide) rfl
  obtain ⟨-, -, hlength, hbuffer, -, hfinished⟩ := (scanning_ends_cleanly ['a', ')']).1 _ _ hlast
  have hstate := hfinished (by decide)
  exact ⟨_, _, hlast, rfl, rfl, hlength, by decide, hstate, hbuffer (.inr (.inl hstate))⟩

end PageMarkup.Scan
