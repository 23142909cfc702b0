import PageMarkup.Scan.Scanner

/-!
# How the scanner reads a text

The scanner reads the first character of a text, or its end, by steps. A step that leaves the
character to be read again changes the scanner and not the text; a step that uses it up goes on
with the rest; a fault ends the reading. From these three follow what a whole token does: the
characters it keeps, and the token it ends with.
-/

namespace PageMarkup.Scan.Scanner

variable {scanner : Scanner}

/-- Reading the empty text is reading its end. -/
theorem run_nil (scanner : Scanner) : scanner.run [] = scanner.read none := rfl

/-- Reading a text is reading its first character and then the rest. -/
theorem run_cons (scanner : Scanner) (c : Char) (text : List Char) :
    scanner.run (c :: text) = scanner.read (some c) >>= fun next => next.run text := by
  rw [run, readAll_cons, bind_assoc]
  rfl

/-- A step that leaves the character to be read again only changes the scanner. -/
theorem read_of_rereads {next : Scanner} {c : Option Char}
    (hreads : (scanner.state.step c).rereads = true) (hperform : scanner.perform c = .ok next) :
    scanner.read c = next.read c := by
  rw [read, dif_pos hreads]
  split
  · next stop herror => simp [hperform] at herror
  · next other hother =>
    rw [hperform] at hother
    cases hother
    rfl

/-- A step that uses the character up ends its reading. -/
theorem read_of_advances {next : Scanner} {c : Option Char}
    (hreads : (scanner.state.step c).rereads = false) (hperform : scanner.perform c = .ok next) :
    scanner.read c = .ok (next.advance c) := by
  rw [read, dif_neg (by simp [hreads]), hperform]
  rfl

/-- A fault ends the reading. -/
theorem read_of_error {stop : Stop} {c : Option Char} (hperform : scanner.perform c = .error stop) :
    scanner.read c = .error stop := by
  rw [read]
  split
  · split
    · next other hother =>
      rw [hperform] at hother
      cases hother
      rfl
    · next next hnext => simp [hperform] at hnext
  · rw [hperform]
    rfl

/-- A step that leaves the first character to be read again only changes the scanner. -/
theorem run_of_rereads {next : Scanner} {text : List Char}
    (hreads : (scanner.state.step text.head?).rereads = true)
    (hperform : scanner.perform text.head? = .ok next) : scanner.run text = next.run text := by
  cases text with
  | nil => exact read_of_rereads hreads hperform
  | cons c rest =>
    have hread : scanner.read (some c) = next.read (some c) := read_of_rereads hreads hperform
    rw [run_cons, run_cons, hread]

/-- A step that uses the first character up goes on with the rest. -/
theorem run_of_advances {next : Scanner} {c : Char} {text : List Char}
    (hreads : (scanner.state.step (some c)).rereads = false)
    (hperform : scanner.perform (some c) = .ok next) :
    scanner.run (c :: text) = (next.advance (some c)).run text := by
  rw [run_cons, read_of_advances hreads hperform]
  rfl

/-- A fault at the first character is the fault of the text. -/
theorem run_of_error {stop : Stop} {text : List Char}
    (hperform : scanner.perform text.head? = .error stop) : scanner.run text = .error stop := by
  cases text with
  | nil => exact read_of_error hperform
  | cons c rest =>
    have hread : scanner.read (some c) = .error stop := read_of_error hperform
    rw [run_cons, hread]
    rfl

/-- The scanner after a character that only changes the state. -/
theorem perform_skip {c : Option Char} {next : State} {rereads : Bool}
    (hstep : scanner.state.step c = ⟨next, .skip, rereads⟩) :
    scanner.perform c = .ok { scanner.mark next with state := next } := by
  simp [perform, hstep]

/-- Inside a token the scanner remembers where the token began. -/
theorem mark_of_ne_start (hstate : scanner.state ≠ .start) (next : State) :
    scanner.mark next = scanner := by
  simp [mark, hstate]

/-- The scanner after a character that belongs to the token being read. -/
theorem perform_keep {c : Option Char} {next : State} {rereads : Bool}
    (hstate : scanner.state ≠ .start) (hstep : scanner.state.step c = ⟨next, .keep, rereads⟩) :
    scanner.perform c = .ok { scanner.keep c with state := next } := by
  simp [perform, hstep, mark_of_ne_start hstate]

/-- The scanner after a character that ends the token being read. -/
theorem perform_emit {c : Option Char} {next : State} {kind : TokenKind} {rereads : Bool}
    (hstate : scanner.state ≠ .start)
    (hstep : scanner.state.step c = ⟨next, .emit kind, rereads⟩) :
    scanner.perform c = .ok { scanner.emit kind with state := next } := by
  simp [perform, hstep, mark_of_ne_start hstate]

/-- Remembering where a token begins does not move the scanner. -/
@[simp]
theorem position_mark (scanner : Scanner) (next : State) :
    (scanner.mark next).position = scanner.position := by
  rw [mark]
  split <;> rfl

/-- Remembering where a token begins does not change the tokens found so far. -/
@[simp]
theorem tokens_mark (scanner : Scanner) (next : State) :
    (scanner.mark next).tokens = scanner.tokens := by
  rw [mark]
  split <;> rfl

/-- A character that cannot stand where it stands is refused there. -/
theorem perform_reject {c : Option Char} {next : State} {rereads : Bool}
    (hstep : scanner.state.step c = ⟨next, .reject, rereads⟩) :
    scanner.perform c = .error ⟨⟨.refused c, scanner.position⟩, scanner.tokens⟩ := by
  simp [perform, hstep]

/-- The end of the text inside a delimited token is reported where the token began. -/
theorem perform_unterminated {c : Option Char} {next : State} {kind : TokenKind} {rereads : Bool}
    (hstate : scanner.state ≠ .start)
    (hstep : scanner.state.step c = ⟨next, .unterminated kind, rereads⟩) :
    scanner.perform c = .error ⟨⟨.unterminated kind, scanner.origin⟩, scanner.tokens⟩ := by
  simp [perform, hstep, mark_of_ne_start hstate]

/-- Characters that belong to the token being read are kept in order. -/
theorem run_kept (hstate : scanner.state ≠ .start) {word : List Char}
    (hword : ∀ c ∈ word, scanner.state.step (some c) = .advance scanner.state .keep)
    (rest : List Char) :
    scanner.run (word ++ rest) =
      ({ scanner with
        buffer := scanner.buffer ++ String.ofList word
        position := scanner.position.after word }).run rest := by
  induction word generalizing scanner with
  | nil => simp
  | cons c word ih =>
    have hstep := hword c List.mem_cons_self
    rw [List.cons_append, run_of_advances (by rw [hstep]; rfl) (perform_keep hstate hstep)]
    let kept : Scanner := { scanner with
      buffer := scanner.buffer.push c
      position := scanner.position.next c }
    have hkept : ∀ d ∈ word, kept.state.step (some d) = .advance kept.state .keep :=
      fun d hd => hword d (List.mem_cons_of_mem c hd)
    have hbuffer : scanner.buffer.push c ++ String.ofList word =
        scanner.buffer ++ String.ofList (c :: word) := by
      apply String.toList_inj.mp
      simp
    calc
      kept.run (word ++ rest) = _ := ih hstate hkept
      _ = _ := by simp only [kept, hbuffer, Position.after_cons]

/-- Where no token is being read, a blank is passed over. -/
theorem run_gap (hstate : scanner.state = .start) {c : Char} (hgap : isGap c = true)
    (text : List Char) :
    scanner.run (c :: text) = ({ scanner with position := scanner.position.next c }).run text := by
  have hstep : scanner.state.step (some c) = .advance .start .skip := by
    simp only [isGap, Bool.or_eq_true, beq_iff_eq, or_assoc] at hgap
    rcases hgap with rfl | rfl | rfl <;> rw [hstate] <;> rfl
  rw [run_of_advances (by rw [hstep]; rfl) (perform_skip hstep)]
  simp [mark, advance, ← hstate]

/-- A word, a number or a closing bracket is entered before its first character is read. -/
theorem run_entered (hstate : scanner.state = .start) {state : State} (hnext : state ≠ .start)
    {text : List Char} (hstep : State.step .start text.head? = .reread state .skip) :
    scanner.run text =
      ({ scanner with state := state, origin := scanner.position }).run text := by
  have hstep' : scanner.state.step text.head? = .reread state .skip := by rw [hstate, hstep]
  rw [run_of_rereads (by rw [hstep']; rfl) (perform_skip hstep')]
  simp [mark, hstate, hnext]

/-- A sign or an opening delimiter is used up when the token that it marks is entered. -/
theorem run_entered_past (hstate : scanner.state = .start) {state : State}
    (hnext : state ≠ .start) {c : Char}
    (hstep : State.step .start (some c) = .advance state .skip) (text : List Char) :
    scanner.run (c :: text) =
      ({ scanner with
        state := state
        origin := scanner.position
        position := scanner.position.next c }).run text := by
  have hstep' : scanner.state.step (some c) = .advance state .skip := by rw [hstate, hstep]
  rw [run_of_advances (by rw [hstep']; rfl) (perform_skip hstep')]
  simp [mark, advance, hstate, hnext]

/-- A token ends before the character that follows it. -/
theorem run_ended (hstate : scanner.state ≠ .start) {kind : TokenKind} {text : List Char}
    (hstep : scanner.state.step text.head? = .reread .start (.emit kind)) :
    scanner.run text = ({ scanner.emit kind with state := .start }).run text :=
  run_of_rereads (by rw [hstep]; rfl) (perform_emit hstate hstep)

/-- A token ends with the character that closes it. -/
theorem run_ended_past (hstate : scanner.state ≠ .start) {kind : TokenKind} {c : Char}
    (hstep : scanner.state.step (some c) = .advance .start (.emit kind)) (text : List Char) :
    scanner.run (c :: text) =
      ({ scanner.emit kind with
        state := .start
        position := scanner.position.next c }).run text :=
  run_of_advances (by rw [hstep]; rfl) (perform_emit hstate hstep)

/-- A token that ends before the character that follows it has the text kept for it. -/
theorem run_body (hstate : scanner.state ≠ .start) (hbuffer : scanner.buffer = "")
    {kind : TokenKind} (hkind : kind.symbol? = none) {word rest : List Char}
    (hword : ∀ c ∈ word, scanner.state.step (some c) = .advance scanner.state .keep)
    (hend : scanner.state.step rest.head? = .reread .start (.emit kind)) :
    scanner.run (word ++ rest) =
      ({ scanner with
        state := .start
        position := scanner.position.after word
        tokens := scanner.tokens.push ⟨kind, String.ofList word, scanner.origin⟩ }).run rest := by
  let kept : Scanner := { scanner with
    buffer := scanner.buffer ++ String.ofList word
    position := scanner.position.after word }
  have hkept : kept.state ≠ .start := hstate
  calc
    scanner.run (word ++ rest) = kept.run rest := run_kept hstate hword rest
    _ = ({ kept.emit kind with state := .start }).run rest := run_ended hkept hend
    _ = _ := by simp only [kept, emit, hkind, hbuffer, String.empty_append]

/-- A token that ends with the character that closes it has the text kept for it. -/
theorem run_body_past (hstate : scanner.state ≠ .start) (hbuffer : scanner.buffer = "")
    {kind : TokenKind} (hkind : kind.symbol? = none) {word : List Char} {closer : Char}
    (hword : ∀ c ∈ word, scanner.state.step (some c) = .advance scanner.state .keep)
    (hend : scanner.state.step (some closer) = .advance .start (.emit kind)) (rest : List Char) :
    scanner.run (word ++ closer :: rest) =
      ({ scanner with
        state := .start
        position := scanner.position.after (word ++ [closer])
        tokens := scanner.tokens.push ⟨kind, String.ofList word, scanner.origin⟩ }).run rest := by
  let kept : Scanner := { scanner with
    buffer := scanner.buffer ++ String.ofList word
    position := scanner.position.after word }
  have hkept : kept.state ≠ .start := hstate
  calc
    scanner.run (word ++ closer :: rest) = kept.run (closer :: rest) := run_kept hstate hword _
    _ = ({ kept.emit kind with
        state := .start
        position := kept.position.next closer }).run rest := run_ended_past hkept hend rest
    _ = _ := by simp only [kept, emit, hkind, hbuffer, String.empty_append, Position.after_append,
      Position.after_cons, Position.after_nil]

/-- A character that cannot stand behind what is kept for a token is refused there. -/
theorem run_refused (hstate : scanner.state ≠ .start) {word rest : List Char}
    (hword : ∀ c ∈ word, scanner.state.step (some c) = .advance scanner.state .keep)
    (hend : scanner.state.step rest.head? = .advance .failed .reject) :
    scanner.run (word ++ rest) =
      .error ⟨⟨.refused rest.head?, scanner.position.after word⟩, scanner.tokens⟩ := by
  let kept : Scanner := { scanner with
    buffer := scanner.buffer ++ String.ofList word
    position := scanner.position.after word }
  have hlast : kept.state.step rest.head? = .advance .failed .reject := hend
  calc
    scanner.run (word ++ rest) = kept.run rest := run_kept hstate hword rest
    _ = .error ⟨⟨.refused rest.head?, kept.position⟩, kept.tokens⟩ :=
      run_of_error (perform_reject hlast)

/-- A text that ends inside a delimited token is unterminated there where the token began. -/
theorem run_unterminated (hstate : scanner.state ≠ .start) {kind : TokenKind} {word : List Char}
    (hword : ∀ c ∈ word, scanner.state.step (some c) = .advance scanner.state .keep)
    (hend : scanner.state.step none = .advance .failed (.unterminated kind)) :
    scanner.run word = .error ⟨⟨.unterminated kind, scanner.origin⟩, scanner.tokens⟩ := by
  let kept : Scanner := { scanner with
    buffer := scanner.buffer ++ String.ofList word
    position := scanner.position.after word }
  have hkept : kept.state ≠ .start := hstate
  have hlast : kept.state.step none = .advance .failed (.unterminated kind) := hend
  have hrun := run_kept hstate hword []
  rw [List.append_nil] at hrun
  calc
    scanner.run word = kept.run [] := hrun
    _ = .error ⟨⟨.unterminated kind, kept.origin⟩, kept.tokens⟩ :=
      run_of_error (perform_unterminated hkept hlast)

end PageMarkup.Scan.Scanner
