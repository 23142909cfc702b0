import PageMarkup.Token

/-!
# The states of the scanner

The scanner reads a text character by character, with one virtual character past its end. A state
says what is being read; for each state and character there is exactly one step, which names the
next state, what becomes of the character, and whether the character is read again in the next
state.
-/

namespace PageMarkup.Scan

/-- What the scanner is reading. -/
inductive State where
  /-- Nothing: a token may begin. -/
  | start
  | roundOpen
  | roundClose
  | squareOpen
  | squareClose
  | colon
  | comma
  | dot
  | identifier
  | keyword
  | integer
  | string
  | constant
  | declaration
  | decorator
  /-- The text has been read to its end. -/
  | finished
  /-- A character was refused. -/
  | failed
deriving DecidableEq, Repr

/-- What becomes of the character that is read. -/
inductive Action where
  /-- It only changes the state. -/
  | skip
  /-- It is added to the text of the token being read. -/
  | keep
  /-- It ends a token of the given kind. -/
  | emit (kind : TokenKind)
  /-- It cannot stand here. -/
  | reject
  /-- It is the end of the text, inside a token of the given kind. -/
  | unterminated (kind : TokenKind)
deriving DecidableEq, Repr

/-- The effect of one character in one state. -/
structure Step where
  /-- The state to go on in. -/
  next : State
  /-- What becomes of the character. -/
  action : Action
  /-- Whether the same character is read again in the next state. -/
  rereads : Bool
deriving DecidableEq, Repr

namespace Step

/-- A step that goes on with the following character. -/
def advance (next : State) (action : Action) : Step := ⟨next, action, false⟩

/-- A step that reads the same character again. -/
def reread (next : State) (action : Action) : Step := ⟨next, action, true⟩

end Step

/-- The blanks that stand between tokens. -/
def isGap (c : Char) : Bool := c == ' ' || c == '\t' || c == '\n'

/-- The characters of words. -/
def isWordChar (c : Char) : Bool := c.isAlphanum || c == '_' || c == '-'

/-- The characters that may follow a word. -/
def endsWord (c : Char) : Bool :=
  isGap c || c == ':' || c == '.' || c == ',' || c == '(' || c == ')' || c == '[' || c == ']'

/-- The characters that may follow a constant. -/
def endsConstant (c : Char) : Bool := isGap c || c == ',' || c == ')' || c == ']'

/-- A small letter is a letter. -/
theorem isAlpha_of_isLower {c : Char} (h : c.isLower = true) : c.isAlpha = true :=
  (congrArg (c.isUpper || ·) h).trans (Bool.or_true _)

/-- A capital letter is a letter. -/
theorem isAlpha_of_isUpper {c : Char} (h : c.isUpper = true) : c.isAlpha = true :=
  congrArg (· || c.isLower) h

namespace State

/-- The state that a word or a number is read in, by its first character. -/
def beginWord (c : Char) : Step :=
  if c.isLower then .reread identifier .skip
  else if c.isUpper then .reread keyword .skip
  else if c.isDigit then .reread integer .skip
  else .advance failed .reject

/-- Where no token is being read, the character decides which one begins. A word, a number or a
closing bracket is entered before its first character is read. -/
def begin : Option Char → Step
  | none => .advance finished .skip
  | some ' ' | some '\t' | some '\n' => .advance start .skip
  | some '(' => .advance roundOpen .skip
  | some ')' => .reread roundClose .skip
  | some '[' => .advance squareOpen .skip
  | some ']' => .reread squareClose .skip
  | some ':' => .advance colon .skip
  | some ',' => .advance comma .skip
  | some '.' => .advance dot .skip
  | some '$' => .advance constant .skip
  | some '@' => .advance declaration .skip
  | some '/' => .advance decorator .skip
  | some '"' => .advance string .skip
  | some c => beginWord c

/-- A word goes on to the first character that may follow it, which is read again. -/
def word (state : State) (kind : TokenKind) (ends : Char → Bool) : Option Char → Step
  | none => .reread start (.emit kind)
  | some c =>
    if ends c then .reread start (.emit kind)
    else if isWordChar c then .advance state .keep
    else .advance failed .reject

/-- A delimited text goes on to its closing delimiter, which is used up. -/
def delimited (state : State) (kind : TokenKind) (closer : Char) : Option Char → Step
  | none => .advance failed (.unterminated kind)
  | some c => if c = closer then .advance start (.emit kind) else .advance state .keep

/-- A number goes on to the first character that is no digit. A space after it is used up. -/
def digits : Option Char → Step
  | none => .reread start (.emit .integer)
  | some c =>
    if c.isDigit then .advance integer .keep
    else if c = ' ' then .advance start (.emit .integer)
    else .reread start (.emit .integer)

/-- A declaration goes on to the first blank. A space after it is used up. -/
def topic : Option Char → Step
  | none => .reread start (.emit .declaration)
  | some c =>
    if c = ' ' then .advance start (.emit .declaration)
    else if isGap c then .reread start (.emit .declaration)
    else .advance declaration .keep

/-- The step for each state and character; nothing stands for the end of the text. Opening marks
have been used up when their state is entered, closing brackets have not. -/
def step : State → Option Char → Step
  | start, c => begin c
  | roundOpen, _ => .reread start (.emit .roundOpen)
  | roundClose, _ => .advance start (.emit .roundClose)
  | squareOpen, _ => .reread start (.emit .squareOpen)
  | squareClose, _ => .advance start (.emit .squareClose)
  | colon, _ => .reread start (.emit .colon)
  | comma, _ => .reread start (.emit .comma)
  | dot, _ => .reread start (.emit .dot)
  | identifier, c => word identifier .identifier endsWord c
  | keyword, c => word keyword .keyword endsWord c
  | constant, c => word constant .constant endsConstant c
  | integer, c => digits c
  | declaration, c => topic c
  | decorator, c => delimited decorator .decorator '/' c
  | string, c => delimited string .string '"' c
  | finished, _ => .advance finished .skip
  | failed, _ => .advance failed .reject

/-- How often at most the character is read again after being read in this state. -/
def pendingReads (state : State) (c : Option Char) : Nat :=
  if (state.step c).rereads then (if state = start then 1 else 2) else 0

/-- A character that begins a word is no end of a word. -/
theorem endsWord_eq_false_of_isAlpha {c : Char} (h : c.isAlpha = true) : endsWord c = false := by
  rw [Bool.eq_false_iff]
  intro hends
  simp only [endsWord, isGap, Bool.or_eq_true, beq_iff_eq, or_assoc] at hends
  rcases hends with rfl | rfl | rfl | rfl | rfl | rfl | rfl | rfl | rfl | rfl
  all_goals exact absurd h (by decide)

/-- A word leaves a character only to the start state. -/
theorem next_word {state : State} {kind : TokenKind} {ends : Char → Bool} {c : Option Char}
    (h : (word state kind ends c).rereads = true) : (word state kind ends c).next = start := by
  unfold word at h ⊢
  split
  · rfl
  · next c =>
    by_cases hends : ends c = true
    · simp [hends, Step.reread]
    · by_cases hword : isWordChar c = true <;> simp [hends, hword, Step.advance] at h

/-- A number leaves a character only to the start state. -/
theorem next_digits {c : Option Char} (h : (digits c).rereads = true) :
    (digits c).next = start := by
  unfold digits at h ⊢
  split
  · rfl
  · next c =>
    by_cases hdigit : c.isDigit = true
    · simp [hdigit, Step.advance] at h
    · by_cases hspace : c = ' ' <;> simp [hdigit, hspace, Step.advance, Step.reread]

/-- A declaration leaves a character only to the start state. -/
theorem next_topic {c : Option Char} (h : (topic c).rereads = true) : (topic c).next = start := by
  unfold topic at h ⊢
  split
  · rfl
  · next c =>
    by_cases hspace : c = ' '
    · simp [hspace, Step.advance]
    · by_cases hgap : isGap c = true
      · simp [hspace, hgap, Step.reread]
      · simp [hspace, hgap, Step.advance] at h

/-- A delimited text uses up every character. -/
theorem rereads_delimited (state : State) (kind : TokenKind) (closer : Char) (c : Option Char) :
    (delimited state kind closer c).rereads = false := by
  unfold delimited
  split
  · rfl
  · split <;> rfl

/-- Outside the start state a character is left only to the start state. -/
theorem next_eq_start {state : State} {c : Option Char} (hstate : state ≠ start)
    (h : (state.step c).rereads = true) : (state.step c).next = start := by
  cases state with
  | start => exact absurd rfl hstate
  | roundOpen | squareOpen | colon | comma | dot => rfl
  | roundClose | squareClose | finished | failed => cases h
  | identifier | keyword | constant => exact next_word h
  | integer => exact next_digits h
  | declaration => exact next_topic h
  | decorator | string => cases (rereads_delimited _ _ _ c).symm.trans h

/-- A word or a number uses up the character that begins it. -/
theorem rereads_next_beginWord {c : Char} (h : (beginWord c).rereads = true) :
    ((beginWord c).next.step (some c)).rereads = false := by
  unfold beginWord at h ⊢
  split at h
  · next hlower =>
    have halpha := isAlpha_of_isLower hlower
    simp_all [step, word, isWordChar, Char.isAlphanum, endsWord_eq_false_of_isAlpha, Step.reread,
      Step.advance]
  split at h
  · next hupper =>
    have halpha := isAlpha_of_isUpper hupper
    simp_all [step, word, isWordChar, Char.isAlphanum, endsWord_eq_false_of_isAlpha, Step.reread,
      Step.advance]
  split at h
  · simp_all [step, digits, Step.reread, Step.advance]
  · simp [Step.advance] at h

/-- The start state leaves a character only to a state that uses it up. -/
theorem rereads_next_begin {c : Option Char} (h : (begin c).rereads = true) :
    ((begin c).next.step c).rereads = false := by
  revert h
  unfold begin
  split
  case h_16 => exact rereads_next_beginWord
  all_goals simp [step, Step.reread, Step.advance]

/-- A character is read again only finitely often: a state that a token ends in leaves it to the
start state, and the start state leaves it to a state that uses it up. -/
theorem pendingReads_next_lt {state : State} {c : Option Char} (h : (state.step c).rereads = true) :
    (state.step c).next.pendingReads c < state.pendingReads c := by
  by_cases hstate : state = start
  · subst hstate
    have hnext : ((start.step c).next.step c).rereads = false := rereads_next_begin h
    simp [pendingReads, h, hnext]
  · rw [next_eq_start hstate h]
    simp only [pendingReads, h, hstate]
    split <;> simp

end State

end PageMarkup.Scan
