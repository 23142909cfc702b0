import PageMarkup.Scan.Fault
import PageMarkup.Scan.State

/-!
# Splitting a text into tokens

The scanner carries its state, the text of the token being read, the current position and the
tokens found so far. A character is read by one or more steps: a step that ends a token or enters
one may leave the character to be read again, at most twice.
-/

namespace PageMarkup.Scan

/-- The scanner between two characters. -/
structure Scanner where
  /-- What is being read. -/
  state : State := .start
  /-- The text of the token being read. -/
  buffer : String := ""
  /-- Where the token being read began. -/
  origin : Position := .first
  /-- Where the next character stands. -/
  position : Position := .first
  /-- The tokens found so far. -/
  tokens : Array Token := #[]
deriving DecidableEq, Repr

/-- A fault with the tokens that were found before it. -/
structure Stop where
  /-- What was wrong and where. -/
  fault : Located Fault
  /-- The tokens found before. -/
  tokens : Array Token
deriving DecidableEq, Repr

/-- The tokens of a whole text. -/
structure Scanned where
  /-- The tokens in order. -/
  tokens : List Token
  /-- The number of lines of the text. -/
  lineCount : Nat
deriving DecidableEq, Repr

namespace Scanner

/-- Ends the token being read. -/
def emit (scanner : Scanner) (kind : TokenKind) : Scanner :=
  let text := match kind.symbol? with
    | some symbol => symbol.toString
    | none => scanner.buffer
  { scanner with tokens := scanner.tokens.push ⟨kind, text, scanner.origin⟩, buffer := "" }

/-- A token begins where the scanner leaves the start state. -/
def mark (scanner : Scanner) (next : State) : Scanner :=
  if scanner.state = .start ∧ next ≠ .start then { scanner with origin := scanner.position }
  else scanner

/-- Adds a character to the token being read. -/
def keep (scanner : Scanner) : Option Char → Scanner
  | some c => { scanner with buffer := scanner.buffer.push c }
  | none => scanner

/-- Uses a character up. -/
def advance (scanner : Scanner) : Option Char → Scanner
  | some c => { scanner with position := scanner.position.next c }
  | none => scanner

/-- Carries out the step that the state prescribes for a character, without using the character
up. -/
def perform (scanner : Scanner) (c : Option Char) : Except Stop Scanner :=
  let step := scanner.state.step c
  let marked := scanner.mark step.next
  match step.action with
  | .skip => .ok { marked with state := step.next }
  | .keep => .ok { marked.keep c with state := step.next }
  | .emit kind => .ok { marked.emit kind with state := step.next }
  | .reject => .error ⟨⟨.refused c, marked.position⟩, marked.tokens⟩
  | .unterminated kind => .error ⟨⟨.unterminated kind, marked.origin⟩, marked.tokens⟩

/-- A step that is carried out leads to the state it names. -/
theorem state_of_perform {scanner next : Scanner} {c : Option Char}
    (h : scanner.perform c = .ok next) : next.state = (scanner.state.step c).next := by
  cases haction : (scanner.state.step c).action with
  | skip | keep | emit kind =>
    simp only [perform, haction] at h
    cases h
    rfl
  | reject | unterminated kind =>
    simp only [perform, haction] at h
    cases h

/-- Reads a character, or the end of the text, by as many steps as it takes to use it up. -/
def read (scanner : Scanner) (c : Option Char) : Except Stop Scanner :=
  if _hreads : (scanner.state.step c).rereads then
    match _hperform : scanner.perform c with
    | .error stop => .error stop
    | .ok next => next.read c
  else (scanner.perform c).map fun next => next.advance c
termination_by scanner.state.pendingReads c
decreasing_by
  rw [state_of_perform _hperform]
  exact State.pendingReads_next_lt _hreads

/-- Reads a text, without its end. -/
def readAll (scanner : Scanner) (text : List Char) : Except Stop Scanner :=
  text.foldlM (fun scanner c => scanner.read (some c)) scanner

/-- Reads a text and its end. -/
def run (scanner : Scanner) (text : List Char) : Except Stop Scanner :=
  scanner.readAll text >>= fun read => read.read none

@[simp]
theorem readAll_nil (scanner : Scanner) : scanner.readAll [] = .ok scanner := rfl

@[simp]
theorem readAll_cons (scanner : Scanner) (c : Char) (text : List Char) :
    scanner.readAll (c :: text) = scanner.read (some c) >>= fun next => next.readAll text := rfl

end Scanner

/-- The tokens of a text and the number of its lines, which is zero for the empty text; or the
first fault with the tokens found before it. -/
def scan (text : List Char) : Except Stop Scanned :=
  (Scanner.run {} text).map fun scanner =>
    ⟨scanner.tokens.toList, if text = [] then 0 else scanner.position.line⟩

end PageMarkup.Scan
