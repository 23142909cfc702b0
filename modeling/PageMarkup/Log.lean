import PageMarkup.Compilation
import PageMarkup.Elapsed
import PageMarkup.Text.Escape

/-!
# The log

Every stage tells what it does by events of four levels. The events of a stage are a function of
its input, beside its result, so a result never depends on what is logged.
-/

namespace PageMarkup

/-- How important an event is. -/
inductive LogLevel where
  | trace
  | debug
  | info
  | warn
deriving DecidableEq, Repr

namespace LogLevel

/-- The name of a level. -/
def name : LogLevel → String
  | trace => "TRACE"
  | debug => "DEBUG"
  | info => "INFO"
  | warn => "WARN"

/-- The place of a level in the order of importance. -/
def rank : LogLevel → Nat
  | trace => 0
  | debug => 1
  | info => 2
  | warn => 3

end LogLevel

/-- What a stage tells. -/
inductive LogEvent where
  /-- A token was found. -/
  | found (token : Token)
  /-- A text was split into tokens. -/
  | scanned (tokens lines : Nat)
  /-- A token is read. -/
  | reading (token : Token)
  /-- A dot is forgotten at a token. -/
  | dotDropped (position : Position)
  /-- A word has no effect. -/
  | wordIgnored (text : String)
  /-- A declaration has no effect. -/
  | topicIgnored (topic : String) (position : Position)
  /-- Tokens were read as a document. -/
  | built (nodes : Nat)
  /-- A compilation succeeded. -/
  | compiled
  /-- Brackets match. -/
  | balanced (tokens : Nat)
  /-- Output was written for a target. -/
  | generated (target : String)
deriving DecidableEq, Repr

namespace LogEvent

/-- The level of an event. -/
def level : LogEvent → LogLevel
  | found _ | reading _ | dotDropped _ | wordIgnored _ => .trace
  | scanned _ _ | built _ | compiled | balanced _ | generated _ => .debug
  | topicIgnored _ _ => .warn

/-- The part of the program that an event comes from. -/
def origin : LogEvent → String
  | found _ | scanned _ _ => "lexer"
  | reading _ | dotDropped _ | wordIgnored _ | topicIgnored _ _ | built _ => "parser"
  | balanced _ => "checker"
  | compiled | generated _ => "compiler"

/-- What an event says, given the time to be told for finished work. -/
def text (elapsed : String) : LogEvent → String
  | found token =>
    "token kind=" ++ Text.quoted token.kind.name ++ " text=" ++ token.text
      ++ " at=" ++ token.position.render
  | scanned tokens lines => "lexed tokens=" ++ toString tokens ++ " lines=" ++ toString lines
  | reading token => "parse kind=" ++ Text.quoted token.kind.name ++ " text=" ++ token.text
  | dotDropped position => "dropping dangling dot at=" ++ position.render
  | wordIgnored text => "identifier outside of any construct text=" ++ text
  | topicIgnored topic position =>
    "ignoring unknown declaration topic=" ++ Text.quoted topic ++ " at=" ++ position.render
  | built nodes => "parsed nodes=" ++ toString nodes
  | compiled => "compilation finished elapsed=" ++ elapsed
  | balanced tokens => "brackets balanced tokens=" ++ toString tokens
  | generated target =>
    "code generation finished lang=" ++ Text.quoted target ++ " elapsed=" ++ elapsed

/-- An event as it stands in the log, without the time of its occurrence. -/
def render (elapsed : String) (event : LogEvent) : String :=
  event.level.name ++ " notescript::" ++ event.origin ++ ": " ++ event.text elapsed

end LogEvent

/-- The events of splitting a text into tokens. -/
def Scan.log (text : List Char) : List LogEvent :=
  match Scan.scan text with
  | .error stop => stop.tokens.toList.map .found
  | .ok scanned =>
    scanned.tokens.map .found ++ [.scanned scanned.tokens.length scanned.lineCount]

namespace Document

/-- The event of a dot that is forgotten at a token. -/
def Builder.dotLog (builder : Builder) (token : Token) : List LogEvent :=
  if builder.dotted ∧ token.kind ≠ .identifier then [.dotDropped token.position] else []

/-- The event of a word or a declaration without effect. -/
def Builder.ignoredLog (builder : Builder) (token : Token) : List LogEvent :=
  match token.kind, builder.contexts.head?, builder.declaration? with
  | .identifier, _, _ => if builder.ignoresIdentifier then [.wordIgnored token.text] else []
  | .string, some .declaration, some (⟨.unknown topic, _⟩, _) =>
    [.topicIgnored topic token.position]
  | .constant, some .declaration, some (⟨.unknown topic, _⟩, _) =>
    [.topicIgnored topic token.position]
  | _, _, _ => []

/-- The events of reading tokens, up to the first fault. -/
def Builder.log (builder : Builder) : List Token → List LogEvent
  | [] => [.built builder.body.length]
  | token :: rest =>
    .reading token :: (builder.dotLog token ++ builder.ignoredLog token
      ++ match builder.read token with
        | .error _ => []
        | .ok next => next.log rest)

end Document

namespace Compilation

/-- The events of reading normalised characters as a document. -/
def streamLog (stream : List Char) : List LogEvent :=
  Scan.log stream ++ match Scan.scan stream with
    | .error _ => []
    | .ok scanned => Document.Builder.log {} scanned.tokens

/-- The events of the compilation of a source. -/
def log (source : String) : List LogEvent :=
  (match Source.stream? source with
    | none => []
    | some stream => streamLog stream)
  ++ match (ofSource source).result with
    | .error _ => []
    | .ok _ => [.compiled]

end Compilation

namespace Compiled

/-- The events of the bracket check. -/
def checkLog (compiled : Compiled) : List LogEvent :=
  match compiled.check with
  | .error _ => []
  | .ok _ => [.balanced compiled.tokens.length]

/-- The events of writing output for a target. -/
def generateLog (compiled : Compiled) (options : HtmlOptions) (target : String) : List LogEvent :=
  match compiled.generate options target with
  | .error _ => []
  | .ok _ => [.generated target]

end Compiled

end PageMarkup
