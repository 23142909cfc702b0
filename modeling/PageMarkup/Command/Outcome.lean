import PageMarkup.Command.Arguments
import PageMarkup.Dump
import PageMarkup.Report

/-!
# Runs of the command

The outcome of a run is what is printed, what is reported, the log and the exit code. It is a
function of the options and of the input that was read.
-/

namespace PageMarkup.Command

/-- Why the input cannot be read. -/
inductive ReadFault where
  /-- There is no such file. -/
  | missing
  /-- The file is a directory. -/
  | directory
  /-- The bytes are no text. -/
  | notText
  /-- Any other reason, in words. -/
  | other (reason : String)
deriving DecidableEq, Repr

/-- The wording of a reason. -/
def ReadFault.message : ReadFault → String
  | missing => "No such file or directory (os error 2)"
  | directory => "Is a directory (os error 21)"
  | notText => "stream did not contain valid UTF-8"
  | other reason => reason

/-- What a run leads to. -/
structure Outcome where
  /-- The exit code. -/
  exit : Nat
  /-- What is printed. -/
  output : String := ""
  /-- What is reported as an error. -/
  report : String := ""
  /-- What is logged. -/
  log : List LogEvent := []

namespace Options

/-- What is printed for a compiled source. -/
def emit (options : Options) (compiled : Compiled) : Except Diagnostic String :=
  match options.emission with
  | .html => compiled.generate options.html options.target
  | .document => .ok (compiled.document.dump options.style)
  | .tokens => .ok (Token.dump options.style compiled.tokens)

/-- What is printed for a source. -/
def compile (options : Options) (source : String) : Except Diagnostic String := do
  let compiled ← (Compilation.ofSource source).result
  if options.checks then compiled.check
  options.emit compiled

/-- The events of printing a compiled source. -/
def emitLog (options : Options) (compiled : Compiled) : List LogEvent :=
  match options.emission with
  | .html => compiled.generateLog options.html options.target
  | .document | .tokens => []

/-- The events of everything that follows a compilation. -/
def compiledLog (options : Options) (compiled : Compiled) : List LogEvent :=
  if options.checks then
    compiled.checkLog ++ match compiled.check with
      | .error _ => []
      | .ok _ => options.emitLog compiled
  else options.emitLog compiled

/-- All events of a run, of whatever level. -/
def fullLog (options : Options) (source : String) : List LogEvent :=
  Compilation.log source ++ match (Compilation.ofSource source).result with
    | .error _ => []
    | .ok compiled => options.compiledLog compiled

/-- The events of a run that are logged. -/
def log (options : Options) (source : String) : List LogEvent :=
  (options.fullLog source).filter fun event => options.level.rank ≤ event.level.rank

/-- The report of a failure. -/
def report (options : Options) (source : String) (diagnostic : Diagnostic) : String :=
  if options.jsonErrors then diagnostic.dump ++ "\n" else Report.render source diagnostic

/-- The outcome for a source. -/
def outcome (options : Options) (source : String) : Outcome :=
  match options.compile source with
  | .ok output => { exit := 0, output := output ++ "\n", log := options.log source }
  | .error diagnostic =>
    { exit := 1, report := options.report source diagnostic, log := options.log source }

end Options

/-- The outcome when the input cannot be read. -/
def ReadFault.outcome (fault : ReadFault) : Outcome :=
  { exit := 2, report := "nsc: " ++ fault.message ++ "\n" }

/-- The outcome of a run, given what reading the input led to. -/
def run (options : Options) (input : Except ReadFault ByteArray) : Outcome :=
  match input with
  | .error fault => fault.outcome
  | .ok bytes =>
    match String.fromUTF8? bytes with
    | none => ReadFault.notText.outcome
    | some source => options.outcome source

end PageMarkup.Command
