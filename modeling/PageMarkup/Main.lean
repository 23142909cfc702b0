import PageMarkup.Command.Outcome

/-!
# The command

Reads the input, runs the command on it, and prints what the run leads to.
-/

namespace PageMarkup.Command

/-- The reason behind an error of the operating system. -/
def ReadFault.ofError : IO.Error → ReadFault
  | .noFileOrDirectory _ _ _ => missing
  | .inappropriateType _ _ _ => directory
  | .permissionDenied _ code details => other (details ++ " (os error " ++ toString code ++ ")")
  | problem => other (toString problem)

/-- Reads a stream to its end. -/
partial def readToEnd (stream : IO.FS.Stream) (bytes : ByteArray) : IO ByteArray := do
  let chunk ← stream.read 65536
  if chunk.isEmpty then return bytes else readToEnd stream (bytes ++ chunk)

/-- Reads a file, or standard input when none is named. -/
def readInput : Option String → IO ByteArray
  | some name => IO.FS.readBinFile name
  | none => do readToEnd (← IO.getStdin) .empty

/-- Reads the input of a run and keeps what goes wrong. -/
def tryInput (file : Option String) : IO (Except ReadFault ByteArray) := do
  try return .ok (← readInput file)
  catch problem => return .error (.ofError problem)

/-- The time between two readings of a clock that counts nanoseconds. -/
def elapsedBetween (first last : Nat) : Elapsed :=
  ⟨(last - first) / 1000000000, (last - first) % 1000000000⟩

/-- Runs the command with settings. -/
def execute (options : Options) : IO UInt32 := do
  let input ← tryInput options.file
  let first ← IO.monoNanosNow
  let outcome := run options input
  IO.print outcome.output
  let last ← IO.monoNanosNow
  for event in outcome.log do
    IO.eprintln (event.render (elapsedBetween first last).render)
  IO.eprint outcome.report
  return outcome.exit.toUInt32

end PageMarkup.Command

open PageMarkup.Command in
/-- Does what the arguments ask for. -/
def main (arguments : List String) : IO UInt32 := do
  match Request.ofArguments arguments with
  | .run options => execute options
  | .help => IO.print helpText; return 0
  | .version => IO.print versionText; return 0
  | .refused => IO.eprint usageText; return 2
