import PageMarkup.Html
import PageMarkup.Json
import PageMarkup.Log

/-!
# Options of the command line

The settings of a run, what an invocation asks for, and the texts about the program itself.
-/

namespace PageMarkup.Command

/-- What is printed after a successful compilation. -/
inductive Emission where
  /-- The output for the target. -/
  | html
  /-- The document as JSON. -/
  | document
  /-- The tokens as JSON. -/
  | tokens
deriving DecidableEq, Repr

/-- The emission of a name. -/
def Emission.ofName? (name : String) : Option Emission :=
  if name = "html" then some html
  else if name = "ast" then some document
  else if name = "tokens" then some tokens
  else none

/-- The settings of a run. -/
structure Options where
  /-- The file to read; without one, standard input is read. -/
  file : Option String
  /-- What to print. -/
  emission : Emission
  /-- The name of the generation target. -/
  target : String
  /-- How HTML is written. -/
  html : HtmlOptions
  /-- How JSON is written. -/
  style : Json.Style
  /-- Whether brackets are checked. -/
  checks : Bool
  /-- Whether a failure is reported as JSON. -/
  jsonErrors : Bool
  /-- How much is logged. -/
  verbosity : Nat
deriving DecidableEq, Repr

/-- The least level that is logged. -/
def Options.level (options : Options) : LogLevel :=
  match options.verbosity with
  | 0 => .warn
  | 1 => .info
  | 2 => .debug
  | _ => .trace

/-- What an invocation asks for. -/
inductive Request where
  /-- A run with settings. -/
  | run (options : Options)
  /-- The description of the program. -/
  | help
  /-- The version of the program. -/
  | version
  /-- Nothing that can be done: the arguments are wrong. -/
  | refused
deriving DecidableEq, Repr

/-- The version of the program. -/
def versionText : String := "nsc 0.3.0\n"

/-- The description of the program, line by line. -/
def helpLines : List String :=
  ["Compile Notescript markup to HTML",
   "",
   "Usage: nsc [OPTIONS] [FILE]",
   "",
   "Arguments:",
   "  [FILE]  Source file; reads stdin when omitted",
   "",
   "Options:",
   "      --emit <EMIT>                  What to print [default: html]"
     ++ " [possible values: html, ast, tokens]",
   "      --target <TARGET>              Generation target [default: html]",
   "      --class-prefix <CLASS_PREFIX>  Prefix of generated class names [default: ns-]",
   "      --pretty                       Indent JSON output",
   "      --no-check                     Skip the bracket-balance check",
   "      --json-errors                  Report errors as JSON on stderr",
   "  -v, --verbose...                   Verbosity level (can be repeated)",
   "  -h, --help                         Print help",
   "  -V, --version                      Print version"]

/-- The description of the program. -/
def helpText : String := String.join (helpLines.map (· ++ "\n"))

/-- What is said about wrong arguments. -/
def usageText : String :=
  "error: invalid arguments\n\nUsage: nsc [OPTIONS] [FILE]\n\n"
    ++ "For more information, try '--help'.\n"

end PageMarkup.Command
