import PageMarkup.Command.Options

/-!
# Reading the command line

Arguments are read from left to right, and the first one that decides the request ends the
reading: a wrong one, or a wish for help or for the version. A setting or a flag may be given only
once, apart from the verbosity, which grows with each mention.
-/

namespace PageMarkup.Command

/-- A single argument by its form. -/
inductive Argument where
  /-- The two hyphens after which all arguments are files. -/
  | separator
  /-- A name after two hyphens, with the value after an equals sign if there is one. -/
  | long (name : String) (value : Option String)
  /-- Letters after one hyphen. -/
  | letters (letters : List Char)
  /-- Anything else, which names a file. -/
  | file (name : String)
deriving DecidableEq, Repr

/-- A long argument without its hyphens, parted at the first equals sign. -/
def Argument.ofLong (text : List Char) : Argument :=
  let name := text.takeWhile (· != '=')
  match text.dropWhile (· != '=') with
  | [] => long (String.ofList name) none
  | _ :: value => long (String.ofList name) (some (String.ofList value))

/-- The form of an argument. A single hyphen is a file name. -/
def Argument.ofText (text : String) : Argument :=
  match text.toList with
  | ['-', '-'] => separator
  | '-' :: '-' :: rest => ofLong rest
  | ['-'] => file text
  | '-' :: rest => letters rest
  | _ => file text

/-- Whether an argument cannot be the value of the setting before it. -/
def Argument.isOption : Argument → Bool
  | separator => true
  | long _ _ => true
  | letters _ => true
  | file _ => false

/-- The settings that take a value. -/
inductive Setting where
  | emission
  | target
  | classLead
deriving DecidableEq, Repr

/-- The flags that are given at most once. -/
inductive Flag where
  | pretty
  | unchecked
  | jsonErrors
deriving DecidableEq, Repr

/-- What a name after two hyphens means. -/
inductive Meaning where
  | setting (setting : Setting)
  | flag (flag : Flag)
  | verbose
  | help
  | version
deriving DecidableEq, Repr

/-- The names after two hyphens. -/
def meanings : List (String × Meaning) :=
  [("emit", .setting .emission), ("target", .setting .target),
   ("class-prefix", .setting .classLead), ("pretty", .flag .pretty),
   ("no-check", .flag .unchecked), ("json-errors", .flag .jsonErrors), ("verbose", .verbose),
   ("help", .help), ("version", .version)]

/-- The options that have been given so far. -/
structure Given where
  /-- The name of the file. -/
  file : Option String := none
  /-- What to print. -/
  emission : Option Emission := none
  /-- The name of the generation target. -/
  target : Option String := none
  /-- What class names begin with. -/
  classLead : Option String := none
  /-- The flags. -/
  flags : List Flag := []
  /-- How often more logging was asked for. -/
  verbosity : Nat := 0
deriving DecidableEq, Repr

namespace Given

/-- The settings of the run, where what is not given has its default. -/
def options (given : Given) : Options where
  file := given.file
  emission := given.emission.getD .html
  target := given.target.getD "html"
  html := ⟨given.classLead.getD "ns-"⟩
  style := if Flag.pretty ∈ given.flags then .pretty else .compact
  checks := Flag.unchecked ∉ given.flags
  jsonErrors := Flag.jsonErrors ∈ given.flags
  verbosity := given.verbosity

/-- Takes the name of the file, which is not empty. -/
def setFile (given : Given) (name : String) : Except Request Given :=
  if name = "" ∨ given.file.isSome then .error .refused
  else .ok { given with file := some name }

/-- Takes a flag. -/
def setFlag (given : Given) (flag : Flag) : Except Request Given :=
  if flag ∈ given.flags then .error .refused
  else .ok { given with flags := flag :: given.flags }

/-- Takes the value of a setting. -/
def set (given : Given) (setting : Setting) (value : String) : Except Request Given :=
  match setting with
  | .emission =>
    match given.emission, Emission.ofName? value with
    | none, some emission => .ok { given with emission := some emission }
    | _, _ => .error .refused
  | .target =>
    if given.target.isSome then .error .refused else .ok { given with target := some value }
  | .classLead =>
    if given.classLead.isSome then .error .refused
    else .ok { given with classLead := some value }

/-- Takes a name that has no value. -/
def mention (given : Given) : Meaning → Except Request Given
  | .setting _ => .error .refused
  | .flag flag => given.setFlag flag
  | .verbose => .ok { given with verbosity := given.verbosity + 1 }
  | .help => .error .help
  | .version => .error .version

/-- Takes a name with the value after its equals sign. -/
def assign (given : Given) (value : String) : Meaning → Except Request Given
  | .setting setting => given.set setting value
  | .flag _ | .verbose | .help | .version => .error .refused

/-- Takes letters one after the other. -/
def addLetters (given : Given) : List Char → Except Request Given
  | [] => .ok given
  | c :: rest =>
    if c = 'v' then addLetters { given with verbosity := given.verbosity + 1 } rest
    else if c = 'h' then .error .help
    else if c = 'V' then .error .version
    else .error .refused

end Given

/-- Takes arguments that are all files. -/
def readFiles (given : Given) (names : List String) : Except Request Given :=
  names.foldlM Given.setFile given

/-- Takes arguments one after the other, up to the first that decides the request. -/
def readArguments (given : Given) : List String → Except Request Given
  | [] => .ok given
  | text :: rest =>
    match Argument.ofText text with
    | .separator => readFiles given rest
    | .file name => do readArguments (← given.setFile name) rest
    | .letters letters => do readArguments (← given.addLetters letters) rest
    | .long name value =>
      match meanings.lookup name, value, rest with
      | none, _, _ => .error .refused
      | some meaning, some value, rest => do readArguments (← given.assign value meaning) rest
      | some (.setting setting), none, value :: rest =>
        if (Argument.ofText value).isOption then .error .refused
        else do readArguments (← given.set setting value) rest
      | some meaning, none, rest => do readArguments (← given.mention meaning) rest

/-- What the arguments ask for. -/
def Request.ofArguments (arguments : List String) : Request :=
  match readArguments {} arguments with
  | .error request => request
  | .ok given => .run given.options

end PageMarkup.Command
