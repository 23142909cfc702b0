import PageMarkup.Document.Basic
import PageMarkup.Document.Fault
import PageMarkup.Document.Path
import PageMarkup.Text.Case
import PageMarkup.Token

/-!
# Reading a document from tokens

Tokens are read one after the other. The builder holds the nodes found so far together with what
is open: the constructs a value can belong to, the blocks, the brackets and colons, and the words
that wait for a value. Components are named by paths, and new nodes are always added at the end
of the component that is open. Where a token stands plays no part, except in the report of a
fault.
-/

namespace PageMarkup.Document

/-- What a word or a value is read for. -/
inductive Context where
  | component
  | declaration
deriving DecidableEq, Repr

/-- What a declaration asks for. -/
inductive Directive where
  /-- Records the value of a key; the last value counts. -/
  | configure
  /-- Adds a value to the values of a key. -/
  | reference
  /-- Has no effect. -/
  | unknown (topic : String)
deriving DecidableEq, Repr

/-- The directive of a topic, in any case of letters. -/
def Directive.ofTopic (topic : String) : Directive :=
  let lowered := String.ofList (Text.lower topic.toList)
  if lowered = "configure" then configure
  else if lowered = "reference" then reference
  else unknown lowered

/-- A declaration that has its topic and its key, and now gets its value. -/
structure Declared where
  /-- What is asked for. -/
  directive : Directive
  /-- The key. -/
  key : String
deriving DecidableEq, Repr

/-- The document under construction and what is open in it. Lists begin with the innermost or
latest entry. -/
structure Builder where
  /-- The nodes outside all components. -/
  body : List Node := []
  /-- The configurations so far. -/
  configurations : Table String := ∅
  /-- The references so far. -/
  references : Table (List String) := ∅
  /-- The open constructs that values can belong to. -/
  contexts : List Context := []
  /-- The components whose blocks are open. -/
  blocks : List Path := []
  /-- How many square brackets are open. -/
  squares : Nat := 0
  /-- How many round brackets are open. -/
  rounds : Nat := 0
  /-- How many colons wait for a value. -/
  colons : Nat := 0
  /-- Whether the last token was a dot that a class name may follow. -/
  dotted : Bool := false
  /-- The parameter names that wait for a value. -/
  keys : List String := []
  /-- The topics and keys of declarations that wait for a value. -/
  declared : List String := []
  /-- The component that the next class, parameter, text or mark belongs to. -/
  current : Option Path := none

namespace Builder

/-- Changes the current component. -/
def attach (builder : Builder) (what : Attachment) (change : Component → List Node → Node) :
    Except Fault Builder :=
  match builder.current with
  | none => .error (.outside what)
  | some path =>
    match Node.modifyAt? change builder.body path with
    | none => .error .lostComponent
    | some body => .ok { builder with body }

/-- Adds a node at the end of the current component. -/
def append (builder : Builder) (what : Attachment) (node : Node) : Except Fault Builder :=
  builder.attach what fun head children => .component head (children ++ [node])

/-- Begins a component: a page of its own when no block is open, else the last child of the
innermost block's component. -/
def beginComponent (builder : Builder) (name : String) : Except Fault Builder :=
  let node := Node.component (.named name) []
  match builder.blocks with
  | [] =>
    let pages := if builder.body = [] then [] else builder.body ++ [.pageBreak]
    .ok { builder with
      body := pages ++ [.pageWrapper node]
      contexts := .component :: builder.contexts
      current := some [pages.length, 0] }
  | path :: _ =>
    match Node.at? builder.body path,
      Node.modifyAt? (fun head children => .component head (children ++ [node])) builder.body
        path with
    | some (_, children), some body =>
      .ok { builder with
        body
        contexts := .component :: builder.contexts
        current := some (path ++ [children.length]) }
    | _, _ => .error .lostEnclosing

/-- Opens the block of the current component. -/
def openBlock (builder : Builder) : Except Fault Builder :=
  match builder.current with
  | none => .error .nothingToOpen
  | some path =>
    .ok { builder with blocks := path :: builder.blocks, squares := builder.squares + 1 }

/-- Closes the innermost block, and goes back to the component of the block around it. -/
def closeBlock (builder : Builder) : Builder :=
  { builder with
    blocks := builder.blocks.tail
    current := builder.blocks.tail.head?
    contexts := builder.contexts.tail
    squares := builder.squares - 1 }

/-- Reads a word with a capital: the key of a declaration, or else the name of a component. -/
def readKeyword (builder : Builder) (text : String) : Except Fault Builder :=
  if builder.contexts.head? = some .declaration then
    .ok { builder with declared := text :: builder.declared }
  else builder.beginComponent text

/-- Reads a word without a capital: the key of a declaration, a class after a dot, or the name of
a parameter between round brackets. Anywhere else it has no effect. -/
def readIdentifier (builder : Builder) (text : String) : Except Fault Builder :=
  match builder.contexts.head? with
  | some .declaration => .ok { builder with declared := text :: builder.declared }
  | some .component =>
    if builder.dotted then do
      let changed ← builder.attach .className fun head children =>
        .component { head with classes := head.classes ++ [text] } children
      return { changed with dotted := false }
    else if 0 < builder.rounds then .ok { builder with keys := text :: builder.keys }
    else .ok builder
  | none => .ok builder

/-- Whether a word without a capital has no effect. -/
def ignoresIdentifier (builder : Builder) : Bool :=
  match builder.contexts.head? with
  | some .declaration => false
  | some .component => !builder.dotted && builder.rounds == 0
  | none => true

/-- The latest declaration once it has a topic and a key, and the words that wait after it. -/
def declaration? (builder : Builder) : Option (Declared × List String) :=
  match builder.declared with
  | key :: topic :: rest =>
    if key = "" ∨ topic = "" then none else some (⟨.ofTopic topic, key⟩, rest)
  | _ => none

/-- Records the value of a declaration. -/
def record (builder : Builder) (declared : Declared) (value : String) : Builder :=
  match declared.directive with
  | .configure =>
    { builder with configurations := builder.configurations.insert declared.key value }
  | .reference =>
    let values := (builder.references.get? declared.key).getD []
    let extended := if value ∈ values then values else values ++ [value]
    { builder with references := builder.references.insert declared.key extended }
  | .unknown _ => builder

/-- Ends the latest declaration with its value. -/
def declare (builder : Builder) (value : String) : Except Fault Builder :=
  match builder.declaration? with
  | none => .error .incompleteDeclaration
  | some (declared, rest) =>
    .ok { builder.record declared value with
      declared := rest
      colons := builder.colons - 1
      contexts := builder.contexts.tail }

/-- Gives the current component a parameter. -/
def setParameter (builder : Builder) (key value : String) : Except Fault Builder := do
  let changed ← builder.attach .parameter fun head children =>
    .component { head with parameters := head.parameters.insert key value } children
  return { changed with keys := changed.keys.tail, colons := changed.colons - 1 }

/-- Whether the innermost open block is that of a list. -/
def inList (builder : Builder) : Bool :=
  match builder.blocks with
  | [] => false
  | path :: _ => (Node.at? builder.body path).any fun found => found.1.name == Component.list

/-- Adds a text to the current component. After a colon the text is all that the component
holds, so the component of the innermost block becomes current again. -/
def addLiteral (builder : Builder) (text : String) : Except Fault Builder := do
  let changed ← builder.append .literal (.wrapped text builder.inList)
  if 0 < changed.colons then
    return { changed with colons := changed.colons - 1, current := changed.blocks.head? }
  else return changed

/-- Reads a value: that of a declaration, of a parameter, or else a text of its own. -/
def readValue (builder : Builder) (text : String) : Except Fault Builder :=
  match builder.contexts.head?, builder.keys with
  | some .declaration, _ => builder.declare text
  | some .component, key :: _ =>
    if 0 < builder.rounds then builder.setParameter key text else builder.addLiteral text
  | _, _ => builder.addLiteral text

/-- The mark that a decorator stands for: colons for a line break, hyphens for a rule. -/
def decoration? (text : String) : Option Node :=
  if text ≠ "" ∧ text.toList.all (· == ':') then some .lineBreak
  else if text ≠ "" ∧ text.toList.all (· == '-') then some .horizontalRule
  else none

/-- Reads a decorator. -/
def readDecorator (builder : Builder) (text : String) : Except Fault Builder :=
  match decoration? text with
  | some node => builder.append .decorator node
  | none => .error (.unknownDecorator text)

/-- A dot is forgotten unless a word follows it directly. -/
def settle (builder : Builder) (kind : TokenKind) : Builder :=
  if kind = .identifier then builder else { builder with dotted := false }

/-- Reads a token that has no dot to forget. -/
def dispatch (builder : Builder) (text : String) : TokenKind → Except Fault Builder
  | .keyword => builder.readKeyword text
  | .identifier => builder.readIdentifier text
  | .string | .constant => builder.readValue text
  | .decorator => builder.readDecorator text
  | .declaration =>
    .ok { builder with
      declared := text :: builder.declared
      contexts := .declaration :: builder.contexts }
  | .squareOpen => builder.openBlock
  | .squareClose => .ok builder.closeBlock
  | .roundOpen => .ok { builder with rounds := builder.rounds + 1 }
  | .roundClose => .ok { builder with rounds := builder.rounds - 1 }
  | .colon => .ok { builder with colons := builder.colons + 1 }
  | .dot => .ok { builder with dotted := builder.contexts.head? = some .component }
  | .comma | .integer => .ok builder

/-- Reads a token by its kind and its text. -/
def accept (builder : Builder) (kind : TokenKind) (text : String) : Except Fault Builder :=
  (builder.settle kind).dispatch text kind

/-- Reads a token, and reports a fault at its place. -/
def read (builder : Builder) (token : Token) : Except (Located Fault) Builder :=
  (builder.accept token.kind token.text).mapError fun fault => ⟨fault, token.position⟩

/-- Reads tokens in order. -/
def run (builder : Builder) (tokens : List Token) : Except (Located Fault) Builder :=
  tokens.foldlM read builder

@[simp]
theorem run_nil (builder : Builder) : builder.run [] = .ok builder := rfl

@[simp]
theorem run_cons (builder : Builder) (token : Token) (tokens : List Token) :
    builder.run (token :: tokens) = builder.read token >>= fun next => next.run tokens := rfl

/-- Reading two lists of tokens one after the other is reading their concatenation. -/
theorem run_append (builder : Builder) (first second : List Token) :
    builder.run (first ++ second) = builder.run first >>= fun next => next.run second := by
  simp [run, List.foldlM_append]

/-- The document read so far. -/
def document (builder : Builder) : Document where
  configurations := builder.configurations
  references := builder.references
  body := builder.body

end Builder

/-- The document that tokens denote, or the first fault in them. -/
def ofTokens (tokens : List Token) : Except (Located Fault) Document :=
  (Builder.run {} tokens).map Builder.document

end PageMarkup.Document
