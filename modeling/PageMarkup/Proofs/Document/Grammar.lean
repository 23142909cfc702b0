import PageMarkup.Document.Builder

/-!
# The grammar of documents

A script is a sequence of declarations and components. A component has a name, classes after
dots and parameters between round brackets; it ends with a block of further items between square
brackets, or, in its short form, with a colon and a single value. Blocks hold values and
decorators as well. Every part carries its own tokens, so a script can stand anywhere in a text
and its punctuation marks can have any spelling.

A script has two readings: the tokens it consists of, in order, and the document it denotes. The
second never looks at the first, and it names the nodes of the document one by one: which wrapper a
text gets, which element a component is shown as, what stands between two pages.
-/

namespace PageMarkup.Grammar

/-- A token of the given kind. -/
abbrev Terminal (kind : TokenKind) := { token : Token // token.kind = kind }

/-- A quoted text or a constant. -/
abbrev Value := { token : Token // token.kind = .string ∨ token.kind = .constant }

/-- A word of either case with at least one character. -/
abbrev Key :=
  { token : Token // (token.kind = .identifier ∨ token.kind = .keyword) ∧ token.text ≠ "" }

/-- A value that is declared for a key under a topic. -/
structure Declaration where
  topic : Terminal .declaration
  key : Key
  colon : Terminal .colon
  value : Value
  topic_ne : topic.val.text ≠ ""

/-- A parameter with its value. -/
structure Parameter where
  name : Terminal .identifier
  colon : Terminal .colon
  value : Value

/-- Parameters between round brackets, with commas between them. -/
structure ParameterList where
  opener : Terminal .roundOpen
  parameters : Option (Parameter × List (Terminal .comma × Parameter))
  closer : Terminal .roundClose

/-- The part of a component that comes before its content. -/
structure Heading where
  name : Terminal .keyword
  classes : List (Terminal .dot × Terminal .identifier)
  parameters : Option ParameterList

/-- The two decorations. -/
inductive Decoration where
  | lineBreak
  | horizontalRule

/-- The sign that a decorator repeats. -/
def Decoration.sign : Decoration → Char
  | lineBreak => ':'
  | horizontalRule => '-'

/-- A decorator of at least one sign. -/
structure Decorator where
  token : Terminal .decorator
  decoration : Decoration
  extra : Nat
  spelled : token.val.text.toList = List.replicate (extra + 1) decoration.sign

/-- What can stand in a block. -/
inductive Item where
  | declaration (declared : Declaration)
  /-- A component with a block. -/
  | block (heading : Heading) (opener : Terminal .squareOpen) (items : List Item)
      (closer : Terminal .squareClose)
  /-- A component in its short form. -/
  | shorthand (heading : Heading) (colon : Terminal .colon) (text : Value)
  | value (text : Value)
  | decorator (signs : Decorator)

/-- Whether an item can stand outside all blocks. -/
def Item.standsAlone : Item → Bool
  | declaration _ | block _ _ _ _ | shorthand _ _ _ => true
  | value _ | decorator _ => false

/-- A whole document as it is written. -/
structure Script where
  items : List Item
  standAlone : ∀ item ∈ items, item.standsAlone = true

/-- The tokens of a declaration. -/
def Declaration.tokens (declaration : Declaration) : List Token :=
  [declaration.topic.val, declaration.key.val, declaration.colon.val, declaration.value.val]

/-- The tokens of a parameter. -/
def Parameter.tokens (parameter : Parameter) : List Token :=
  [parameter.name.val, parameter.colon.val, parameter.value.val]

/-- The tokens of parameters that follow a first one, each after its comma. -/
def Parameter.tokensAfter : List (Terminal .comma × Parameter) → List Token
  | [] => []
  | (comma, parameter) :: rest => comma.val :: (parameter.tokens ++ tokensAfter rest)

/-- The tokens of a list of parameters. -/
def ParameterList.tokens (list : ParameterList) : List Token :=
  list.opener.val ::
    ((match list.parameters with
      | none => []
      | some (first, rest) => first.tokens ++ Parameter.tokensAfter rest) ++ [list.closer.val])

/-- The tokens of classes, each after its dot. -/
def classTokens : List (Terminal .dot × Terminal .identifier) → List Token
  | [] => []
  | (dot, name) :: rest => dot.val :: name.val :: classTokens rest

/-- The tokens of a heading. -/
def Heading.tokens (heading : Heading) : List Token :=
  heading.name.val :: (classTokens heading.classes ++
    (match heading.parameters with
      | none => []
      | some list => list.tokens))

mutual

/-- The tokens of an item. -/
def Item.tokens : Item → List Token
  | .declaration declared => declared.tokens
  | .block heading opener items closer =>
    heading.tokens ++ opener.val :: (Item.tokensAll items ++ [closer.val])
  | .shorthand heading colon text => heading.tokens ++ [colon.val, text.val]
  | .value text => [text.val]
  | .decorator signs => [signs.token.val]

/-- The tokens of items, one after the other. -/
def Item.tokensAll : List Item → List Token
  | [] => []
  | item :: rest => item.tokens ++ Item.tokensAll rest

end

/-- The tokens of a script. -/
def Script.tokens (script : Script) : List Token := Item.tokensAll script.items

/-- The parameters of a list in order. -/
def ParameterList.toList (list : ParameterList) : List Parameter :=
  match list.parameters with
  | none => []
  | some (first, rest) => first :: rest.map Prod.snd

/-- The key and the value that a parameter writes. -/
def Parameter.pair (parameter : Parameter) : String × String :=
  (parameter.name.val.text, parameter.value.val.text)

/-- The parameters that a heading writes, in order. -/
def Heading.pairs (heading : Heading) : List (String × String) :=
  match heading.parameters with
  | none => []
  | some list => list.toList.map Parameter.pair

/-- The element that a component of the given name is shown as. -/
def elementOf : String → String
  | "Section" => "section"
  | "List" => "ul"
  | "ListItem" => "li"
  | _ => "div"

/-- The component that a heading denotes. -/
def Heading.component (heading : Heading) : Component where
  name := heading.name.val.text
  element := elementOf heading.name.val.text
  classes := heading.classes.map fun entry => entry.2.val.text
  parameters := .ofPairs heading.pairs
  attributes := ∅

/-- Whether a heading is that of a list. -/
def Heading.isList (heading : Heading) : Bool := heading.name.val.text == "List"

/-- A component with nothing but a name and an element. -/
def bare (name element : String) : Component := ⟨name, element, [], ∅, ∅⟩

/-- The node of a text: an item in a list, and a line elsewhere. -/
def Value.node (inList : Bool) (text : Value) : Node :=
  match inList with
  | true => .component (bare "ListItem" "li") [.literal text.val.text]
  | false => .component (bare "Line" "div") [.literal text.val.text]

/-- The node of a decoration. -/
def Decoration.node : Decoration → Node
  | lineBreak => .mark "BR" "br"
  | horizontalRule => .mark "HR" "hr"

mutual

/-- The nodes that an item adds to the component around it. The text of a short form stands in
the same block as the short form itself, so both depend on whether that block is a list's. -/
def Item.nodes (inList : Bool) : Item → List Node
  | .declaration _ => []
  | .block heading _ items _ =>
    [.component heading.component (Item.nodesAll heading.isList items)]
  | .shorthand heading _ text =>
    [.component heading.component [text.node inList]]
  | .value text => [text.node inList]
  | .decorator signs => [signs.decoration.node]

/-- The nodes that items add to the component around them. -/
def Item.nodesAll (inList : Bool) : List Item → List Node
  | [] => []
  | item :: rest => item.nodes inList ++ Item.nodesAll inList rest

end

/-- A value with the topic and the key that it is filed under. -/
structure Filing where
  topic : String
  key : String
  value : String
deriving DecidableEq, Repr

/-- The key and the value of what is filed under the given topic, which is written in any case of
letters. -/
def Filing.pair? (topic : String) (filing : Filing) : Option (String × String) :=
  if String.ofList (Text.lower filing.topic.toList) = topic then some (filing.key, filing.value)
  else none

/-- What a declaration files. -/
def Declaration.filing (declared : Declaration) : Filing :=
  ⟨declared.topic.val.text, declared.key.val.text, declared.value.val.text⟩

mutual

/-- What the declarations of an item file at any depth, in order. -/
def Item.filings : Item → List Filing
  | .declaration declared => [declared.filing]
  | .block _ _ items _ => Item.filingsAll items
  | .shorthand _ _ _ => []
  | .value _ => []
  | .decorator _ => []

/-- What the declarations of items file at any depth, in order. -/
def Item.filingsAll : List Item → List Filing
  | [] => []
  | item :: rest => item.filings ++ Item.filingsAll rest

end

/-- Writes a pair into a table of single values. -/
def configure (table : Table String) (pair : String × String) : Table String :=
  table.insert pair.1 pair.2

/-- Adds a pair to a table of lists, unless the list of its key has the value already. -/
def refer (table : Table (List String)) (pair : String × String) : Table (List String) :=
  let values := (table.get? pair.1).getD []
  table.insert pair.1 (if pair.2 ∈ values then values else values ++ [pair.2])

/-- A table after all that is filed under the topic has been written into it. -/
def filed {α : Type} (topic : String) (write : Table α → String × String → Table α)
    (table : Table α) (filings : List Filing) : Table α :=
  (filings.filterMap (Filing.pair? topic)).foldl write table

/-- Pages for components, with a break between any two. -/
def pages (components : List Node) : List Node :=
  (components.map fun node => .component (bare "PageWrapper" "div") [node]).intersperse
    (.component (bare "PageBreak" "div") [])

/-- The document that a script denotes. -/
def Script.document (script : Script) : Document where
  configurations := filed "configure" configure ∅ (Item.filingsAll script.items)
  references := filed "reference" refer ∅ (Item.filingsAll script.items)
  body := pages (Item.nodesAll false script.items)

end PageMarkup.Grammar
