import PageMarkup.Table

/-!
# The nodes of a document

A document is a tree of components. A component is shown as an element with classes, carries
parameters, and holds other components, literal texts and marks such as line breaks.
-/

namespace PageMarkup

/-- A component apart from what it holds. -/
structure Component where
  /-- The name of the component. -/
  name : String
  /-- The element it is shown as. -/
  element : String
  /-- The classes it was given, in order. -/
  classes : List String
  /-- Its parameters. -/
  parameters : Table String
  /-- The attributes of its element. -/
  attributes : Table String
deriving DecidableEq

namespace Component

/-- The name of the wrapper around each component outside all others. -/
def pageWrapper : String := "PageWrapper"

/-- The name of the component between two pages. -/
def pageBreak : String := "PageBreak"

/-- The name of the component whose texts are items. -/
def list : String := "List"

/-- The name of the wrapper around a text in a list. -/
def listItem : String := "ListItem"

/-- The name of the wrapper around any other text. -/
def line : String := "Line"

/-- The element that a component of the given name is shown as. -/
def elementFor (name : String) : String :=
  if name = "Section" then "section"
  else if name = list then "ul"
  else if name = listItem then "li"
  else "div"

/-- A component with nothing but a name. -/
def named (name : String) : Component := ⟨name, elementFor name, [], ∅, ∅⟩

end Component

/-- A node of the tree. -/
inductive Node where
  /-- A component with its children. -/
  | component (head : Component) (children : List Node)
  /-- A literal text. -/
  | literal (text : String)
  /-- A mark without content, with its name and its element. -/
  | mark (name element : String)

namespace Node

/-- A line break. -/
def lineBreak : Node := mark "BR" "br"

/-- A horizontal rule. -/
def horizontalRule : Node := mark "HR" "hr"

/-- The wrapper of a page. -/
def pageWrapper (child : Node) : Node := component (.named Component.pageWrapper) [child]

/-- What stands between two pages. -/
def pageBreak : Node := component (.named Component.pageBreak) []

/-- A text in its wrapper, which depends on whether the text stands in a list. -/
def wrapped (text : String) (inList : Bool) : Node :=
  component (.named (if inList then Component.listItem else Component.line)) [literal text]

/-- The name of a node that is a component. -/
def componentName? : Node → Option String
  | component head _ => some head.name
  | literal _ => none
  | mark _ _ => none

end Node

end PageMarkup
