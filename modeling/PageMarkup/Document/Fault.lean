import PageMarkup.Diagnostic

/-!
# Syntactic faults

The reasons why tokens cannot be read as a document, and their wording.
-/

namespace PageMarkup.Document

/-- What can be given to a component. -/
inductive Attachment where
  | className
  | parameter
  | literal
  | decorator
deriving DecidableEq, Repr

/-- The word for an attachment. -/
def Attachment.noun : Attachment → String
  | className => "Class name"
  | parameter => "Parameter"
  | literal => "Literal"
  | decorator => "Decorator"

/-- Why tokens cannot be read as a document. -/
inductive Fault where
  /-- There is no component to attach something to. -/
  | outside (what : Attachment)
  /-- A block is opened where there is no component to open. -/
  | nothingToOpen
  /-- A decorator has no meaning. -/
  | unknownDecorator (text : String)
  /-- A declaration has a value before it has a topic and a key. -/
  | incompleteDeclaration
  /-- The path to the current component leads nowhere. -/
  | lostComponent
  /-- The path to the enclosing component leads nowhere. -/
  | lostEnclosing
deriving DecidableEq, Repr

namespace Fault

/-- The wording of a fault. -/
def message : Fault → String
  | outside what => what.noun ++ " outside of any component"
  | nothingToOpen => "'[' without a component to open"
  | unknownDecorator text => "Unknown decorator /" ++ text ++ "/"
  | incompleteDeclaration => "Incomplete declaration; expected @Directive key: value"
  | lostComponent => "Lost track of the open component"
  | lostEnclosing => "Lost track of the enclosing component"

/-- The diagnostic of a fault at its place. -/
def diagnostic (fault : Located Fault) : Diagnostic :=
  .syntactic fault.value.message fault.position

end Fault

end PageMarkup.Document
