import PageMarkup.Diagnostic
import PageMarkup.Document.Basic
import PageMarkup.Text.Blank
import PageMarkup.Text.Case

/-!
# Documents as HTML

A component becomes an element whose class attribute holds its name, its own classes and one class
for each parameter. Names are written after a common lead so that they stay apart from other
classes of a page. Texts are written as they are.
-/

namespace PageMarkup

/-- How HTML is written. -/
structure HtmlOptions where
  /-- What every class made from a name begins with. -/
  classLead : String := "ns-"
deriving DecidableEq, Repr

namespace Component

/-- The class of a component's own name. -/
def nameClass (options : HtmlOptions) (component : Component) : String :=
  options.classLead ++ component.name

/-- The class of a parameter: the name of the component, then key and value in upper case. -/
def parameterClass (options : HtmlOptions) (component : Component)
    (parameter : String × String) : String :=
  component.nameClass options ++ "-" ++ String.ofList (Text.upper parameter.1.toList) ++ "-"
    ++ String.ofList (Text.upper parameter.2.toList)

/-- All classes of a component, in order. -/
def htmlClasses (options : HtmlOptions) (component : Component) : List String :=
  component.nameClass options ::
    (component.classes ++ component.parameters.entries.map (component.parameterClass options))

/-- The value of the class attribute. -/
def classText (options : HtmlOptions) (component : Component) : String :=
  " ".intercalate (component.htmlClasses options)

/-- The attributes other than the class, each after a space. -/
def attributeText : List (String × String) → String
  | [] => ""
  | (name, value) :: rest => " " ++ name ++ "=\"" ++ value ++ "\"" ++ attributeText rest

/-- The start tag. -/
def startTag (options : HtmlOptions) (component : Component) : String :=
  "<" ++ component.element ++ " class=\"" ++ component.classText options ++ "\""
    ++ attributeText component.attributes.entries ++ ">"

/-- The end tag. -/
def endTag (component : Component) : String := "</" ++ component.element ++ ">"

end Component

mutual

/-- A node as HTML. -/
def Node.html (options : HtmlOptions) : Node → String
  | .component head children =>
    head.startTag options ++ Node.htmlAll options children ++ head.endTag
  | .literal text => text
  | .mark name element => "<" ++ element ++ " class=\"" ++ options.classLead ++ name ++ "\"/>"

/-- Nodes as HTML, one after the other. -/
def Node.htmlAll (options : HtmlOptions) : List Node → String
  | [] => ""
  | node :: rest => Node.html options node ++ Node.htmlAll options rest

end

/-- The body of a document as HTML, without white space around it. -/
def Document.html (options : HtmlOptions) (document : Document) : String :=
  String.ofList (Text.trim (Node.htmlAll options document.body).toList)

/-- The forms that a document can be written in. -/
inductive Target where
  | html
deriving DecidableEq, Repr

namespace Target

/-- Why there is no target of a name. -/
inductive Fault where
  /-- No name is given. -/
  | missing
  /-- The name is that of no target. -/
  | unsupported (name : String)
deriving DecidableEq, Repr

namespace Fault

/-- The wording of a fault. -/
def message : Fault → String
  | missing => "No generation target given"
  | unsupported name => "Unsupported generation target '" ++ name ++ "'"

/-- The diagnostic of a fault. -/
def diagnostic (fault : Fault) : Diagnostic := .generation fault.message

end Fault

/-- The target of a name, where capitals count as small letters. -/
def ofName (name : String) : Except Fault Target :=
  if name.toList.map Char.toLower = "html".toList then .ok html
  else if name = "" then .error .missing
  else .error (.unsupported name)

end Target

/-- The document written in the form of a named target. -/
def Document.generate (options : HtmlOptions) (document : Document) (target : String) :
    Except Target.Fault String := do
  match ← Target.ofName target with
  | .html => return document.html options

end PageMarkup
