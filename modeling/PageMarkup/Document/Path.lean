import PageMarkup.Document.Node

/-!
# Paths to components

A path leads from a list of nodes to a component below it: its first index chooses one of the
nodes, each further index a child of the component reached so far.
-/

namespace PageMarkup

/-- Indices that lead to a component. -/
abbrev Path := List Nat

namespace Node

/-- The component that a path leads to, with its children. -/
def at? : List Node → Path → Option (Component × List Node)
  | _, [] => none
  | nodes, index :: path =>
    match nodes[index]? with
    | some (component head children) =>
      if path = [] then some (head, children) else at? children path
    | _ => none

/-- The nodes after a change of the component that a path leads to. -/
def modifyAt? (change : Component → List Node → Node) : List Node → Path → Option (List Node)
  | _, [] => none
  | nodes, index :: path =>
    match nodes[index]? with
    | some (component head children) =>
      if path = [] then some (nodes.set index (change head children))
      else (modifyAt? change children path).map fun changed =>
        nodes.set index (component head changed)
    | _ => none

end Node

end PageMarkup
