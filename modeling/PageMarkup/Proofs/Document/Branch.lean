import PageMarkup.Document.Path

/-!
# The last branch of a tree

Nodes are only ever added at the end, so the components that can still change form a branch that
always takes the last child. A frame is one component of this branch with the nodes before it;
frames, outermost first, and the nodes below the innermost of them make up the whole tree. The
path that leads along the branch reaches its innermost component, and a change there leaves the
frames around it alone.
-/

namespace PageMarkup

/-- A component on the last branch, without its children. -/
structure Frame where
  /-- The nodes that stand before the component. -/
  before : List Node
  /-- The component itself. -/
  head : Component

namespace Frame

/-- The tree whose last branch consists of the frames, with the given nodes below it. -/
def plug : List Frame → List Node → List Node
  | [], nodes => nodes
  | frame :: rest, nodes => frame.before ++ [.component frame.head (plug rest nodes)]

/-- The path that leads along the frames. -/
def path (frames : List Frame) : Path := frames.map fun frame => frame.before.length

@[simp]
theorem plug_nil (nodes : List Node) : plug [] nodes = nodes := rfl

@[simp]
theorem plug_cons (frame : Frame) (rest : List Frame) (nodes : List Node) :
    plug (frame :: rest) nodes = frame.before ++ [.component frame.head (plug rest nodes)] := rfl

/-- The frames of a branch can be cut anywhere. -/
theorem plug_append (outer inner : List Frame) (nodes : List Node) :
    plug (outer ++ inner) nodes = plug outer (plug inner nodes) := by
  induction outer with
  | nil => rfl
  | cons frame rest ih => simp [ih]

@[simp]
theorem path_nil : path [] = [] := rfl

/-- The path of a branch that is cut is the path of its first part and then that of the rest. -/
@[simp]
theorem path_append (outer inner : List Frame) :
    path (outer ++ inner) = path outer ++ path inner := by
  simp [path]

@[simp]
theorem path_cons (frame : Frame) (rest : List Frame) :
    path (frame :: rest) = frame.before.length :: path rest := rfl

/-- The path along a branch finds the branch's innermost component. -/
theorem at?_plug (outer : List Frame) (inner : Frame) (nodes : List Node) :
    Node.at? (plug (outer ++ [inner]) nodes) (path (outer ++ [inner])) =
      some (inner.head, nodes) := by
  induction outer with
  | nil => simp [Node.at?]
  | cons frame rest ih =>
    have hpath : path (rest ++ [inner]) ≠ [] := by simp
    simp only [List.cons_append, plug_cons, path_cons, Node.at?, List.getElem?_concat_length,
      if_neg hpath]
    exact ih

/-- A change at the end of the path replaces the branch's innermost component. -/
theorem modifyAt?_plug (change : Component → List Node → Node) (outer : List Frame)
    (inner : Frame) (nodes : List Node) :
    Node.modifyAt? change (plug (outer ++ [inner]) nodes) (path (outer ++ [inner])) =
      some (plug outer (inner.before ++ [change inner.head nodes])) := by
  induction outer with
  | nil => simp [Node.modifyAt?]
  | cons frame rest ih =>
    have hpath : path (rest ++ [inner]) ≠ [] := by simp
    simp only [List.cons_append, plug_cons, path_cons, Node.modifyAt?,
      List.getElem?_concat_length, if_neg hpath]
    rw [ih]
    simp

end Frame

end PageMarkup
