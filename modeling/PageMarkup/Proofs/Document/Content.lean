import PageMarkup.Proofs.Document.Spine

/-!
# The content of a document

The content of a document is what its author wrote to be shown: the names of components, the texts
and the marks. It is read off the tree by a walk that visits a component before its children and
passes over the pages and over the wrappers of texts. A tree shows what its last branch shows and
then what is below the branch, so what is added at the end of the tree is added at the end of its
content.
-/

namespace PageMarkup

/-- One thing to be shown. -/
inductive Piece where
  /-- A component, by its name. -/
  | component (name : String)
  /-- A text. -/
  | literal (text : String)
  /-- A mark, by its name. -/
  | mark (name : String)
deriving DecidableEq, Repr

namespace Node

mutual

/-- What a node shows, a component before its children. The wrapper of a text shows the text
alone. -/
def pieces : Node → List Piece
  | component head children =>
    if children.any isLiteral then piecesAll children
    else .component head.name :: piecesAll children
  | literal text => [.literal text]
  | mark name _ => [.mark name]

/-- What nodes show, in order. -/
def piecesAll : List Node → List Piece
  | [] => []
  | node :: rest => node.pieces ++ piecesAll rest

end

/-- What a node outside all components shows. Pages and page breaks are no components of the
author's. -/
def pagePieces : Node → List Piece
  | component head children =>
    if head.name = Component.pageWrapper ∨ head.name = Component.pageBreak then piecesAll children
    else pieces (component head children)
  | node => node.pieces

/-- What nodes show one after the other. -/
theorem piecesAll_append (first second : List Node) :
    piecesAll (first ++ second) = piecesAll first ++ piecesAll second := by
  induction first with
  | nil => rfl
  | cons node rest ih => simp [piecesAll, ih]

/-- A component that holds no text of its own shows its name and then its children. -/
theorem pieces_component {children : List Node}
    (hchildren : ∀ node ∈ children, node.isLiteral = false) (head : Component) :
    pieces (component head children) = .component head.name :: piecesAll children := by
  have hany : children.any isLiteral = false := by simpa using hchildren
  rw [pieces, hany]
  rfl

/-- A text in its wrapper shows the text. -/
theorem pieces_wrapped (text : String) (inList : Bool) :
    (wrapped text inList).pieces = [.literal text] := by
  simp [wrapped, pieces, piecesAll, isLiteral]

end Node

/-- What a branch shows: before each of its components what stands before it. -/
def Frame.pieces (frames : List Frame) : List Piece :=
  frames.flatMap fun frame => Node.piecesAll frame.before ++ [.component frame.head.name]

/-- A tree shows what its last branch shows and then what is below the branch. -/
theorem Frame.piecesAll_plug {frames : List Frame} {nodes : List Node}
    (hframes : ∀ frame ∈ frames, ∀ node ∈ frame.before, node.isLiteral = false)
    (hnodes : ∀ node ∈ nodes, node.isLiteral = false) :
    Node.piecesAll (plug frames nodes) = pieces frames ++ Node.piecesAll nodes := by
  induction frames with
  | nil => rfl
  | cons frame rest ih =>
    rw [List.forall_mem_cons] at hframes
    have hbelow : ∀ node ∈ plug rest nodes, node.isLiteral = false :=
      wrapped_plug hframes.2 hnodes
    rw [plug_cons, Node.piecesAll_append, Node.piecesAll, Node.piecesAll,
      Node.pieces_component hbelow, ih hframes.2]
    simp [pieces]

namespace Document

/-- The content of a document. -/
def pieces (document : Document) : List Piece := document.body.flatMap Node.pagePieces

namespace Builder

variable {builder : Builder}

/-- The content of the document under construction. -/
def pieces (builder : Builder) : List Piece := builder.document.pieces

/-- The content does not depend on what is open. -/
theorem pieces_congr {other : Builder} (hbody : other.body = builder.body) :
    other.pieces = builder.pieces := by
  rw [pieces, pieces, Document.pieces, Document.pieces, document, document, hbody]

namespace Rooted

variable {pages nodes : List Node} {middle : List Frame} {inner : Frame}

/-- The content is that of the pages before the last one, of the branch, and of what is below. -/
theorem pieces_eq (h : builder.Rooted pages middle inner nodes) :
    builder.pieces = pages.flatMap Node.pagePieces ++ Frame.pieces (middle ++ [inner]) ++
      Node.piecesAll nodes := by
  have hbelow := Frame.piecesAll_plug h.wrapped_frames h.wrapped_nodes
  rw [Builder.pieces, Document.pieces, document, h.body]
  simp [Node.pagePieces, Component.named, hbelow]

end Rooted

end Builder

end Document

end PageMarkup
