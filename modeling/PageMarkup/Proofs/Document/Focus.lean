import PageMarkup.Document.Builder
import PageMarkup.Proofs.Document.Branch

/-!
# The component in focus

What a token is given to is the current component, which the builder names by its path. While
the path leads along the last branch of the tree, a change of the current component is a change
of the innermost frame of this branch, and all else stays as it is. A component begins as a new
frame: on a page of its own outside all blocks, and else after the nodes of the innermost block.
-/

namespace PageMarkup.Document.Builder

variable {builder : Builder}

/-- A token that is accepted is followed by the tokens after it. -/
theorem run_cons_of_accept {next : Builder} {token : Token} {kind : TokenKind}
    (hkind : token.kind = kind) (haccept : builder.accept kind token.text = .ok next)
    (tokens : List Token) : builder.run (token :: tokens) = next.run tokens := by
  subst hkind
  rw [run_cons, read, haccept]
  rfl

/-- Without a dot there is nothing to forget. -/
theorem accept_of_not_dotted (hdotted : builder.dotted = false) (kind : TokenKind)
    (text : String) : builder.accept kind text = builder.dispatch text kind := by
  have hsettle : builder.settle kind = builder := by
    cases builder
    cases hdotted
    simp [settle]
  rw [accept, hsettle]

/-- The builder with another tree, given by its last branch. -/
def withTree (builder : Builder) (frames : List Frame) (nodes : List Node) : Builder :=
  { builder with body := Frame.plug frames nodes }

/-- The current component lies on the last branch and holds the given nodes. -/
structure Focus (builder : Builder) (outer : List Frame) (inner : Frame) (nodes : List Node) :
    Prop where
  body : builder.body = Frame.plug (outer ++ [inner]) nodes
  current : builder.current = some (Frame.path (outer ++ [inner]))

namespace Focus

variable {outer : List Frame} {inner : Frame} {nodes : List Node}

/-- The tree of a builder in focus is that of its last branch. -/
theorem withTree_eq (focus : builder.Focus outer inner nodes) :
    builder.withTree (outer ++ [inner]) nodes = builder := by
  rw [withTree, ← focus.body]

/-- A change of the current component changes the innermost frame. -/
theorem attach (focus : builder.Focus outer inner nodes) (what : Attachment)
    (changeHead : Component → Component) (changeNodes : List Node → List Node) :
    (builder.attach what fun head children =>
        .component (changeHead head) (changeNodes children)) =
      .ok (builder.withTree (outer ++ [⟨inner.before, changeHead inner.head⟩])
        (changeNodes nodes)) := by
  unfold Builder.attach withTree
  simp only [focus.current, focus.body, Frame.modifyAt?_plug]
  simp only [Frame.plug_append, Frame.plug_cons, Frame.plug_nil]

/-- Adding a node to the current component adds it below the last branch. -/
theorem append (focus : builder.Focus outer inner nodes) (what : Attachment) (node : Node) :
    builder.append what node = .ok (builder.withTree (outer ++ [inner]) (nodes ++ [node])) :=
  focus.attach what id (· ++ [node])

/-- Whatever changes in the current component, it stays in focus. -/
theorem change (focus : builder.Focus outer inner nodes) (head : Component)
    (children : List Node) :
    (builder.withTree (outer ++ [⟨inner.before, head⟩]) children).Focus outer
      ⟨inner.before, head⟩ children where
  body := rfl
  current := by
    change builder.current = _
    simpa using focus.current

end Focus

/-- The builder after the heading of a component at the end of the given branch. -/
def begun (builder : Builder) (outer : List Frame) (before : List Node) (head : Component) :
    Builder :=
  { builder with
    body := Frame.plug (outer ++ [⟨before, head⟩]) []
    contexts := .component :: builder.contexts
    current := some (Frame.path (outer ++ [⟨before, head⟩])) }

/-- A component that has begun is in focus. -/
theorem focus_begun (builder : Builder) (outer : List Frame) (before : List Node)
    (head : Component) : (builder.begun outer before head).Focus outer ⟨before, head⟩ [] :=
  ⟨rfl, rfl⟩

/-- Changing the component of a heading is the same as beginning with another one. -/
theorem withTree_begun (builder : Builder) (outer : List Frame) (before : List Node)
    (head changed : Component) :
    (builder.begun outer before head).withTree (outer ++ [⟨before, changed⟩]) [] =
      builder.begun outer before changed := by
  simp [begun, withTree]

/-- Outside all blocks a component begins a page. -/
theorem beginComponent_page (hblocks : builder.blocks = []) (name : String) :
    builder.beginComponent name =
      .ok (builder.begun
        [⟨if builder.body = [] then [] else builder.body ++ [.pageBreak],
          .named Component.pageWrapper⟩] [] (.named name)) := by
  rw [beginComponent, begun, hblocks]
  rfl

/-- In a block a component begins at the end of the block. -/
theorem beginComponent_block {outer : List Frame} {inner : Frame} {nodes : List Node}
    (hbody : builder.body = Frame.plug (outer ++ [inner]) nodes)
    (hblock : builder.blocks.head? = some (Frame.path (outer ++ [inner]))) (name : String) :
    builder.beginComponent name =
      .ok (builder.begun (outer ++ [inner]) nodes (.named name)) := by
  cases hblocks : builder.blocks with
  | nil => simp [hblocks] at hblock
  | cons path rest =>
    have hpath : path = Frame.path (outer ++ [inner]) := by simpa [hblocks] using hblock
    rw [beginComponent, hblocks]
    simp only [hpath, hbody, Frame.at?_plug, Frame.modifyAt?_plug]
    simp only [begun, hblocks, hpath, Frame.plug_append, Frame.plug_cons, Frame.plug_nil,
      Frame.path_append, Frame.path_cons, Frame.path_nil]

end PageMarkup.Document.Builder
