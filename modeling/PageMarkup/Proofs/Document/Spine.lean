import PageMarkup.Proofs.Document.Focus

/-!
# What is open lies on the last branch

Whatever tokens have been read, the current component and the components of all open blocks lie on
the last branch of the tree: each block belongs to the component of the block around it or to a
child of that component, and the current component stands to the innermost block in the same way.
So the builder always finds the component that it looks for, and it adds nodes only at the end.
-/

namespace PageMarkup

/-- Whether a node is a text without its wrapper. -/
def Node.isLiteral : Node → Bool
  | literal _ => true
  | component _ _ | mark _ _ => false

/-- The nodes below a branch are no texts without wrappers if those beside the branch are none. -/
theorem Frame.wrapped_plug {frames : List Frame} {nodes : List Node}
    (hframes : ∀ frame ∈ frames, ∀ node ∈ frame.before, node.isLiteral = false)
    (hnodes : ∀ node ∈ nodes, node.isLiteral = false) :
    ∀ node ∈ plug frames nodes, node.isLiteral = false := by
  cases frames with
  | nil => exact hnodes
  | cons frame rest =>
    rw [plug_cons, List.forall_mem_append, List.forall_mem_singleton]
    exact ⟨hframes frame List.mem_cons_self, rfl⟩

namespace Document

/-- The paths of the open blocks, innermost first, fit the path of the current component. Outside
all blocks this is the component of a page. -/
inductive Nested : List Path → Path → Prop
  | page (index : Nat) : Nested [] [index, 0]
  | same {blocks : List Path} {path : Path} (h : Nested blocks path) : Nested (path :: blocks) path
  | child {blocks : List Path} {path : Path} (h : Nested blocks path) (index : Nat) :
    Nested (path :: blocks) (path ++ [index])

namespace Nested

variable {blocks : List Path} {path current : Path}

/-- The innermost block fits the blocks around it. -/
theorem tail (h : Nested (path :: blocks) current) : Nested blocks path := by
  cases h with
  | same h => exact h
  | child h index => exact h

/-- Where a component is current that fits the blocks, the innermost block's own component fits
them too. -/
theorem of_head? (h : Nested blocks current) (hpath : blocks.head? = some path) :
    Nested blocks path := by
  obtain ⟨rest, rfl⟩ := List.head?_eq_some_iff.mp hpath
  exact .same h.tail

/-- The innermost block lies above the current component. -/
theorem isPrefix_of_head? (h : Nested blocks current) (hpath : blocks.head? = some path) :
    path <+: current := by
  obtain ⟨rest, rfl⟩ := List.head?_eq_some_iff.mp hpath
  cases h with
  | same h => exact List.prefix_rfl
  | child h index => exact List.prefix_append _ _

/-- A path that fits blocks leads at least through a page to its component. -/
theorem two_le_length (h : Nested blocks current) : 2 ≤ current.length := by
  induction h with
  | page index => exact Nat.le_refl 2
  | same h ih => exact ih
  | child h index ih =>
    rw [List.length_append]
    omega

end Nested

namespace Builder

variable {builder : Builder}

/-- The current component lies on the last branch, in the page that follows the given nodes, and
the open blocks fit it. No component on the branch holds a text without its wrapper. -/
structure Rooted (builder : Builder) (pages : List Node) (middle : List Frame) (inner : Frame)
    (nodes : List Node) : Prop extends
    Focus builder (⟨pages, .named Component.pageWrapper⟩ :: middle) inner nodes where
  nested : Nested builder.blocks
    (Frame.path (⟨pages, .named Component.pageWrapper⟩ :: middle ++ [inner]))
  wrapped_frames : ∀ frame ∈ middle ++ [inner], ∀ node ∈ frame.before, node.isLiteral = false
  wrapped_nodes : ∀ node ∈ nodes, node.isLiteral = false

/-- Nothing is open, or the current component lies on the last branch. -/
inductive Tracked (builder : Builder) : Prop
  | idle (hblocks : builder.blocks = []) (hcurrent : builder.current = none)
  | rooted {pages : List Node} {middle : List Frame} {inner : Frame} {nodes : List Node}
    (h : builder.Rooted pages middle inner nodes)

/-- What is tracked are the tree, the blocks and the current component alone. -/
theorem Tracked.congr {other : Builder} (h : builder.Tracked) (hbody : other.body = builder.body)
    (hblocks : other.blocks = builder.blocks) (hcurrent : other.current = builder.current) :
    other.Tracked := by
  cases h with
  | idle hnone hidle => exact .idle (hblocks.trans hnone) (hcurrent.trans hidle)
  | rooted h =>
    exact .rooted
      { body := hbody.trans h.body
        current := hcurrent.trans h.current
        nested := hblocks ▸ h.nested
        wrapped_frames := h.wrapped_frames
        wrapped_nodes := h.wrapped_nodes }

/-- Where there is a current component, it lies on the last branch. -/
theorem Tracked.exists_rooted (h : builder.Tracked) {path : Path}
    (hcurrent : builder.current = some path) :
    ∃ pages middle inner nodes, builder.Rooted pages middle inner nodes := by
  cases h with
  | idle hblocks hidle => simp [hidle] at hcurrent
  | rooted h => exact ⟨_, _, _, _, h⟩

namespace Rooted

variable {pages nodes : List Node} {middle : List Frame} {inner : Frame}

/-- Whatever is added to the current component or changed in it, it stays where it is. -/
theorem change (h : builder.Rooted pages middle inner nodes) (head : Component)
    {children : List Node} (hchildren : ∀ node ∈ children, node.isLiteral = false) :
    (builder.withTree (⟨pages, .named Component.pageWrapper⟩ :: middle ++ [⟨inner.before, head⟩])
      children).Rooted pages middle ⟨inner.before, head⟩ children where
  toFocus := h.toFocus.change head children
  nested := by
    change Nested builder.blocks _
    simpa using h.nested
  wrapped_frames := by
    have hframes := h.wrapped_frames
    rw [List.forall_mem_append, List.forall_mem_singleton] at hframes ⊢
    exact hframes
  wrapped_nodes := hchildren

/-- Going back to a component further up the branch keeps to the branch. -/
theorem ascend (h : builder.Rooted pages middle inner nodes) {blocks : List Path} {path : Path}
    (hnested : Nested blocks path)
    (habove : path <+: Frame.path (⟨pages, .named Component.pageWrapper⟩ :: middle ++ [inner])) :
    Tracked { builder with blocks := blocks, current := some path } := by
  -- The path leads along the first frames of the branch; what is below them becomes nodes.
  obtain ⟨rest, hpath⟩ := habove
  obtain ⟨upper, lower, hframes, hupper, -⟩ := List.map_eq_append_iff.mp hpath.symm
  obtain _ | ⟨page, below⟩ := upper
  · simpa [← hupper] using hnested.two_le_length
  obtain rfl | ⟨outer, last, rfl⟩ := List.eq_nil_or_concat below
  · simpa [← hupper] using hnested.two_le_length
  obtain ⟨rfl, hbranch⟩ :
      (⟨pages, .named Component.pageWrapper⟩ : Frame) = page ∧
        middle ++ [inner] = outer ++ [last] ++ lower := by
    simpa using hframes
  have hlast : path =
      Frame.path (⟨pages, .named Component.pageWrapper⟩ :: outer ++ [last]) := by
    rw [← hupper]
    simp [Frame.path]
  have hwrapped := h.wrapped_frames
  rw [hbranch, List.forall_mem_append] at hwrapped
  have hrooted : Rooted { builder with blocks := blocks, current := some path } pages outer last
      (Frame.plug lower nodes) :=
    { body := by
        change builder.body = _
        rw [h.body, List.cons_append, hbranch, ← Frame.plug_append]
        rfl
      current := congrArg some hlast
      nested := hlast ▸ hnested
      wrapped_frames := hwrapped.1
      wrapped_nodes := Frame.wrapped_plug hwrapped.2 h.wrapped_nodes }
  exact .rooted hrooted

end Rooted

/-- The builder of the empty document is tracked. -/
theorem tracked_empty : Tracked {} := .idle rfl rfl

/-- Going back to the component of the innermost block keeps to the branch. -/
theorem Tracked.toBlock (h : builder.Tracked) :
    Tracked { builder with current := builder.blocks.head? } := by
  cases h with
  | idle hblocks hcurrent =>
    refine .idle hblocks ?_
    rw [hblocks]
    rfl
  | rooted h =>
    cases hblock : builder.blocks.head? with
    | none => exact .idle (List.head?_eq_none_iff.mp hblock) rfl
    | some path => exact h.ascend (h.nested.of_head? hblock) (h.nested.isPrefix_of_head? hblock)

/-- The component of the innermost block lies on the branch. -/
theorem Tracked.exists_block (h : builder.Tracked) {path : Path}
    (hblock : builder.blocks.head? = some path) :
    ∃ pages middle inner nodes,
      Rooted { builder with current := some path } pages middle inner nodes := by
  have htracked := h.toBlock
  rw [hblock] at htracked
  exact htracked.exists_rooted rfl

/-- A component that begins a page is on the branch. -/
theorem rooted_begun_page (hblocks : builder.blocks = []) (pages : List Node) (name : String) :
    (builder.begun [⟨pages, .named Component.pageWrapper⟩] [] (.named name)).Rooted pages []
      ⟨[], .named name⟩ [] where
  toFocus := focus_begun _ _ _ _
  nested := by
    change Nested builder.blocks [pages.length, 0]
    rw [hblocks]
    exact .page pages.length
  wrapped_frames := by simp
  wrapped_nodes := by simp

/-- A component that begins in a block is on the branch. -/
theorem rooted_begun_block {path : Path} (hblock : builder.blocks.head? = some path)
    {pages nodes : List Node} {middle : List Frame} {inner : Frame}
    (h : Rooted { builder with current := some path } pages middle inner nodes) (name : String) :
    (builder.begun (⟨pages, .named Component.pageWrapper⟩ :: middle ++ [inner]) nodes
      (.named name)).Rooted pages (middle ++ [inner]) ⟨nodes, .named name⟩ [] where
  toFocus := focus_begun _ _ _ _
  nested := by
    obtain ⟨rest, hblocks⟩ := List.head?_eq_some_iff.mp hblock
    have hpath : path =
        Frame.path (⟨pages, .named Component.pageWrapper⟩ :: middle ++ [inner]) := by
      simpa using h.current
    have hnested : Nested (path :: rest) path := by
      rw [← hblocks, hpath]
      exact h.nested
    change Nested builder.blocks _
    rw [hblocks]
    simpa [hpath] using hnested.tail.child nodes.length
  wrapped_frames := by
    rw [List.forall_mem_append, List.forall_mem_singleton]
    exact ⟨h.wrapped_frames, h.wrapped_nodes⟩
  wrapped_nodes := by simp

/-- A block opens on the branch. -/
theorem Tracked.openBlock (h : builder.Tracked) {next : Builder}
    (hopen : builder.openBlock = .ok next) : next.Tracked := by
  unfold Builder.openBlock at hopen
  split at hopen
  · cases hopen
  · next path hcurrent =>
    cases hopen
    obtain ⟨pages, middle, inner, nodes, hrooted⟩ := h.exists_rooted hcurrent
    have hpath : path =
        Frame.path (⟨pages, .named Component.pageWrapper⟩ :: middle ++ [inner]) := by
      simpa [hcurrent] using hrooted.current
    exact .rooted
      { body := hrooted.body
        current := hrooted.current
        nested := hpath ▸ hrooted.nested.same
        wrapped_frames := hrooted.wrapped_frames
        wrapped_nodes := hrooted.wrapped_nodes }

/-- Closing a block keeps to the branch. -/
theorem Tracked.closeBlock (h : builder.Tracked) : builder.closeBlock.Tracked := by
  cases hblocks : builder.blocks with
  | nil =>
    refine .idle ?_ ?_
    · simp [Builder.closeBlock, hblocks]
    · simp [Builder.closeBlock, hblocks]
  | cons path rest =>
    have hblock : builder.blocks.head? = some path := by simp [hblocks]
    obtain ⟨pages, middle, inner, nodes, hrooted⟩ := h.exists_block hblock
    have hpath : path =
        Frame.path (⟨pages, .named Component.pageWrapper⟩ :: middle ++ [inner]) := by
      simpa using hrooted.current
    have hnested : Nested rest path := by
      have hblocks' : Nested builder.blocks path := hpath ▸ hrooted.nested
      rw [hblocks] at hblocks'
      exact hblocks'.tail
    have hclosed : Tracked { builder with blocks := rest, current := some path } :=
      hrooted.ascend hnested (hpath ▸ List.prefix_rfl)
    refine hclosed.toBlock.congr rfl ?_ ?_
    · simp [Builder.closeBlock, hblocks]
    · simp [Builder.closeBlock, hblocks]

/-- A change of the current component is a change of the innermost frame of the branch. -/
theorem Tracked.exists_attached (h : builder.Tracked) {what : Attachment}
    {changeHead : Component → Component} {changeNodes : List Node → List Node} {next : Builder}
    (hattach : (builder.attach what fun head children =>
      .component (changeHead head) (changeNodes children)) = .ok next) :
    ∃ pages middle inner nodes, builder.Rooted pages middle inner nodes ∧
      next = builder.withTree
        (⟨pages, .named Component.pageWrapper⟩ :: middle ++
          [⟨inner.before, changeHead inner.head⟩]) (changeNodes nodes) := by
  cases hcurrent : builder.current with
  | none => simp [attach, hcurrent] at hattach
  | some path =>
    obtain ⟨pages, middle, inner, nodes, hrooted⟩ := h.exists_rooted hcurrent
    rw [hrooted.attach] at hattach
    exact ⟨pages, middle, inner, nodes, hrooted, (Except.ok.inj hattach).symm⟩

end Builder

end Document

end PageMarkup
