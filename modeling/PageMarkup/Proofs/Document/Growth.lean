import PageMarkup.Proofs.Document.Effect

/-!
# Trees only grow

While tokens are read, nothing in the tree is taken away or moved: a component keeps its name and
its place, and what it holds stays where it is, with further nodes behind it. Only the wrapper of a
text stays just as it is. So a path that leads to a component leads to this component ever after.
Outside all components there are only pages, each with one component, and the breaks between them.
-/

namespace PageMarkup

/-- The second nodes are the first ones, grown: components other than wrappers of texts may hold
more, or have got classes and parameters, and further nodes may follow. -/
inductive Grown : List Node → List Node → Prop
  | nil (nodes : List Node) : Grown [] nodes
  | same (node : Node) {old new : List Node} (hrest : Grown old new) :
    Grown (node :: old) (node :: new)
  | component {before after : Component} {children grown old new : List Node}
    (hname : after.name = before.name) (hplain : ∀ child ∈ children, child.isLiteral = false)
    (hchildren : Grown children grown) (hrest : Grown old new) :
    Grown (.component before children :: old) (.component after grown :: new)

namespace Grown

variable {old new : List Node}

/-- Further nodes may follow. -/
theorem append_right (nodes more : List Node) : Grown nodes (nodes ++ more) := by
  induction nodes with
  | nil => exact .nil more
  | cons node rest ih => exact .same node ih

/-- Nodes that stay as they are have grown. -/
theorem refl (nodes : List Node) : Grown nodes nodes := by
  simpa using append_right nodes []

/-- Nodes that stay as they are can stand before nodes that grow. -/
theorem append_left (before : List Node) (h : Grown old new) :
    Grown (before ++ old) (before ++ new) := by
  induction before with
  | nil => exact h
  | cons node rest ih => exact .same node ih

/-- What grows twice has grown. -/
theorem trans {final : List Node} (hfirst : Grown old new) (hsecond : Grown new final) :
    Grown old final := by
  induction hfirst generalizing final with
  | nil nodes => exact .nil final
  | same node hrest ih =>
    cases hsecond with
    | same _ hlater => exact .same node (ih hlater)
    | component hname hplain hchildren hlater =>
      exact .component hname hplain hchildren (ih hlater)
  | component hname hplain hchildren hrest ihchildren ihrest =>
    cases hsecond with
    | same _ hlater => exact .component hname hplain hchildren (ihrest hlater)
    | component hname' _ hchildren' hlater =>
      exact .component (hname'.trans hname) hplain (ihchildren hchildren') (ihrest hlater)

/-- A tree grows with what is below its last branch. -/
theorem plug {frames : List Frame}
    (hframes : ∀ frame ∈ frames, ∀ node ∈ frame.before, node.isLiteral = false)
    (hold : ∀ node ∈ old, node.isLiteral = false) (h : Grown old new) :
    Grown (Frame.plug frames old) (Frame.plug frames new) := by
  induction frames with
  | nil => exact h
  | cons frame rest ih =>
    rw [List.forall_mem_cons] at hframes
    exact append_left _
      (.component rfl (Frame.wrapped_plug hframes.2 hold) (ih hframes.2) (.nil []))

/-- A node that has grown is in its old place: it is the same, or a component of the same name that
holds what has grown. -/
theorem getElem? (h : Grown old new) {index : Nat} {node : Node} (hnode : old[index]? = some node) :
    new[index]? = some node ∨
      ∃ before after children grown, node = .component before children ∧
        (∀ child ∈ children, child.isLiteral = false) ∧
        new[index]? = some (.component after grown) ∧ after.name = before.name ∧
        Grown children grown := by
  induction h generalizing index with
  | nil nodes => simp at hnode
  | same first hrest ih =>
    cases index with
    | zero => exact .inl hnode
    | succ index => exact ih hnode
  | component hname hplain hchildren hrest _ ih =>
    cases index with
    | zero =>
      cases hnode
      exact .inr ⟨_, _, _, _, rfl, hplain, rfl, hname, hchildren⟩
    | succ index => exact ih hnode

/-- A component that has grown is a component of the same name in its old place. -/
theorem getElem?_component (h : Grown old new) {index : Nat} {head : Component}
    {children : List Node} (hnode : old[index]? = some (.component head children)) :
    ∃ after grown, new[index]? = some (.component after grown) ∧ after.name = head.name ∧
      Grown children grown := by
  obtain hsame | ⟨_, after, _, grown, hcomponent, -, hafter, hname, hgrown⟩ := h.getElem? hnode
  · exact ⟨head, children, hsame, rfl, refl children⟩
  · cases hcomponent
    exact ⟨after, grown, hafter, hname, hgrown⟩

/-- A text in its wrapper stays as it is, and so does a mark. -/
theorem getElem?_content (h : Grown old new) {index : Nat} {node : Node}
    (hnode : old[index]? = some node)
    (hcontent : ∀ head children, node = .component head children →
      ∃ child ∈ children, child.isLiteral = true) : new[index]? = some node := by
  obtain hsame | ⟨head, _, children, _, hcomponent, hplain, -⟩ := h.getElem? hnode
  · exact hsame
  · obtain ⟨child, hchild, hliteral⟩ := hcontent head children hcomponent
    rw [hplain child hchild] at hliteral
    cases hliteral

/-- A path that leads to a component leads to it ever after. -/
theorem at? (h : Grown old new) {path : Path} {head : Component} {children : List Node}
    (hat : Node.at? old path = some (head, children)) :
    ∃ after grown, Node.at? new path = some (after, grown) ∧ after.name = head.name ∧
      Grown children grown := by
  induction path generalizing old new with
  | nil => cases hat
  | cons index rest ih =>
    simp only [Node.at?] at hat
    split at hat
    · next before nodes hnode =>
      obtain ⟨after, grown, hafter, hname, hgrown⟩ := h.getElem?_component hnode
      simp only [Node.at?, hafter]
      by_cases hrest : rest = []
      · simp only [if_pos hrest] at hat ⊢
        cases hat
        exact ⟨after, grown, rfl, hname, hgrown⟩
      · simp only [if_neg hrest] at hat ⊢
        exact ih hgrown hat
    · cases hat

end Grown

/-- An amendment makes the tree grow. -/
theorem Amended.grown {amendment : Amendment} {path : Path} {old new : List Node}
    (h : Amended amendment path old new) : Grown old new := by
  obtain ⟨pages, middle, inner, nodes, hframes, hplain⟩ := h
  have hhead : (amendment.head inner.head).name = inner.head.name := by cases amendment <;> rfl
  have hnodes : Grown nodes (amendment.nodes nodes) := by
    cases amendment with
    | className name => exact .refl nodes
    | parameter key value => exact .refl nodes
    | node added => exact .append_right nodes [added]
  have hbelow := Frame.wrapped_plug hframes hplain
  rw [List.forall_mem_append, List.forall_mem_singleton] at hframes
  have hinner : ∀ node ∈ Frame.plug [inner] nodes, node.isLiteral = false :=
    Frame.wrapped_plug (by simpa using hframes.2) hplain
  rw [List.cons_append, List.cons_append, Frame.plug_cons, Frame.plug_cons]
  refine .append_left pages (.component rfl hbelow ?_ (.nil []))
  rw [Frame.plug_append, Frame.plug_append]
  exact .plug hframes.1 hinner
    (.append_left inner.before (.component hhead hplain hnodes (.nil [])))

/-- The amended component is where it was, with the amendment. -/
theorem Amended.at?_new {amendment : Amendment} {path : Path} {old new : List Node}
    (h : Amended amendment path old new) :
    ∃ head children, Node.at? old path = some (head, children) ∧
      Node.at? new path = some (amendment.head head, amendment.nodes children) := by
  obtain ⟨pages, middle, inner, nodes, -, -⟩ := h
  refine ⟨inner.head, nodes, Frame.at?_plug _ inner nodes, ?_⟩
  have hpath : Frame.path (⟨pages, .named Component.pageWrapper⟩ :: middle ++ [inner]) =
      Frame.path (⟨pages, .named Component.pageWrapper⟩ :: middle ++
        [⟨inner.before, amendment.head inner.head⟩]) := by
    simp
  rw [hpath]
  exact Frame.at?_plug _ ⟨inner.before, amendment.head inner.head⟩ _

/-- Outside all components there are only page breaks and pages with one component each. -/
def Paged (body : List Node) : Prop :=
  ∀ node ∈ body, node = .pageBreak ∨ ∃ head children, node = .pageWrapper (.component head children)

/-- An amendment leaves pages as they are, but for the component of the last one. -/
theorem Amended.paged {amendment : Amendment} {path : Path} {old new : List Node}
    (h : Amended amendment path old new) (hpaged : Paged old) : Paged new := by
  obtain ⟨pages, middle, inner, nodes, -, -⟩ := h
  simp only [Paged, List.cons_append, Frame.plug_cons, List.forall_mem_append,
    List.forall_mem_singleton] at hpaged ⊢
  refine ⟨hpaged.1, .inr ?_⟩
  -- The last page is none of the breaks, so the branch has nothing beside it right below the page.
  obtain hbreak | ⟨head, children, hpage⟩ := hpaged.2
  · simp [Node.pageBreak, Component.named, Component.pageWrapper, Component.pageBreak] at hbreak
  · cases middle with
    | nil =>
      obtain ⟨hbefore, -⟩ : inner.before = [] ∧ _ := by
        simpa [Node.pageWrapper, List.append_eq_singleton_iff] using hpage
      exact ⟨amendment.head inner.head, amendment.nodes nodes, by simp [hbefore, Node.pageWrapper]⟩
    | cons frame rest =>
      obtain ⟨hbefore, -⟩ : frame.before = [] ∧ _ := by
        simpa [Node.pageWrapper, List.append_eq_singleton_iff] using hpage
      exact ⟨frame.head, _, by simp [hbefore, Node.pageWrapper]; rfl⟩

namespace Document.Builder

variable {builder next : Builder}

/-- A token makes the tree grow. -/
theorem Effect.grown {kind : TokenKind} {text : String} (h : builder.Effect kind text next) :
    Grown builder.body next.body := by
  cases h with
  | quiet _ hbody _ _ => exact hbody ▸ .refl _
  | opened _ _ hbody _ _ _ => exact hbody ▸ .refl _
  | closed _ hbody _ _ _ => exact hbody ▸ .refl _
  | page _ _ _ hbody _ _ =>
    rw [hbody, pagesBefore]
    split
    · next hempty =>
      rw [hempty]
      exact .nil _
    · rw [List.append_assoc]
      exact .append_right _ _
  | child _ _ _ _ hbody _ _ => exact hbody.grown
  | className _ _ _ hbody _ _ => exact hbody.grown
  | parameter _ _ _ _ hbody _ _ => exact hbody.grown
  | literal _ _ _ _ hbody _ _ => exact hbody.grown
  | mark _ _ _ hbody _ _ => exact hbody.grown

/-- A token leaves only pages and breaks outside all components. -/
theorem Effect.paged {kind : TokenKind} {text : String} (h : builder.Effect kind text next)
    (hpaged : Paged builder.body) : Paged next.body := by
  cases h with
  | quiet _ hbody _ _ => exact hbody ▸ hpaged
  | opened _ _ hbody _ _ _ => exact hbody ▸ hpaged
  | closed _ hbody _ _ _ => exact hbody ▸ hpaged
  | page _ _ _ hbody _ _ =>
    rw [hbody, Paged, List.forall_mem_append, List.forall_mem_singleton]
    refine ⟨?_, .inr ⟨_, _, rfl⟩⟩
    unfold pagesBefore
    split
    · simp
    · rw [List.forall_mem_append, List.forall_mem_singleton]
      exact ⟨hpaged, .inl rfl⟩
  | child _ _ _ _ hbody _ _ => exact hbody.paged hpaged
  | className _ _ _ hbody _ _ => exact hbody.paged hpaged
  | parameter _ _ _ _ hbody _ _ => exact hbody.paged hpaged
  | literal _ _ _ _ hbody _ _ => exact hbody.paged hpaged
  | mark _ _ _ hbody _ _ => exact hbody.paged hpaged

/-- Tokens make the tree grow and leave only pages and breaks outside all components. -/
theorem Tracked.grown_run (h : builder.Tracked) {tokens : List Token}
    (hrun : builder.run tokens = .ok next) :
    Grown builder.body next.body ∧ (Paged builder.body → Paged next.body) := by
  induction tokens generalizing builder with
  | nil =>
    cases hrun
    exact ⟨.refl _, id⟩
  | cons token rest ih =>
    rw [run_cons] at hrun
    obtain ⟨middle, hread, hrest⟩ := exists_ok_of_bind hrun
    have haccept := accept_of_read hread
    have heffect := h.effect_accept haccept
    obtain ⟨hgrown, hpaged⟩ := ih (h.extends_accept haccept).tracked hrest
    exact ⟨heffect.grown.trans hgrown, hpaged ∘ heffect.paged⟩

end Document.Builder

end PageMarkup
