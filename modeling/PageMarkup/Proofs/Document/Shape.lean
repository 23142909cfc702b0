import PageMarkup.Proofs.Document.Effect
import PageMarkup.Proofs.Document.Words

/-!
# The shape of documents

The builder makes few kinds of nodes: components with the element of their name and no attributes of
their own, texts in their wrappers, and two marks. A text stands nowhere else than alone in its
wrapper. Names, classes and parameters come from tokens, so a property that the texts of these
tokens share holds of all of them.
-/

namespace PageMarkup

/-- Whether a token of the given kind can give its text to a component, as its name or a class or in
a parameter. -/
def TokenKind.describes : TokenKind → Bool
  | .keyword | .identifier | .string | .constant => true
  | .declaration | .decorator | .integer | .roundOpen | .roundClose | .squareOpen | .squareClose
  | .colon | .comma | .dot => false

variable {p : String → Prop}

/-- A component with the element of its name and no attributes, whose name, classes and parameters
have the given property. -/
structure Component.MadeOf (p : String → Prop) (head : Component) : Prop where
  name : p head.name
  element : head.element = Component.elementFor head.name
  classes : ∀ className ∈ head.classes, p className
  parameters : ∀ entry ∈ head.parameters.entries, p entry.1 ∧ p entry.2
  attributes : head.attributes = ∅

/-- A tree of components, texts in their wrappers, and marks. -/
inductive Node.Shaped (p : String → Prop) : Node → Prop
  | component {head : Component} {children : List Node} (hhead : head.MadeOf p)
    (hchildren : ∀ child ∈ children, Node.Shaped p child) : Node.Shaped p (.component head children)
  | wrapped (text : String) (inList : Bool) : Node.Shaped p (.wrapped text inList)
  | lineBreak : Node.Shaped p .lineBreak
  | horizontalRule : Node.Shaped p .horizontalRule

/-- A component that has just begun has nothing but its name. -/
theorem Component.MadeOf.named {name : String} (h : p name) : (Component.named name).MadeOf p where
  name := h
  element := rfl
  classes := by simp [Component.named]
  parameters := fun _ hentry => nomatch hentry
  attributes := rfl

/-- A component that holds no text of its own is no wrapper. -/
theorem Node.Shaped.of_component {head : Component} {children : List Node}
    (h : (Node.component head children).Shaped p)
    (hplain : ∀ child ∈ children, child.isLiteral = false) :
    head.MadeOf p ∧ ∀ child ∈ children, child.Shaped p := by
  cases h with
  | component hhead hchildren => exact ⟨hhead, hchildren⟩
  | wrapped text inList => cases hplain (.literal text) (List.mem_singleton_self _)

/-- What an amendment adds has the given property. -/
def Amendment.MadeOf (p : String → Prop) : Amendment → Prop
  | className name => p name
  | parameter key value => p key ∧ p value
  | node added => added.Shaped p

/-- A component is still made of such texts after an amendment with such texts. -/
theorem Amendment.MadeOf.head {amendment : Amendment} (hamendment : amendment.MadeOf p)
    {head : Component} (h : head.MadeOf p) : (amendment.head head).MadeOf p := by
  cases amendment with
  | className name =>
    refine { h with classes := ?_ }
    intro className hmem
    rcases List.mem_append.mp hmem with hold | hnew
    · exact h.classes className hold
    · exact List.mem_singleton.mp hnew ▸ hamendment
  | parameter key value =>
    refine { h with parameters := ?_ }
    intro entry hmem
    rcases Table.mem_put hmem with hold | rfl
    · exact h.parameters entry hold
    · exact hamendment
  | node added => exact h

namespace Frame

/-- The frames of a branch in a shaped tree are made of the same texts, and what is beside and below
the branch is shaped. -/
theorem shaped_of_plug {frames : List Frame} {nodes : List Node}
    (hframes : ∀ frame ∈ frames, ∀ node ∈ frame.before, node.isLiteral = false)
    (hplain : ∀ node ∈ nodes, node.isLiteral = false)
    (h : ∀ node ∈ plug frames nodes, node.Shaped p) :
    (∀ frame ∈ frames, frame.head.MadeOf p ∧ ∀ node ∈ frame.before, node.Shaped p) ∧
      ∀ node ∈ nodes, node.Shaped p := by
  induction frames with
  | nil => exact ⟨by simp, h⟩
  | cons frame rest ih =>
    rw [List.forall_mem_cons] at hframes
    rw [plug_cons, List.forall_mem_append, List.forall_mem_singleton] at h
    obtain ⟨hhead, hbelow⟩ := h.2.of_component (wrapped_plug hframes.2 hplain)
    obtain ⟨hrest, hnodes⟩ := ih hframes.2 hbelow
    exact ⟨List.forall_mem_cons.mpr ⟨⟨hhead, h.1⟩, hrest⟩, hnodes⟩

/-- A tree is shaped if the frames of a branch are made of the same texts and what is beside and
below the branch is shaped. -/
theorem shaped_plug {frames : List Frame} {nodes : List Node}
    (hframes : ∀ frame ∈ frames, frame.head.MadeOf p ∧ ∀ node ∈ frame.before, node.Shaped p)
    (hnodes : ∀ node ∈ nodes, node.Shaped p) : ∀ node ∈ plug frames nodes, node.Shaped p := by
  induction frames with
  | nil => exact hnodes
  | cons frame rest ih =>
    rw [List.forall_mem_cons] at hframes
    rw [plug_cons, List.forall_mem_append, List.forall_mem_singleton]
    exact ⟨hframes.1.2, .component hframes.1.1 (ih hframes.2)⟩

end Frame

/-- An amendment with such texts keeps a tree shaped. -/
theorem Amended.shaped {amendment : Amendment} {path : Path} {old new : List Node}
    (h : Amended amendment path old new) (hamendment : amendment.MadeOf p)
    (hold : ∀ node ∈ old, node.Shaped p) : ∀ node ∈ new, node.Shaped p := by
  obtain ⟨pages, middle, inner, nodes, hframes, hplain⟩ := h
  rw [List.cons_append, Frame.plug_cons, List.forall_mem_append,
    List.forall_mem_singleton] at hold ⊢
  obtain ⟨hpage, hbelow⟩ := hold.2.of_component (Frame.wrapped_plug hframes hplain)
  obtain ⟨hmade, hnodes⟩ := Frame.shaped_of_plug hframes hplain hbelow
  rw [List.forall_mem_append, List.forall_mem_singleton] at hmade
  refine ⟨hold.1, .component hpage (Frame.shaped_plug ?_ ?_)⟩
  · rw [List.forall_mem_append, List.forall_mem_singleton]
    exact ⟨hmade.1, hamendment.head hmade.2.1, hmade.2.2⟩
  · cases amendment with
    | className name => exact hnodes
    | parameter key value => exact hnodes
    | node added =>
      rw [Amendment.nodes, List.forall_mem_append, List.forall_mem_singleton]
      exact ⟨hnodes, hamendment⟩

namespace Document

namespace Builder

variable {builder next : Builder}

/-- A parameter name that waits for a value is one that waited before, or the word just read. -/
theorem mem_keys_of_accept {kind : TokenKind} {text key : String}
    (h : builder.accept kind text = .ok next) (hkey : key ∈ next.keys) :
    key ∈ builder.keys ∨ kind = .identifier ∧ key = text := by
  cases noted_accept h with
  | nothing _ hkeys _ _ => exact .inl (hkeys ▸ hkey)
  | parameterName hkind _ hkeys _ _ =>
    rw [hkeys] at hkey
    exact (List.mem_cons.mp hkey).symm.imp_right fun heq => ⟨hkind, heq⟩
  | parameterValue _ _ hkeys _ _ => exact .inl (List.mem_of_mem_tail (hkeys ▸ hkey))
  | declarationWord _ hkeys _ _ => exact .inl (hkeys ▸ hkey)
  | declarationValue _ _ hkeys _ _ _ _ => exact .inl (hkeys ▸ hkey)

/-- The tree is shaped, and the parameter names that wait for a value have the given property. -/
structure MadeOf (p : String → Prop) (builder : Builder) : Prop where
  body : ∀ node ∈ builder.body, node.Shaped p
  keys : ∀ key ∈ builder.keys, p key

/-- A token keeps the tree shaped if its text has the property. -/
theorem Effect.shaped {kind : TokenKind} {text : String} (h : builder.Effect kind text next)
    (hwrapper : p Component.pageWrapper) (hbreak : p Component.pageBreak)
    (htext : kind.describes = true → p text) (hbuilder : builder.MadeOf p) :
    ∀ node ∈ next.body, node.Shaped p := by
  cases h with
  | quiet _ hbody _ _ => exact hbody ▸ hbuilder.body
  | opened _ _ hbody _ _ _ => exact hbody ▸ hbuilder.body
  | closed _ hbody _ _ _ => exact hbody ▸ hbuilder.body
  | page hkind _ _ hbody _ _ =>
    have hcomponent : (Node.component (.named text) []).Shaped p :=
      .component (.named (htext (by simp [hkind, TokenKind.describes]))) (by simp)
    rw [hbody, List.forall_mem_append, List.forall_mem_singleton]
    refine ⟨?_, .component (.named hwrapper) (List.forall_mem_singleton.mpr hcomponent)⟩
    unfold pagesBefore
    split
    · simp
    · rw [List.forall_mem_append, List.forall_mem_singleton]
      exact ⟨hbuilder.body, .component (.named hbreak) (by simp)⟩
  | child hkind _ _ _ hbody _ _ =>
    have hcomponent : (Node.component (.named text) []).Shaped p :=
      .component (.named (htext (by simp [hkind, TokenKind.describes]))) (by simp)
    exact hbody.shaped hcomponent hbuilder.body
  | className hkind _ _ hbody _ _ =>
    exact hbody.shaped (htext (by simp [hkind, TokenKind.describes])) hbuilder.body
  | parameter hkind _ hkey _ hbody _ _ =>
    have hvalue : p text := htext (by rcases hkind with rfl | rfl <;> rfl)
    exact hbody.shaped ⟨hbuilder.keys _ (List.mem_of_head? hkey), hvalue⟩ hbuilder.body
  | literal _ _ _ _ hbody _ _ => exact hbody.shaped (.wrapped text _) hbuilder.body
  | @mark path node _ hnode _ hbody _ _ =>
    have hmark : node.Shaped p := by
      rcases decoration?_cases hnode with rfl | rfl
      · exact .lineBreak
      · exact .horizontalRule
    exact hbody.shaped hmark hbuilder.body

/-- Tokens keep the tree shaped if their texts have the property. -/
theorem Tracked.madeOf_run (h : builder.Tracked) (hwrapper : p Component.pageWrapper)
    (hbreak : p Component.pageBreak) {tokens : List Token}
    (htokens : ∀ token ∈ tokens, token.kind.describes = true → p token.text)
    (hrun : builder.run tokens = .ok next) (hbuilder : builder.MadeOf p) : next.MadeOf p := by
  induction tokens generalizing builder with
  | nil =>
    cases hrun
    exact hbuilder
  | cons token rest ih =>
    rw [List.forall_mem_cons] at htokens
    rw [run_cons] at hrun
    obtain ⟨middle, hread, hrest⟩ := exists_ok_of_bind hrun
    have haccept := accept_of_read hread
    have hmiddle : middle.MadeOf p := by
      refine ⟨(h.effect_accept haccept).shaped hwrapper hbreak htokens.1 hbuilder, ?_⟩
      intro key hkey
      rcases mem_keys_of_accept haccept hkey with hold | ⟨hkind, rfl⟩
      · exact hbuilder.keys key hold
      · exact htokens.1 (by rw [hkind]; rfl)
    exact ih (h.extends_accept haccept).tracked htokens.2 hrest hmiddle

end Builder

/-- A document is shaped, and its components are made of texts of its tokens. -/
theorem shaped_of_ofTokens {tokens : List Token} {document : Document}
    (h : ofTokens tokens = .ok document) (hwrapper : p Component.pageWrapper)
    (hbreak : p Component.pageBreak)
    (htokens : ∀ token ∈ tokens, token.kind.describes = true → p token.text) :
    ∀ node ∈ document.body, node.Shaped p := by
  obtain ⟨final, hrun, rfl⟩ := exists_run_of_ofTokens h
  have hempty : Builder.MadeOf p {} := ⟨by simp, by simp⟩
  exact (Builder.tracked_empty.madeOf_run hwrapper hbreak htokens hrun hempty).body

end Document

end PageMarkup
