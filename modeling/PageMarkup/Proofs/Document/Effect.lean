import PageMarkup.Proofs.Document.Conservation

/-!
# What a token does

A token does one of few things: it leaves the tree and the blocks alone, opens or closes a block,
begins a component, or gives a class, a parameter, a text or a mark to the current component. Which
of these it does depends on its kind and on the situation. All changes of the tree are made at the
end of its last branch, where one component is amended, or begin a new page behind it.
-/

namespace PageMarkup

/-- What can be given to a component. -/
inductive Amendment where
  /-- One more class. -/
  | className (name : String)
  /-- A parameter, in place of an earlier one with the same key. -/
  | parameter (key value : String)
  /-- One more node at the end. -/
  | node (added : Node)

namespace Amendment

/-- The component after an amendment, without what it holds. -/
def head : Amendment → Component → Component
  | className name, component => { component with classes := component.classes ++ [name] }
  | parameter key value, component =>
    { component with parameters := component.parameters.insert key value }
  | node _, component => component

/-- What the component holds after an amendment. -/
def nodes : Amendment → List Node → List Node
  | className _, children => children
  | parameter _ _, children => children
  | node added, children => children ++ [added]

end Amendment

/-- A tree before and after an amendment of the component that a path leads to, on the last branch
and below a page. The branch does not lead into the wrapper of a text. -/
inductive Amended (amendment : Amendment) : Path → List Node → List Node → Prop
  | intro (pages : List Node) (middle : List Frame) (inner : Frame) (nodes : List Node)
    (hframes : ∀ frame ∈ middle ++ [inner], ∀ node ∈ frame.before, node.isLiteral = false)
    (hnodes : ∀ node ∈ nodes, node.isLiteral = false) :
    Amended amendment
      (Frame.path (⟨pages, .named Component.pageWrapper⟩ :: middle ++ [inner]))
      (Frame.plug (⟨pages, .named Component.pageWrapper⟩ :: middle ++ [inner]) nodes)
      (Frame.plug (⟨pages, .named Component.pageWrapper⟩ :: middle ++
        [⟨inner.before, amendment.head inner.head⟩]) (amendment.nodes nodes))

namespace Document

namespace Situation

/-- Whether a word without a capital is the name of a class. -/
def namesClass (situation : Situation) : Bool :=
  situation.contexts.head? = some .component ∧ situation.dotted = true

/-- Whether a token of the given kind leaves the tree and the blocks alone. -/
def quiet (situation : Situation) : TokenKind → Bool
  | .keyword | .string | .constant => situation.inDeclaration
  | .identifier => !situation.namesClass
  | .decorator | .squareOpen | .squareClose => false
  | .declaration | .roundOpen | .roundClose | .colon | .comma | .dot | .integer => true

end Situation

namespace Builder

variable {builder next : Builder}

/-- The nodes before a page that begins now. -/
def pagesBefore (builder : Builder) : List Node :=
  if builder.body = [] then [] else builder.body ++ [.pageBreak]

/-- The same blocks are open. -/
structure SameBlocks (builder next : Builder) : Prop where
  blocks : next.blocks = builder.blocks
  squares : next.squares = builder.squares

/-- What a token of the given kind and text does to the tree, the blocks and the current
component. -/
inductive Effect (builder : Builder) (kind : TokenKind) (text : String) (next : Builder) : Prop
  /-- Nothing. -/
  | quiet (hquiet : builder.situation.quiet kind = true) (hbody : next.body = builder.body)
    (hblocks : builder.SameBlocks next) (hcurrent : next.current = builder.current)
  /-- The block of the current component is opened. -/
  | opened {path : Path} (hkind : kind = .squareOpen) (hpath : builder.current = some path)
    (hbody : next.body = builder.body) (hblocks : next.blocks = path :: builder.blocks)
    (hsquares : next.squares = builder.squares + 1) (hcurrent : next.current = some path)
  /-- The innermost block is closed. -/
  | closed (hkind : kind = .squareClose) (hbody : next.body = builder.body)
    (hblocks : next.blocks = builder.blocks.tail) (hsquares : next.squares = builder.squares - 1)
    (hcurrent : next.current = builder.blocks.tail.head?)
  /-- A component begins a page. -/
  | page (hkind : kind = .keyword) (hdeclaration : builder.situation.inDeclaration = false)
    (hblock : builder.blocks = [])
    (hbody : next.body = builder.pagesBefore ++ [.pageWrapper (.component (.named text) [])])
    (hblocks : builder.SameBlocks next)
    (hcurrent : next.current = some [builder.pagesBefore.length, 0])
  /-- A component begins in the innermost block. -/
  | child {path : Path} {head : Component} {children : List Node} (hkind : kind = .keyword)
    (hdeclaration : builder.situation.inDeclaration = false)
    (hblock : builder.blocks.head? = some path)
    (hat : Node.at? builder.body path = some (head, children))
    (hbody : Amended (.node (.component (.named text) [])) path builder.body next.body)
    (hblocks : builder.SameBlocks next)
    (hcurrent : next.current = some (path ++ [children.length]))
  /-- The current component gets a class. -/
  | className {path : Path} (hkind : kind = .identifier)
    (hclass : builder.situation.namesClass = true) (hpath : builder.current = some path)
    (hbody : Amended (.className text) path builder.body next.body)
    (hblocks : builder.SameBlocks next) (hcurrent : next.current = builder.current)
  /-- The current component gets a parameter. -/
  | parameter {path : Path} {key : String} (hkind : kind = .string ∨ kind = .constant)
    (hparameter : builder.situation.inParameter = true) (hkey : builder.keys.head? = some key)
    (hpath : builder.current = some path)
    (hbody : Amended (.parameter key text) path builder.body next.body)
    (hblocks : builder.SameBlocks next) (hcurrent : next.current = builder.current)
  /-- The current component gets a text. -/
  | literal {path : Path} (hkind : kind = .string ∨ kind = .constant)
    (hdeclaration : builder.situation.inDeclaration = false)
    (hparameter : builder.situation.inParameter = false) (hpath : builder.current = some path)
    (hbody : Amended (.node (.wrapped text builder.inList)) path builder.body next.body)
    (hblocks : builder.SameBlocks next)
    (hcurrent : next.current = builder.current ∨ next.current = builder.blocks.head?)
  /-- The current component gets a mark. -/
  | mark {path : Path} {node : Node} (hkind : kind = .decorator)
    (hnode : decoration? text = some node) (hpath : builder.current = some path)
    (hbody : Amended (.node node) path builder.body next.body)
    (hblocks : builder.SameBlocks next) (hcurrent : next.current = builder.current)

/-- A change of the current component amends it and leaves all else alone. -/
theorem Tracked.exists_amended (h : builder.Tracked) {what : Attachment} (amendment : Amendment)
    (hattach : (builder.attach what fun head children =>
      .component (amendment.head head) (amendment.nodes children)) = .ok next) :
    ∃ path, builder.current = some path ∧ Amended amendment path builder.body next.body ∧
      builder.SameBlocks next ∧ next.current = builder.current := by
  obtain ⟨pages, middle, inner, nodes, hrooted, rfl⟩ := h.exists_attached hattach
  refine ⟨_, hrooted.current, ?_, ⟨rfl, rfl⟩, rfl⟩
  rw [hrooted.body]
  exact .intro pages middle inner nodes hrooted.wrapped_frames hrooted.wrapped_nodes

/-- A component begins a page, or amends the component of the innermost block. -/
theorem Tracked.effect_beginComponent (h : builder.Tracked) {name : String}
    (hdeclaration : builder.situation.inDeclaration = false)
    (hbegin : builder.beginComponent name = .ok next) : builder.Effect .keyword name next := by
  cases hblock : builder.blocks.head? with
  | none =>
    have hblocks := List.head?_eq_none_iff.mp hblock
    rw [beginComponent_page hblocks] at hbegin
    cases hbegin
    exact .page rfl hdeclaration hblocks rfl ⟨rfl, rfl⟩ rfl
  | some path =>
    obtain ⟨pages, middle, inner, nodes, hrooted⟩ := h.exists_block hblock
    have hbody : builder.body = Frame.plug _ nodes := hrooted.body
    have hpath : path = Frame.path (⟨pages, .named Component.pageWrapper⟩ :: middle ++ [inner]) :=
      Option.some.inj hrooted.current
    rw [beginComponent_block hbody (hblock.trans hrooted.current)] at hbegin
    cases hbegin
    have hat : Node.at? builder.body path = some (inner.head, nodes) := by
      rw [hbody, hpath]
      exact Frame.at?_plug _ inner nodes
    have hbegun : (builder.begun (⟨pages, .named Component.pageWrapper⟩ :: middle ++ [inner]) nodes
        (.named name)).body =
          Frame.plug (⟨pages, .named Component.pageWrapper⟩ :: middle ++ [inner])
            (nodes ++ [.component (.named name) []]) := by
      rw [begun, Frame.plug_append]
      rfl
    refine .child rfl hdeclaration hblock hat ?_ ⟨rfl, rfl⟩ ?_
    · rw [hbegun, hbody, hpath]
      exact .intro pages middle inner nodes hrooted.wrapped_frames hrooted.wrapped_nodes
    · simp [begun, hpath]

/-- A word with a capital is the key of a declaration or begins a component. -/
theorem Tracked.effect_readKeyword (h : builder.Tracked) {text : String}
    (hread : builder.readKeyword text = .ok next) : builder.Effect .keyword text next := by
  unfold readKeyword at hread
  split at hread
  · next hcontext =>
    cases hread
    exact .quiet (decide_eq_true hcontext) rfl ⟨rfl, rfl⟩ rfl
  · next hcontext => exact h.effect_beginComponent (decide_eq_false hcontext) hread

/-- What a word without a capital is read for is decided by the situation. -/
theorem readIdentifier_eq (builder : Builder) (text : String) :
    builder.readIdentifier text =
      if builder.situation.inDeclaration then
        .ok { builder with declared := text :: builder.declared }
      else if builder.situation.namesClass then do
        let changed ← builder.attach .className fun head children =>
          .component { head with classes := head.classes ++ [text] } children
        return { changed with dotted := false }
      else if builder.situation.namesParameter then
        .ok { builder with keys := text :: builder.keys }
      else .ok builder := by
  unfold readIdentifier
  cases hcontext : builder.contexts.head? with
  | none =>
    simp [situation, Situation.inDeclaration, Situation.namesClass, Situation.namesParameter,
      hcontext]
  | some context =>
    cases context with
    | declaration => simp [situation, Situation.inDeclaration, hcontext]
    | component =>
      cases hdotted : builder.dotted with
      | true => simp [situation, Situation.inDeclaration, Situation.namesClass, hcontext, hdotted]
      | false =>
        simp [situation, Situation.inDeclaration, Situation.namesClass, Situation.namesParameter,
          hcontext, hdotted]

/-- A word without a capital is a class after a dot, and else leaves the tree alone. -/
theorem Tracked.effect_readIdentifier (h : builder.Tracked) {text : String}
    (hread : builder.readIdentifier text = .ok next) : builder.Effect .identifier text next := by
  unfold readIdentifier at hread
  split at hread
  · next hcontext =>
    cases hread
    exact .quiet (by simp [Situation.quiet, Situation.namesClass, situation, hcontext]) rfl
      ⟨rfl, rfl⟩ rfl
  · next hcontext =>
    split at hread
    · next hdotted =>
      obtain ⟨changed, hattach, hnext⟩ := exists_ok_of_bind hread
      obtain ⟨path, hpath, hamended, hblocks, hcurrent⟩ :=
        h.exists_amended (.className text) hattach
      cases hnext
      exact .className rfl (by simp [Situation.namesClass, situation, hcontext, hdotted]) hpath
        hamended ⟨hblocks.1, hblocks.2⟩ hcurrent
    · next hdotted =>
      have hquiet : builder.situation.quiet .identifier = true := by
        simp [Situation.quiet, Situation.namesClass, situation, hdotted]
      split at hread
      · cases hread
        exact .quiet hquiet rfl ⟨rfl, rfl⟩ rfl
      · cases hread
        exact .quiet hquiet rfl ⟨rfl, rfl⟩ rfl
  · next hcontext =>
    cases hread
    exact .quiet (by simp [Situation.quiet, Situation.namesClass, situation, hcontext]) rfl
      ⟨rfl, rfl⟩ rfl

/-- A text amends the current component. -/
theorem Tracked.effect_addLiteral (h : builder.Tracked) {kind : TokenKind} {text : String}
    (hkind : kind = .string ∨ kind = .constant)
    (hdeclaration : builder.situation.inDeclaration = false)
    (hparameter : builder.situation.inParameter = false)
    (hadd : builder.addLiteral text = .ok next) : builder.Effect kind text next := by
  obtain ⟨changed, happend, hnext⟩ := exists_ok_of_bind hadd
  obtain ⟨path, hpath, hamended, hblocks, hcurrent⟩ :=
    h.exists_amended (.node (.wrapped text builder.inList)) happend
  split at hnext
  · cases hnext
    refine .literal hkind hdeclaration hparameter hpath hamended ⟨hblocks.1, hblocks.2⟩ (.inr ?_)
    rw [← hblocks.blocks]
  · cases hnext
    exact .literal hkind hdeclaration hparameter hpath hamended hblocks (.inl hcurrent)

/-- A value ends a declaration, is that of a parameter, or a text. -/
theorem Tracked.effect_readValue (h : builder.Tracked) {kind : TokenKind} {text : String}
    (hkind : kind = .string ∨ kind = .constant) (hread : builder.readValue text = .ok next) :
    builder.Effect kind text next := by
  rcases builder.readValue_cases text with
    ⟨hdeclaration, heq⟩ | ⟨hdeclaration, hparameter, key, heq, hkey⟩ |
      ⟨hdeclaration, hparameter, heq⟩
  · rw [heq] at hread
    obtain ⟨configurations, references, declared, rfl⟩ := exists_of_declare hread
    refine .quiet ?_ rfl ⟨rfl, rfl⟩ rfl
    rcases hkind with rfl | rfl
    · exact hdeclaration
    · exact hdeclaration
  · rw [heq] at hread
    obtain ⟨changed, hattach, hnext⟩ := exists_ok_of_bind hread
    obtain ⟨path, hpath, hamended, hblocks, hcurrent⟩ :=
      h.exists_amended (.parameter key text) hattach
    cases hnext
    exact .parameter hkind hparameter hkey hpath hamended ⟨hblocks.1, hblocks.2⟩ hcurrent
  · rw [heq] at hread
    exact h.effect_addLiteral hkind hdeclaration hparameter hread

/-- The marks are line breaks and rules. -/
theorem decoration?_cases {text : String} {node : Node} (h : decoration? text = some node) :
    node = .lineBreak ∨ node = .horizontalRule := by
  unfold decoration? at h
  split at h
  · exact .inl (Option.some.inj h).symm
  · split at h
    · exact .inr (Option.some.inj h).symm
    · cases h

/-- A decorator is a mark. -/
theorem Tracked.effect_readDecorator (h : builder.Tracked) {text : String}
    (hread : builder.readDecorator text = .ok next) : builder.Effect .decorator text next := by
  unfold readDecorator at hread
  split at hread
  · next node hnode =>
    obtain ⟨path, hpath, hamended, hblocks, hcurrent⟩ := h.exists_amended (.node node) hread
    exact .mark rfl hnode hpath hamended hblocks hcurrent
  · cases hread

/-- A token that is read has its effect. -/
theorem Tracked.effect_dispatch (h : builder.Tracked) {kind : TokenKind} {text : String}
    (hread : builder.dispatch text kind = .ok next) : builder.Effect kind text next := by
  cases kind with
  | keyword => exact h.effect_readKeyword hread
  | identifier => exact h.effect_readIdentifier hread
  | string => exact h.effect_readValue (.inl rfl) hread
  | constant => exact h.effect_readValue (.inr rfl) hread
  | decorator => exact h.effect_readDecorator hread
  | squareOpen =>
    simp only [dispatch, Builder.openBlock] at hread
    split at hread
    · cases hread
    · next path hpath =>
      cases hread
      exact .opened rfl hpath rfl rfl rfl hpath
  | squareClose =>
    cases hread
    exact .closed rfl rfl rfl rfl rfl
  | declaration | roundOpen | roundClose | colon | dot | comma | integer =>
    cases hread
    exact .quiet rfl rfl ⟨rfl, rfl⟩ rfl

/-- A forgotten dot does not change what a token does, unless the token is a word without a
capital. -/
theorem Effect.of_undotted {kind : TokenKind} {text : String} (hkind : kind ≠ .identifier)
    (h : Effect { builder with dotted := false } kind text next) :
    builder.Effect kind text next := by
  cases h with
  | quiet hquiet hbody hblocks hcurrent =>
    refine .quiet ?_ hbody ⟨hblocks.1, hblocks.2⟩ hcurrent
    cases kind with
    | identifier => exact absurd rfl hkind
    | keyword | string | constant | decorator | squareOpen | squareClose | declaration | roundOpen
    | roundClose | colon | comma | dot | integer => exact hquiet
  | opened hkind hpath hbody hblocks hsquares hcurrent =>
    exact .opened hkind hpath hbody hblocks hsquares hcurrent
  | closed hkind hbody hblocks hsquares hcurrent =>
    exact .closed hkind hbody hblocks hsquares hcurrent
  | page hkind hdeclaration hblock hbody hblocks hcurrent =>
    exact .page hkind hdeclaration hblock hbody ⟨hblocks.1, hblocks.2⟩ hcurrent
  | child hkind hdeclaration hblock hat hbody hblocks hcurrent =>
    exact .child hkind hdeclaration hblock hat hbody ⟨hblocks.1, hblocks.2⟩ hcurrent
  | className hidentifier _ _ _ _ _ => exact absurd hidentifier hkind
  | parameter hkind hparameter hkey hpath hbody hblocks hcurrent =>
    exact .parameter hkind hparameter hkey hpath hbody ⟨hblocks.1, hblocks.2⟩ hcurrent
  | literal hkind hdeclaration hparameter hpath hbody hblocks hcurrent =>
    exact .literal hkind hdeclaration hparameter hpath hbody ⟨hblocks.1, hblocks.2⟩ hcurrent
  | mark hkind hnode hpath hbody hblocks hcurrent =>
    exact .mark hkind hnode hpath hbody ⟨hblocks.1, hblocks.2⟩ hcurrent

/-- A token that is accepted has its effect. -/
theorem Tracked.effect_accept (h : builder.Tracked) {kind : TokenKind} {text : String}
    (haccept : builder.accept kind text = .ok next) : builder.Effect kind text next := by
  by_cases hkind : kind = .identifier
  · rw [accept, settle, if_pos hkind] at haccept
    exact h.effect_dispatch haccept
  · rw [accept, settle, if_neg hkind] at haccept
    have hsettled : Tracked { builder with dotted := false } := h.congr rfl rfl rfl
    exact (hsettled.effect_dispatch haccept).of_undotted hkind

end Builder

end Document

end PageMarkup
