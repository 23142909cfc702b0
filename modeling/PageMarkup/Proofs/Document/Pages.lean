import PageMarkup.Proofs.Document.Denotation
import PageMarkup.Proofs.Document.Nesting
import PageMarkup.Proofs.Document.Runs
import PageMarkup.Proofs.Document.Shape

/-!
# Pages and what is below them

Whatever tokens are read, the body of the document is a row of pages with a break between any two.
A page holds one component, that of the word which began the page, and nothing is ever given to the
page itself or to a break. Which words begin pages can be told from the tokens: those with a capital
outside declarations and outside all blocks. What occurs below the pages is of few kinds: components
with the element of their name, texts alone in their wrappers, and two marks.
-/

namespace PageMarkup

/-- A node stands among the given nodes, or at any depth below them. -/
inductive Node.Occurs (node : Node) : List Node → Prop
  | here {nodes : List Node} (h : node ∈ nodes) : Node.Occurs node nodes
  | inside {nodes children : List Node} {head : Component} (h : .component head children ∈ nodes)
    (hinside : Node.Occurs node children) : Node.Occurs node nodes

namespace Node

variable {p : String → Prop} {nodes : List Node}

/-- What occurs in a shaped tree is shaped, but for the texts in their wrappers. -/
theorem Occurs.shaped {node : Node} (h : Occurs node nodes) (hnodes : ∀ node ∈ nodes, node.Shaped p)
    (hplain : node.isLiteral = false) : node.Shaped p := by
  induction h with
  | here hmem => exact hnodes node hmem
  | inside hmem hinside ih =>
    have hshaped := hnodes _ hmem
    generalize hcomponent : component _ _ = outer at hshaped
    cases hshaped with
    | component hhead hchildren =>
      cases hcomponent
      exact ih hchildren
    | wrapped text inList =>
      cases hcomponent
      -- The only thing below a wrapper is a text.
      cases hinside with
      | here hmem =>
        rw [List.mem_singleton.mp hmem] at hplain
        cases hplain
      | inside hmem _ => cases List.mem_singleton.mp hmem
    | lineBreak | horizontalRule => cases hcomponent

/-- A component that occurs in a shaped tree has the element of its name and no attributes. -/
theorem Occurs.element {head : Component} {children : List Node}
    (h : Occurs (component head children) nodes) (hnodes : ∀ node ∈ nodes, node.Shaped p) :
    head.element = Component.elementFor head.name ∧ head.attributes = ∅ := by
  have hshaped := h.shaped hnodes rfl
  generalize hcomponent : component head children = node at hshaped
  cases hshaped with
  | component hhead _ =>
    cases hcomponent
    exact ⟨hhead.element, hhead.attributes⟩
  | wrapped text inList =>
    cases hcomponent
    exact ⟨rfl, rfl⟩
  | lineBreak | horizontalRule => cases hcomponent

/-- A component in a shaped tree that holds a text is a wrapper with nothing but this text. -/
theorem Occurs.wrapper {head : Component} {children : List Node} {text : String}
    (h : Occurs (component head children) nodes) (hnodes : ∀ node ∈ nodes, node.Shaped p)
    (htext : literal text ∈ children) :
    children = [literal text] ∧
      (head = .named Component.line ∨ head = .named Component.listItem) := by
  have hshaped := h.shaped hnodes rfl
  generalize hcomponent : component head children = node at hshaped
  cases hshaped with
  | component _ hchildren =>
    cases hcomponent
    cases hchildren _ htext
  | wrapped content inList =>
    cases hcomponent
    rw [List.mem_singleton.mp htext]
    cases inList with
    | true => exact ⟨rfl, .inr rfl⟩
    | false => exact ⟨rfl, .inl rfl⟩
  | lineBreak | horizontalRule => cases hcomponent

/-- A mark in a shaped tree is a line break or a rule. -/
theorem Occurs.mark {name element : String} (h : Occurs (mark name element) nodes)
    (hnodes : ∀ node ∈ nodes, node.Shaped p) :
    (name = "BR" ∧ element = "br") ∨ (name = "HR" ∧ element = "hr") := by
  have hshaped := h.shaped hnodes rfl
  generalize hmark : Node.mark name element = node at hshaped
  cases hshaped with
  | lineBreak =>
    cases hmark
    exact .inl ⟨rfl, rfl⟩
  | horizontalRule =>
    cases hmark
    exact .inr ⟨rfl, rfl⟩
  | component _ _ | wrapped _ _ => cases hmark

end Node

namespace Grammar

/-- Every second node of a row of pages is a page. -/
theorem getElem?_pages (components : List Node) (index : Nat) :
    (pages components)[2 * index]? = components[index]?.map Node.pageWrapper := by
  induction components generalizing index with
  | nil => rfl
  | cons first rest ih =>
    cases rest with
    | nil =>
      cases index with
      | zero => rfl
      | succ index => simp [pages]
    | cons second rest =>
      cases index with
      | zero => rfl
      | succ index => exact ih index

/-- The nodes before a page that follows others: the pages so far, and a break after each. -/
theorem length_pages_break (components : List Node) :
    (if pages components = [] then [] else pages components ++ [.pageBreak]).length =
      2 * components.length := by
  induction components with
  | nil => rfl
  | cons first rest ih =>
    cases rest with
    | nil => rfl
    | cons second rest =>
      have hpages : pages (first :: second :: rest) =
          .pageWrapper first :: .pageBreak :: pages (second :: rest) := rfl
      have hne : pages (second :: rest) ≠ [] := by cases rest <;> simp [pages]
      rw [if_neg hne] at ih
      rw [if_neg (by simp [hpages]), hpages]
      simp only [List.length_append, List.length_cons, List.length_nil] at ih ⊢
      omega

end Grammar

/-- An amendment below a row of pages changes the component of the last page, but not its name. -/
theorem Amended.pages {amendment : Amendment} {path : Path} {components new : List Node}
    (h : Amended amendment path (Grammar.pages components) new) :
    ∃ amended, new = Grammar.pages amended ∧
      amended.map Node.componentName? = components.map Node.componentName? := by
  generalize hold : Grammar.pages components = old at h
  obtain ⟨before, middle, inner, nodes, -, -⟩ := h
  obtain rfl | ⟨others, last, rfl⟩ := List.eq_nil_or_concat components
  · simp [Grammar.pages] at hold
  rw [List.concat_eq_append, Grammar.pages_concat, List.cons_append, Frame.plug_cons] at hold
  obtain ⟨hbefore, hpage⟩ := List.append_inj' hold rfl
  have hlast : [last] = Frame.plug (middle ++ [inner]) nodes := by
    simpa [Node.pageWrapper] using hpage
  -- The branch leads through the only component of the page, so nothing is beside it there.
  obtain ⟨changed, hchanged, hname⟩ : ∃ changed,
      Frame.plug (middle ++ [⟨inner.before, amendment.head inner.head⟩]) (amendment.nodes nodes) =
        [changed] ∧ changed.componentName? = last.componentName? := by
    cases middle with
    | nil =>
      obtain ⟨hbeside, hcomponent⟩ : inner.before = [] ∧ .component inner.head nodes = last := by
        simpa [List.append_eq_singleton_iff] using hlast.symm
      refine ⟨.component (amendment.head inner.head) (amendment.nodes nodes), by simp [hbeside], ?_⟩
      rw [← hcomponent]
      cases amendment <;> rfl
    | cons frame rest =>
      obtain ⟨hbeside, hcomponent⟩ : frame.before = [] ∧ _ = last := by
        simpa [List.append_eq_singleton_iff] using hlast.symm
      refine ⟨_, by rw [List.cons_append, Frame.plug_cons, hbeside, List.nil_append], ?_⟩
      rw [← hcomponent]
      rfl
  refine ⟨others ++ [changed], ?_, by simp [hname]⟩
  rw [Grammar.pages_concat, hbefore, List.cons_append, Frame.plug_cons, hchanged]
  rfl

namespace Document

/-- Whether a token after the given ones begins a page: a word with a capital, outside declarations
and outside all blocks. -/
def beginsPage (before : List Token) (token : Token) : Bool :=
  token.kind = .keyword ∧ (Situation.after {} before).inDeclaration = false ∧ blockDepth before = 0

/-- The tokens of a document that begin pages, in order. -/
def pageTokens (tokens : List Token) : List Token :=
  gather (fun before token => if beginsPage before token then [token] else []) tokens

namespace Builder

variable {builder next : Builder}

/-- Whether a token begins a page can be told from what is open. -/
theorem beginsPage_iff {before : List Token} (hrun : Builder.run {} before = .ok builder)
    (token : Token) :
    beginsPage before token = true ↔
      token.kind = .keyword ∧ builder.situation.inDeclaration = false ∧ builder.blocks = [] := by
  rw [beginsPage, decide_eq_true_iff, ← length_blocks_eq_depth hrun, List.length_eq_zero_iff,
    (tracked_of_run hrun).2]

/-- A token adds a page to a row of pages exactly if it begins one, and the components of the others
keep their names. -/
theorem Effect.pages {kind : TokenKind} {text : String} (h : builder.Effect kind text next)
    {components : List Node} (hbody : builder.body = Grammar.pages components) :
    ∃ grown, next.body = Grammar.pages grown ∧
      grown.map Node.componentName? = components.map Node.componentName? ++
        if kind = .keyword ∧ builder.situation.inDeclaration = false ∧ builder.blocks = [] then
          [some text] else [] := by
  -- All but a word that begins a page leave the number of pages alone.
  have hkeep (hother : ¬(kind = .keyword ∧ builder.situation.inDeclaration = false ∧
      builder.blocks = []))
      (hpages : ∃ grown, next.body = Grammar.pages grown ∧
        grown.map Node.componentName? = components.map Node.componentName?) :
      ∃ grown, next.body = Grammar.pages grown ∧
        grown.map Node.componentName? = components.map Node.componentName? ++
          if kind = .keyword ∧ builder.situation.inDeclaration = false ∧ builder.blocks = [] then
            [some text] else [] := by
    rw [if_neg hother, List.append_nil]
    exact hpages
  have hamend {amendment : Amendment} {path : Path}
      (hamended : Amended amendment path builder.body next.body) : ∃ grown,
        next.body = Grammar.pages grown ∧
          grown.map Node.componentName? = components.map Node.componentName? :=
    Amended.pages (hbody ▸ hamended)
  cases h with
  | quiet hquiet hsame _ _ =>
    refine hkeep ?_ ⟨components, hsame.trans hbody, rfl⟩
    rintro ⟨rfl, hdeclaration, -⟩
    cases hdeclaration.symm.trans hquiet
  | opened hkind _ hsame _ _ _ =>
    exact hkeep (by simp [hkind]) ⟨components, hsame.trans hbody, rfl⟩
  | closed hkind hsame _ _ _ =>
    exact hkeep (by simp [hkind]) ⟨components, hsame.trans hbody, rfl⟩
  | page hkind hdeclaration hblock hpage _ _ =>
    refine ⟨components ++ [.component (.named text) []], ?_, ?_⟩
    · rw [hpage, pagesBefore, hbody, Grammar.pages_concat]
    · rw [if_pos ⟨hkind, hdeclaration, hblock⟩, List.map_append]
      rfl
  | child _ _ hblock _ hamended _ _ =>
    refine hkeep ?_ (hamend hamended)
    rintro ⟨-, -, hempty⟩
    simp [hempty] at hblock
  | className hkind _ _ hamended _ _ => exact hkeep (by simp [hkind]) (hamend hamended)
  | parameter hkind _ _ _ hamended _ _ =>
    exact hkeep (by rcases hkind with rfl | rfl <;> simp) (hamend hamended)
  | literal hkind _ _ _ hamended _ _ =>
    exact hkeep (by rcases hkind with rfl | rfl <;> simp) (hamend hamended)
  | mark hkind _ _ hamended _ _ => exact hkeep (by simp [hkind]) (hamend hamended)

/-- The body is a row of pages, one for each token that begins a page and with its component. -/
theorem pages_of_run {tokens : List Token} (hrun : Builder.run {} tokens = .ok builder) :
    ∃ components, builder.body = Grammar.pages components ∧
      components.map Node.componentName? =
        (pageTokens tokens).map fun token => some token.text := by
  refine run_induction (motive := fun tokens builder => ∃ components,
    builder.body = Grammar.pages components ∧
      components.map Node.componentName? = (pageTokens tokens).map fun token => some token.text)
    ⟨[], rfl, rfl⟩ ?_ hrun
  rintro before middle next token hbefore ⟨components, hbody, hnames⟩ haccept
  have heffect := (tracked_of_run hbefore).1.effect_accept haccept
  obtain ⟨grown, hgrown, hadded⟩ := heffect.pages hbody
  refine ⟨grown, hgrown, ?_⟩
  rw [hadded, hnames, pageTokens, pageTokens, gather_concat, List.map_append]
  by_cases hbegins : beginsPage before token = true
  · rw [if_pos ((beginsPage_iff hbefore token).mp hbegins), if_pos hbegins]
    rfl
  · rw [if_neg (fun hopen => hbegins ((beginsPage_iff hbefore token).mpr hopen)), if_neg hbegins]
    rfl

/-- A component that begins a page becomes current. -/
theorem Effect.current_of_page {text : String} (h : builder.Effect .keyword text next)
    (hdeclaration : builder.situation.inDeclaration = false) (hblocks : builder.blocks = []) :
    next.current = some [builder.pagesBefore.length, 0] := by
  cases h with
  | page _ _ _ _ _ hcurrent => exact hcurrent
  | quiet hquiet _ _ _ => cases hdeclaration.symm.trans hquiet
  | child _ _ hblock _ _ _ _ => simp [hblocks] at hblock
  | opened hother | closed hother | className hother | mark hother => cases hother
  | parameter hother | literal hother => simp at hother

/-- A token that begins a page begins the component of this page. -/
theorem begins_of_beginsPage {before : List Token} {token : Token}
    (hrun : Builder.run {} before = .ok builder) (hread : builder.read token = .ok next)
    (hbegins : beginsPage before token = true) :
    Begins before token [2 * (pageTokens before).length, 0] := by
  obtain ⟨hkind, hdeclaration, hblocks⟩ := (beginsPage_iff hrun token).mp hbegins
  obtain ⟨htracked, hsituation⟩ := tracked_of_run hrun
  obtain ⟨components, hbody, hnames⟩ := pages_of_run hrun
  have hlength : builder.pagesBefore.length = 2 * (pageTokens before).length := by
    rw [pagesBefore, hbody, Grammar.length_pages_break]
    simpa using congrArg (2 * List.length ·) hnames
  have heffect := htracked.effect_accept (accept_of_read hread)
  rw [hkind] at heffect
  have hcurrent := heffect.current_of_page hdeclaration hblocks
  rw [hsituation] at hdeclaration
  obtain ⟨path, hpath, -⟩ := exists_begins hrun hread hkind hdeclaration
  obtain ⟨builder', next', hrun', hread', -, -, hcurrent'⟩ := hpath.begins
  cases hrun.symm.trans hrun'
  cases hread.symm.trans hread'
  obtain rfl : path = [2 * (pageTokens before).length, 0] := by
    rw [hcurrent, hlength] at hcurrent'
    exact (Option.some.inj hcurrent').symm
  exact hpath

end Builder

/-- The pages of a document and what is below them. -/
structure PageShape (tokens : List Token) (document : Document) : Prop where
  /-- The body is a row of pages with breaks between them, one page for each token that begins a
  page, and the component of a page has the name that this token gives it. -/
  pages : ∃ components, document.body = Grammar.pages components ∧
    components.map Node.componentName? = (pageTokens tokens).map fun token => some token.text
  /-- The component of a page is the one that its token began. -/
  begun : ∀ before token after, tokens = before ++ token :: after → beginsPage before token = true →
    Begins before token [2 * (pageTokens before).length, 0] ∧
      ∃ head children, head.name = token.text ∧
        document.body[2 * (pageTokens before).length]? =
          some (.pageWrapper (.component head children))
  /-- The depth at a token is the number of blocks that are open there. -/
  depth : ∀ before after, tokens = before ++ after →
    ∃ builder, Builder.run {} before = .ok builder ∧ builder.blocks.length = blockDepth before
  /-- No text stands outside all components. -/
  outside : ∀ text, .literal text ∉ document.body
  /-- A component that holds a text is a wrapper and holds nothing else. -/
  texts : ∀ head children text, Node.Occurs (.component head children) document.body →
    .literal text ∈ children →
    children = [.literal text] ∧ (head = .named Component.line ∨ head = .named Component.listItem)
  /-- The marks are line breaks and rules. -/
  marks : ∀ name element, Node.Occurs (.mark name element) document.body →
    (name = "BR" ∧ element = "br") ∨ (name = "HR" ∧ element = "hr")
  /-- Every component has the element of its name and no attributes. -/
  elements : ∀ head children, Node.Occurs (.component head children) document.body →
    head.element = Component.elementFor head.name ∧ head.attributes = ∅
  /-- Nothing is said about the document itself. -/
  unstamped : document.label = none ∧ document.metadata = ∅

/-- Every document that is read consists of pages with one component each, and below them of
components, wrapped texts and marks. -/
theorem documents_consist_of_pages {tokens : List Token} {document : Document}
    (h : ofTokens tokens = .ok document) : PageShape tokens document := by
  have hshaped : ∀ node ∈ document.body, node.Shaped fun _ => True :=
    shaped_of_ofTokens h trivial trivial fun _ _ _ => trivial
  obtain ⟨final, hrun, rfl⟩ := exists_run_of_ofTokens h
  obtain ⟨components, hbody, hnames⟩ := Builder.pages_of_run hrun
  refine
    { pages := ⟨components, hbody, hnames⟩
      begun := ?_
      depth := ?_
      outside := ?_
      texts := fun head children text hoccurs => hoccurs.wrapper hshaped
      marks := fun name element hoccurs => hoccurs.mark hshaped
      elements := fun head children hoccurs => hoccurs.element hshaped
      unstamped := ⟨rfl, rfl⟩ }
  · rintro before token after rfl hbegins
    obtain ⟨middle, next, hbefore, hread, -⟩ := Builder.exists_of_run_append hrun
    refine ⟨Builder.begins_of_beginsPage hbefore hread hbegins, ?_⟩
    have hname : (components.map Node.componentName?)[(pageTokens before).length]? =
        some (some token.text) := by
      rw [hnames, pageTokens, gather_append_cons, if_pos hbegins]
      simp [pageTokens]
    obtain ⟨node, hnode, hcomponent⟩ := Option.map_eq_some_iff.mp (List.getElem?_map ▸ hname)
    cases node with
    | component head children =>
      refine ⟨head, children, Option.some.inj hcomponent, ?_⟩
      change final.body[_]? = _
      rw [hbody, Grammar.getElem?_pages, hnode]
      rfl
    | literal text => cases hcomponent
    | mark name element => cases hcomponent
  · rintro before after rfl
    rw [Builder.run_append] at hrun
    obtain ⟨builder, hbefore, -⟩ := exists_ok_of_bind hrun
    exact ⟨builder, hbefore, Builder.length_blocks_eq_depth hbefore⟩
  · intro text hmem
    cases hshaped _ hmem

/-- A bracket that closes nothing, a key with a capital, a list with a child, and a component with a
rule behind it. -/
def unmatchedAroundPages : List Token :=
  [⟨.squareClose, "]", .first⟩, ⟨.declaration, "Reference", .first⟩, ⟨.keyword, "K", .first⟩,
    ⟨.colon, ":", .first⟩, ⟨.string, "v", .first⟩, ⟨.keyword, "List", .first⟩,
    ⟨.squareOpen, "[", .first⟩, ⟨.keyword, "B", .first⟩, ⟨.dot, ".", .first⟩,
    ⟨.identifier, "c", .first⟩, ⟨.string, "x", .first⟩, ⟨.squareClose, "]", .first⟩,
    ⟨.keyword, "C", .first⟩, ⟨.decorator, "--", .first⟩]

/-- A bracket that closes nothing and a key with a capital begin no page, and neither does a
component in a block. -/
theorem pages_around_unmatched_brackets :
    ∃ document, ofTokens unmatchedAroundPages = .ok document ∧
      (pageTokens unmatchedAroundPages).map Token.text = ["List", "C"] ∧
      document.body.length = 3 ∧ PageShape unmatchedAroundPages document :=
  ⟨_, rfl, rfl, rfl, documents_consist_of_pages rfl⟩

end Document

end PageMarkup
