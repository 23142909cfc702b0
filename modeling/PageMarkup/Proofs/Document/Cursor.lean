import PageMarkup.Proofs.Document.Conservation

/-!
# The paths that the builder keeps

The builder remembers components by their paths while the tree below these paths keeps growing.
Whatever tokens are read, balanced or not, each remembered path leads to a component on the last
branch of the tree: it begins with the last page and then takes the last child each time. The open
blocks lie one below the other, and the current component is that of the innermost block or a child
of it. So the builder never loses a component that it remembers.
-/

namespace PageMarkup

/-- A path that leads to a component by way of the last page and of last children only. -/
structure OnLastBranch (body : List Node) (path : Path) : Prop where
  /-- The path leads to a component. -/
  leads : ∃ head children, Node.at? body path = some (head, children)
  /-- The path begins with the last page and its first child. -/
  page : ∃ index rest, path = index :: 0 :: rest ∧ body.length = index + 1
  /-- Every further index is that of the last child of the component reached so far. -/
  last : ∀ outer index rest, outer ≠ [] → path = outer ++ index :: rest →
    ∃ head children, Node.at? body outer = some (head, children) ∧ children.length = index + 1

namespace Frame

/-- A path along the first frames of a branch leads to the last of these frames, which holds the
rest of the branch. -/
theorem exists_of_isPrefix {frames : List Frame} {path : Path} (hpath : path ≠ [])
    (habove : path <+: Frame.path frames) (nodes : List Node) :
    ∃ upper last lower, frames = upper ++ [last] ++ lower ∧
      path = Frame.path (upper ++ [last]) ∧
      Node.at? (plug frames nodes) path = some (last.head, plug lower nodes) := by
  obtain ⟨rest, hrest⟩ := habove
  obtain ⟨first, lower, rfl, hfirst, -⟩ := List.map_eq_append_iff.mp hrest.symm
  obtain rfl | ⟨upper, last, rfl⟩ := List.eq_nil_or_concat first
  · exact absurd hfirst.symm hpath
  have hupper : path = Frame.path (upper ++ [last]) := by
    rw [← hfirst, List.concat_eq_append]
    rfl
  rw [List.concat_eq_append]
  refine ⟨upper, last, lower, rfl, hupper, ?_⟩
  rw [plug_append, hupper, at?_plug]

/-- The paths along the first frames of a branch are those on the last branch of its tree. -/
theorem onLastBranch_of_isPrefix {frames : List Frame} {path : Path} {index : Nat} {rest : Path}
    (hpage : path = index :: 0 :: rest) (habove : path <+: Frame.path frames)
    (nodes : List Node) : OnLastBranch (plug frames nodes) path where
  leads := by
    obtain ⟨upper, last, lower, -, -, hat⟩ := exists_of_isPrefix (by simp [hpage]) habove nodes
    exact ⟨_, _, hat⟩
  page := by
    refine ⟨index, rest, hpage, ?_⟩
    cases frames with
    | nil => simp [hpage] at habove
    | cons frame more =>
      have hindex : index = frame.before.length := by
        rw [hpage, path_cons, List.cons_prefix_cons] at habove
        exact habove.1
      rw [plug_cons, List.length_append, List.length_singleton, hindex]
  last := by
    intro outer next below houter hsplit
    have hup : outer <+: Frame.path frames := by
      refine List.IsPrefix.trans ?_ habove
      rw [hsplit]
      exact List.prefix_append _ _
    obtain ⟨upper, last, lower, rfl, hpath, hat⟩ := exists_of_isPrefix houter hup nodes
    refine ⟨_, _, hat, ?_⟩
    -- What comes below the outer part is the frame that the next index belongs to.
    rw [hsplit, path_append, ← hpath, List.prefix_append_right_inj] at habove
    cases lower with
    | nil => simp at habove
    | cons frame more =>
      rw [path_cons, List.cons_prefix_cons] at habove
      rw [plug_cons, List.length_append, List.length_singleton, habove.1]

end Frame

namespace Document

namespace Nested

variable {blocks : List Path} {path current : Path}

/-- A path that fits blocks leads through the only child of a page. -/
theorem exists_eq_cons (h : Nested blocks current) :
    ∃ index rest, current = index :: 0 :: rest := by
  induction h with
  | page index => exact ⟨index, [], rfl⟩
  | same h ih => exact ih
  | child h last ih =>
    obtain ⟨index, rest, rfl⟩ := ih
    exact ⟨index, rest ++ [last], rfl⟩

/-- Every open block lies above the current component and fits the blocks around it. -/
theorem exists_of_mem (h : Nested blocks current) (hpath : path ∈ blocks) :
    path <+: current ∧ ∃ around, Nested around path := by
  induction h with
  | page index => simp at hpath
  | @same around above h ih =>
    rcases List.mem_cons.mp hpath with rfl | hpath
    · exact ⟨List.prefix_rfl, around, h⟩
    · exact ih hpath
  | @child around above h index ih =>
    rcases List.mem_cons.mp hpath with rfl | hpath
    · exact ⟨List.prefix_append _ _, around, h⟩
    · obtain ⟨habove, hnested⟩ := ih hpath
      exact ⟨habove.trans (List.prefix_append _ _), hnested⟩

/-- Open blocks lie one below the other. -/
theorem pairwise_isPrefix (h : Nested blocks current) :
    blocks.Pairwise fun inner outer => outer <+: inner := by
  induction h with
  | page index => exact .nil
  | same h ih => exact .cons (fun outer houter => (h.exists_of_mem houter).1) ih
  | child h index ih => exact .cons (fun outer houter => (h.exists_of_mem houter).1) ih

/-- The current component is that of the innermost block or a child of it. -/
theorem eq_or_child (h : Nested blocks current) {block : Path}
    (hblock : blocks.head? = some block) :
    current = block ∨ ∃ index, current = block ++ [index] := by
  obtain ⟨around, rfl⟩ := List.head?_eq_some_iff.mp hblock
  cases h with
  | same h => exact .inl rfl
  | child h index => exact .inr ⟨index, rfl⟩

end Nested

namespace Builder

variable {builder : Builder}

/-- What holds of the paths that a builder keeps. -/
structure Cursor (builder : Builder) : Prop where
  /-- The current component lies on the last branch. -/
  current : ∀ path, builder.current = some path → OnLastBranch builder.body path
  /-- The components of open blocks lie on the last branch. -/
  blocks : ∀ path ∈ builder.blocks, OnLastBranch builder.body path
  /-- The blocks lie one below the other, from the outermost, which comes last. -/
  nested : builder.blocks.Pairwise fun inner outer => outer <+: inner
  /-- In a block the current component is that of the block or a child of it. -/
  inBlock : ∀ block, builder.blocks.head? = some block →
    ∃ path, builder.current = some path ∧ (path = block ∨ ∃ index, path = block ++ [index])
  /-- Outside all blocks the current component, if there is one, is that of the last page. -/
  outside : builder.blocks = [] → builder.current = none ∨
    ∃ pages component, builder.body = pages ++ [.pageWrapper component] ∧
      builder.current = some [pages.length, 0]

/-- Where the current component lies on the last branch, so does everything that is kept. -/
theorem Rooted.cursor {pages nodes : List Node} {middle : List Frame} {inner : Frame}
    (h : builder.Rooted pages middle inner nodes) : builder.Cursor where
  current := by
    intro path hpath
    obtain rfl : Frame.path _ = path := Option.some.inj (h.current.symm.trans hpath)
    obtain ⟨index, rest, hpage⟩ := h.nested.exists_eq_cons
    rw [h.body]
    exact Frame.onLastBranch_of_isPrefix hpage List.prefix_rfl nodes
  blocks := by
    intro path hpath
    obtain ⟨habove, around, hnested⟩ := h.nested.exists_of_mem hpath
    obtain ⟨index, rest, hpage⟩ := hnested.exists_eq_cons
    rw [h.body]
    exact Frame.onLastBranch_of_isPrefix hpage habove nodes
  nested := h.nested.pairwise_isPrefix
  inBlock := fun block hblock => ⟨_, h.current, h.nested.eq_or_child hblock⟩
  outside := by
    intro hblocks
    right
    have hnested := h.nested
    rw [hblocks] at hnested
    generalize hpath : Frame.path _ = path at hnested
    cases hnested with
    | page index =>
      -- A branch of two indices has nothing between the page and the component.
      obtain rfl | ⟨frame, more⟩ := middle
      · obtain ⟨-, hbefore⟩ : pages.length = index ∧ inner.before = [] := by simpa using hpath
        refine ⟨pages, .component inner.head nodes, ?_, ?_⟩
        · simpa [hbefore, Node.pageWrapper] using h.body
        · simpa [hbefore] using h.current
      · simp at hpath

/-- What a tracked builder keeps are paths on the last branch. -/
theorem Tracked.cursor (h : builder.Tracked) : builder.Cursor := by
  cases h with
  | idle hblocks hcurrent =>
    exact
      { current := by simp [hcurrent]
        blocks := by simp [hblocks]
        nested := by simp [hblocks]
        inBlock := by simp [hblocks]
        outside := fun _ => .inl hcurrent }
  | rooted h => exact h.cursor

/-- A change of the current component fails only where there is none. -/
theorem Tracked.fault_of_attach (h : builder.Tracked) {what : Attachment}
    {changeHead : Component → Component} {changeNodes : List Node → List Node} {fault : Fault}
    (hattach : (builder.attach what fun head children =>
      .component (changeHead head) (changeNodes children)) = .error fault) :
    fault = .outside what := by
  cases hcurrent : builder.current with
  | none =>
    simp only [attach, hcurrent] at hattach
    exact (Except.error.inj hattach).symm
  | some path =>
    obtain ⟨pages, middle, inner, nodes, hrooted⟩ := h.exists_rooted hcurrent
    rw [hrooted.attach] at hattach
    cases hattach

/-- A component can always begin. -/
theorem Tracked.exists_beginComponent (h : builder.Tracked) (name : String) :
    ∃ next, builder.beginComponent name = .ok next := by
  cases hblock : builder.blocks.head? with
  | none => exact ⟨_, beginComponent_page (List.head?_eq_none_iff.mp hblock) name⟩
  | some path =>
    obtain ⟨pages, middle, inner, nodes, hrooted⟩ := h.exists_block hblock
    exact ⟨_, beginComponent_block hrooted.body (hblock.trans hrooted.current) name⟩

/-- The text of a value fails only outside all components. -/
theorem Tracked.fault_of_addLiteral (h : builder.Tracked) {text : String} {fault : Fault}
    (hadd : builder.addLiteral text = .error fault) : fault = .outside .literal := by
  rcases error_of_bind hadd with happend | ⟨changed, -, hnext⟩
  · exact h.fault_of_attach happend
  · split at hnext
    · cases hnext
    · cases hnext

/-- The faults of tokens: there is no component to give something to or to open, a decorator has no
meaning, or a declaration is incomplete. -/
theorem Tracked.fault_of_accept (h : builder.Tracked) {kind : TokenKind} {text : String}
    {fault : Fault} (haccept : builder.accept kind text = .error fault) :
    (∃ what, fault = .outside what) ∨ fault = .nothingToOpen ∨ fault = .unknownDecorator text ∨
      fault = .incompleteDeclaration := by
  have hsettled : (builder.settle kind).Tracked := by
    rw [settle]
    split
    · exact h
    · exact h.congr rfl rfl rfl
  rw [accept] at haccept
  generalize builder.settle kind = settled at haccept hsettled
  cases kind with
  | keyword =>
    simp only [dispatch, readKeyword] at haccept
    split at haccept
    · cases haccept
    · obtain ⟨next, hbegin⟩ := hsettled.exists_beginComponent text
      rw [hbegin] at haccept
      cases haccept
  | identifier =>
    simp only [dispatch, readIdentifier] at haccept
    split at haccept
    · cases haccept
    · split at haccept
      · rcases error_of_bind haccept with hattach | ⟨changed, -, hnext⟩
        · exact .inl ⟨_, hsettled.fault_of_attach hattach⟩
        · cases hnext
      · split at haccept <;> cases haccept
    · cases haccept
  | string | constant =>
    change settled.readValue text = .error fault at haccept
    rcases settled.readValue_cases text with ⟨-, hread⟩ | ⟨-, -, key, hread, -⟩ | ⟨-, -, hread⟩
    · rw [hread, declare] at haccept
      split at haccept
      · exact .inr (.inr (.inr (Except.error.inj haccept).symm))
      · cases haccept
    · rw [hread] at haccept
      rcases error_of_bind haccept with hattach | ⟨changed, -, hnext⟩
      · exact .inl ⟨_, hsettled.fault_of_attach hattach⟩
      · cases hnext
    · rw [hread] at haccept
      exact .inl ⟨_, hsettled.fault_of_addLiteral haccept⟩
  | decorator =>
    simp only [dispatch, readDecorator] at haccept
    split at haccept
    · exact .inl ⟨_, hsettled.fault_of_attach haccept⟩
    · exact .inr (.inr (.inl (Except.error.inj haccept).symm))
  | squareOpen =>
    simp only [dispatch, Builder.openBlock] at haccept
    split at haccept
    · exact .inr (.inl (Except.error.inj haccept).symm)
    · cases haccept
  | declaration | squareClose | roundOpen | roundClose | colon | dot | comma | integer =>
    cases haccept

end Builder

/-- The wording for a decorator without meaning begins like no other. -/
theorem Fault.head?_message_unknownDecorator (text : String) :
    (Fault.unknownDecorator text).message.toList.head? = some 'U' := by
  have hword : "Unknown decorator /".toList.head? = some 'U' := by decide +kernel
  change ("Unknown decorator /" ++ text ++ "/").toList.head? = some 'U'
  rw [String.toList_append, String.toList_append, List.append_assoc, List.head?_append, hword,
    Option.some_or]

/-- A fault that is no lost component is not worded as one. -/
theorem Fault.message_ne_lost {fault : Fault} {text : String}
    (h : (∃ what, fault = .outside what) ∨ fault = .nothingToOpen ∨
      fault = .unknownDecorator text ∨ fault = .incompleteDeclaration) :
    fault.message ≠ "Lost track of the open component" ∧
      fault.message ≠ "Lost track of the enclosing component" := by
  rcases h with ⟨what, rfl⟩ | rfl | rfl | rfl
  · cases what <;> decide +kernel
  · decide +kernel
  · have hfirst := Fault.head?_message_unknownDecorator text
    constructor
    · intro hmessage
      rw [hmessage] at hfirst
      exact absurd hfirst (by decide +kernel)
    · intro hmessage
      rw [hmessage] at hfirst
      exact absurd hfirst (by decide +kernel)
  · decide +kernel

/-- Whatever tokens are read, balanced or not, the builder keeps to the last branch of the tree, and
it never loses a component. -/
theorem cursor_keeps_to_last_branch (tokens : List Token) :
    (∀ read, read <+: tokens → ∀ builder, Builder.run {} read = .ok builder → builder.Cursor) ∧
      ∀ fault, ofTokens tokens = .error fault →
        fault.value.message ≠ "Lost track of the open component" ∧
          fault.value.message ≠ "Lost track of the enclosing component" := by
  constructor
  · intro read _ builder hrun
    exact (Builder.tracked_of_run hrun).1.cursor
  · intro fault herror
    obtain ⟨before, token, after, middle, -, hbefore, haccept, -⟩ :=
      Builder.exists_of_run_error (run_of_ofTokens_error herror)
    exact Fault.message_ne_lost ((Builder.tracked_of_run hbefore).1.fault_of_accept haccept)

/-- A bracket that closes nothing, and a component with a block inside its block. -/
def blockOpenedTwice : List Token :=
  [⟨.squareClose, "]", .first⟩, ⟨.keyword, "A", .first⟩, ⟨.squareOpen, "[", .first⟩,
    ⟨.squareOpen, "[", .first⟩, ⟨.string, "x", .first⟩, ⟨.keyword, "B", .first⟩]

/-- A text behind a bracket that closes nothing. -/
def textBehindCloser : List Token :=
  [⟨.keyword, "A", .first⟩, ⟨.squareClose, "]", .first⟩, ⟨.string, "x", .first⟩]

/-- A block that is opened twice on one component is on the last branch twice, also after brackets
that close nothing, and a text behind a bracket that closes nothing is refused as such. -/
theorem cursor_of_block_opened_twice :
    (∃ builder : Builder, Builder.run {} blockOpenedTwice = .ok builder ∧
      builder.blocks = [[0, 0], [0, 0]] ∧ builder.current = some [0, 0, 1] ∧ builder.Cursor) ∧
    ∃ fault, ofTokens textBehindCloser = .error fault ∧
      fault.value.message ≠ "Lost track of the open component" ∧
        fault.value.message ≠ "Lost track of the enclosing component" := by
  constructor
  · refine ⟨_, rfl, rfl, rfl, ?_⟩
    exact (cursor_keeps_to_last_branch blockOpenedTwice).1 _ List.prefix_rfl _ rfl
  · refine ⟨_, rfl, ?_⟩
    exact (cursor_keeps_to_last_branch textBehindCloser).2 _ rfl

end Document

end PageMarkup
