import PageMarkup.Proofs.Document.Cursor
import PageMarkup.Proofs.Document.Nesting
import PageMarkup.Proofs.Document.Origin

/-!
# How texts are wrapped

A text is an item if it stands in a list, and a line otherwise. What counts is the innermost block
that is open where the text is read, not the component that gets the text: a component that has
begun inside this block and has no block of its own passes its texts off as texts of the block. So
a text that a colon gives to a list is a line, and a text that a colon gives to a child of a list is
an item. All this holds whether or not the brackets match, so the blocks are followed here by their
square brackets alone.
-/

namespace PageMarkup

namespace Document

/-- The component that was current at the last square bracket that no later one closes. -/
def InnermostBlock (tokens : List Token) (path : Path) : Prop :=
  ∃ before opener after builder, tokens = before ++ opener :: after ∧
    opener.kind = .squareOpen ∧ Brackets.depth? .square 0 after = some 0 ∧
    Builder.run {} before = .ok builder ∧ builder.current = some path

namespace Builder

variable {builder next final : Builder} {inner outer : List Path} {tokens : List Token}

/-- Tokens that leave the outer blocks open all the time close none of them by a square bracket. -/
theorem Tracked.depth_of_blocks (h : builder.Tracked) (hrun : builder.run tokens = .ok final)
    (hblocks : builder.blocks = inner ++ outer) (houter : outer ≠ [])
    (hsince : ∀ shorter more reached, tokens = shorter ++ more →
      builder.run shorter = .ok reached → outer <:+ reached.blocks) :
    ∃ blocks, final.blocks = blocks ++ outer ∧
      Brackets.depth? .square inner.length tokens = some blocks.length := by
  refine (h.blocks_run hrun hblocks).resolve_right ?_
  rintro ⟨-, shorter, more, reached, hsplit, hshorter, htail⟩
  -- The innermost of the outer blocks would be closed while it has to stay open.
  have hopen := (hsince shorter more reached hsplit hshorter).length_le
  have hpositive := List.length_pos_iff.mpr houter
  rw [htail, List.length_tail] at hopen
  omega

/-- The innermost of the open blocks is that of the last square bracket that is not closed. -/
theorem innermostBlock_iff (hrun : Builder.run {} tokens = .ok builder) {path : Path} :
    InnermostBlock tokens path ↔ builder.blocks.head? = some path := by
  constructor
  · rintro ⟨before, opener, after, middle, rfl, hkind, hdepth, hbefore, hcurrent⟩
    obtain ⟨middle', next, hbefore', hread, hafter⟩ := exists_of_run_append hrun
    cases hbefore.symm.trans hbefore'
    have htracked := (tracked_of_run hbefore).1
    have haccept := accept_of_read hread
    obtain ⟨⟨block, hblock, hpush⟩, -⟩ : (∃ block, middle.current = some block ∧
        next.blocks = block :: middle.blocks) ∧ next.squares = middle.squares + 1 := by
      simpa [hkind] using (htracked.effect_accept haccept).blocks_cases
    obtain rfl : path = block := Option.some.inj (hcurrent.symm.trans hblock)
    exact (htracked.extends_accept haccept).tracked.head?_blocks hafter hpush hdepth
  · intro hhead
    obtain ⟨outer, hblocks⟩ := List.head?_eq_some_iff.mp hhead
    have hnot : ¬path :: outer <:+ ({} : Builder).blocks := by
      intro hsuffix
      cases List.suffix_nil.mp hsuffix
    have hfinal : path :: outer <:+ builder.blocks := ⟨[], hblocks.symm⟩
    obtain ⟨before, token, after, middle, next, rfl, hbefore, hread, hafter, hclosed, hopen,
      hsince⟩ := exists_turn (p := fun builder => path :: outer <:+ builder.blocks) hrun hnot hfinal
    have htracked := (tracked_of_run hbefore).1
    have haccept := accept_of_read hread
    rcases (htracked.effect_accept haccept).blocks_cases with ⟨hkind, ⟨block, hblock, hpush⟩, -⟩ |
      ⟨-, hpop, -⟩ | ⟨-, -, hsame⟩
    · rw [hpush, List.suffix_cons_iff] at hopen
      obtain ⟨rfl, rfl⟩ : path = block ∧ outer = middle.blocks := by simpa [hclosed] using hopen
      have hopened : next.blocks = [] ++ path :: middle.blocks := hpush
      obtain ⟨inside, hinside, hdepth⟩ :=
        (htracked.extends_accept haccept).tracked.depth_of_blocks hafter hopened
          (List.cons_ne_nil _ _) hsince
      obtain rfl : inside = [] := by simpa [hblocks] using hinside
      exact ⟨before, token, after, middle, rfl, hkind, hdepth, hbefore, hblock⟩
    · rw [hpop] at hopen
      exact absurd (hopen.trans (List.tail_suffix _)) hclosed
    · rw [hsame.blocks] at hopen
      exact absurd hopen hclosed

/-- Whether a text stands in a list is told by the component of the innermost block, also by what
has become of it in the end. -/
theorem Tracked.inList_eq (h : builder.Tracked) {block : Path}
    (hblock : builder.blocks.head? = some block) {body : List Node}
    (hgrown : Grown builder.body body) :
    ∃ head children, Node.at? body block = some (head, children) ∧
      builder.inList = (head.name == Component.list) := by
  obtain ⟨outer, hblocks⟩ := List.head?_eq_some_iff.mp hblock
  obtain ⟨head, children, hat⟩ := (h.cursor.blocks block (by simp [hblocks])).leads
  obtain ⟨grown, nodes, hlater, hname, -⟩ := hgrown.at? hat
  refine ⟨grown, nodes, hlater, ?_⟩
  simp [inList, hblocks, hat, hname]

end Builder

/-- Where a text stands that is read after the given tokens: the component that has it in the end,
and whether the text stands in a list. -/
inductive TextPlace (before : List Token) (body : List Node) : Path → Bool → Prop
  /-- The text is written in a block, and its component is that of the block. -/
  | block {block : Path} {head : Component} {children : List Node}
    (hblock : InnermostBlock before block) (hat : Node.at? body block = some (head, children)) :
    TextPlace before body block (head.name == Component.list)
  /-- The text is written behind a component that has begun in a block and has none of its own. -/
  | behind {block : Path} {index : Nat} {head : Component} {children : List Node}
    (hblock : InnermostBlock before block) (hat : Node.at? body block = some (head, children))
    (hlatest : Latest before (block ++ [index])) :
    TextPlace before body (block ++ [index]) (head.name == Component.list)
  /-- The text is written behind a component outside all blocks. -/
  | page {index : Nat} (hblock : ∀ block, ¬InnermostBlock before block)
    (hlatest : Latest before [index, 0]) : TextPlace before body [index, 0] false

/-- The current component is the place of a text. -/
theorem Builder.textPlace {tokens : List Token} {builder : Builder} {body : List Node}
    (hrun : Builder.run {} tokens = .ok builder) (hgrown : Grown builder.body body) {parent : Path}
    (hparent : builder.current = some parent) :
    TextPlace tokens body parent builder.inList := by
  have htracked := (tracked_of_run hrun).1
  cases hblock : builder.blocks.head? with
  | some block =>
    obtain ⟨head, children, hat, hlist⟩ := htracked.inList_eq hblock hgrown
    have hinnermost := (innermostBlock_iff hrun).mpr hblock
    obtain ⟨path, hpath, hplace⟩ := htracked.cursor.inBlock block hblock
    obtain rfl : path = parent := Option.some.inj (hpath.symm.trans hparent)
    rw [hlist]
    rcases hplace with rfl | ⟨index, rfl⟩
    · exact .block hinnermost hat
    · refine .behind hinnermost hat ((current_cases hrun hparent).resolve_left ?_)
      simp [hblock]
  | none =>
    have hnone : ∀ block, ¬InnermostBlock tokens block := by
      intro block hinnermost
      rw [innermostBlock_iff hrun, hblock] at hinnermost
      cases hinnermost
    have hblocks := List.head?_eq_none_iff.mp hblock
    have hlist : builder.inList = false := by simp [inList, hblocks]
    rcases htracked.cursor.outside hblocks with hcurrent | ⟨pages, component, -, hcurrent⟩
    · cases hcurrent.symm.trans hparent
    · obtain rfl : [pages.length, 0] = parent := Option.some.inj (hcurrent.symm.trans hparent)
      rw [hlist]
      refine .page hnone ((current_cases hrun hparent).resolve_left ?_)
      simp [hblock]

/-- A component is the wrapper of the text of one token: an item if the text stands in a list, and a
line otherwise. -/
def WrapsText (tokens : List Token) (body : List Node) (path : Path) (wrapper : Component)
    (inside : List Node) : Prop :=
  ∃ before token after parent index inList, tokens = before ++ token :: after ∧
    (token.kind = .string ∨ token.kind = .constant) ∧ path = parent ++ [index] ∧
    inside = [.literal token.text] ∧ TextPlace before body parent inList ∧
    wrapper.name = (if inList then Component.listItem else Component.line) ∧
    wrapper.element = (if inList then "li" else "div")

/-- Each component that holds a text is the wrapper of one token, and it is an item exactly where
the innermost block at this token is that of a list. -/
theorem wrapper_follows_innermost_block {tokens : List Token} {document : Document} {path : Path}
    {wrapper : Component} {inside : List Node} (hread : ofTokens tokens = .ok document)
    (hat : Node.at? document.body path = some (wrapper, inside))
    (htext : ∃ child ∈ inside, child.isLiteral = true) :
    WrapsText tokens document.body path wrapper inside := by
  obtain ⟨final, hrun, rfl⟩ := exists_run_of_ofTokens hread
  have hnot : ¬Node.at? ({} : Builder).body path = some (wrapper, inside) := by
    cases path <;> rintro ⟨⟩
  obtain ⟨before, token, after, builder, next, rfl, hbefore, htoken, hafter, hnew, hholds, -⟩ :=
    Builder.exists_turn (p := fun builder => Node.at? builder.body path = some (wrapper, inside))
      hrun hnot hat
  have htracked := (Builder.tracked_of_run hbefore).1
  have haccept := Builder.accept_of_read htoken
  have heffect := htracked.effect_accept haccept
  rcases heffect.wrapper_cases hholds htext with
    hold | ⟨hkind, hwrapped, parent, head, nodes, hparent, -, rfl⟩
  · exact absurd hold hnew
  · have hgrown : Grown builder.body final.body :=
      heffect.grown.trans ((htracked.extends_accept haccept).tracked.grown_run hafter).1
    have hplace := Builder.textPlace hbefore hgrown hparent
    cases hwrapped
    refine ⟨before, token, after, parent, nodes.length, builder.inList, rfl, hkind, rfl, rfl,
      hplace, rfl, ?_⟩
    cases builder.inList <;> rfl

/-- The block of a list with a short form in it. -/
def shorthandInList : List Token :=
  [⟨.keyword, "List", .first⟩, ⟨.squareOpen, "[", .first⟩, ⟨.keyword, "Text", .first⟩,
    ⟨.colon, ":", .first⟩, ⟨.string, "x", .first⟩, ⟨.squareClose, "]", .first⟩]

/-- In the block of a list, a text behind a colon is an item below the component before the colon,
and this component is no list. -/
theorem wrapper_of_shorthand_in_list :
    ∃ document, ofTokens shorthandInList = .ok document ∧
      Node.at? document.body [0, 0, 0, 0] =
        some (.named Component.listItem, [.literal "x"]) ∧
      WrapsText shorthandInList document.body [0, 0, 0, 0] (.named Component.listItem)
        [.literal "x"] :=
  ⟨_, rfl, rfl,
    wrapper_follows_innermost_block rfl rfl ⟨.literal "x", List.mem_singleton_self _, rfl⟩⟩

/-- The component that holds the wrapper of a text does not tell what the wrapper is: behind a colon
the text of a list is a line. -/
theorem wrapper_differs_from_parent :
    ¬∀ (tokens : List Token) (document : Document) (parent : Path) (index : Nat)
      (head wrapper : Component) (children inside : List Node),
      ofTokens tokens = .ok document → Node.at? document.body parent = some (head, children) →
      Node.at? document.body (parent ++ [index]) = some (wrapper, inside) →
      (∃ child ∈ inside, child.isLiteral = true) →
      (head.name = Component.list →
        wrapper.name = Component.listItem ∧ wrapper.element = "li") ∧
      (head.name ≠ Component.list → wrapper.name = Component.line ∧ wrapper.element = "div") := by
  intro hparent
  have hlist := hparent
    [⟨.keyword, "List", .first⟩, ⟨.colon, ":", .first⟩, ⟨.string, "x", .first⟩] _ [0, 0] 0 _ _ _ _
    rfl rfl rfl ⟨.literal "x", List.mem_singleton_self _, rfl⟩
  have hname : Component.line = Component.listItem := (hlist.1 rfl).1
  exact absurd hname (by decide)

end Document

end PageMarkup
