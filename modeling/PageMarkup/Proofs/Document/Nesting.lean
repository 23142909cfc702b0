import PageMarkup.Proofs.Document.Growth
import PageMarkup.Proofs.Document.Runs
import PageMarkup.Proofs.Matching

/-!
# Nesting follows the brackets

The builder opens and closes blocks without a look at the shapes of brackets, and the check of the
brackets knows no components. Where the check passes, the two agree: at every token as many blocks
are open as square brackets, and the innermost block is that of the component that was current when
the innermost open square bracket was read. Components outside all square brackets are pages, all
others are children of the innermost block's component. Texts and marks belong to this component or
to the latest one that has begun since the last square bracket.
-/

namespace PageMarkup

/-- A path goes on from the component that its first part leads to. -/
theorem Node.at?_append {nodes children : List Node} {path rest : Path} {head : Component}
    (hat : Node.at? nodes path = some (head, children)) (hrest : rest ≠ []) :
    Node.at? nodes (path ++ rest) = Node.at? children rest := by
  induction path generalizing nodes with
  | nil => cases hat
  | cons index more ih =>
    simp only [Node.at?] at hat
    split at hat
    · next before below hnode =>
      simp only [List.cons_append, Node.at?, hnode]
      by_cases hmore : more = []
      · rw [if_pos hmore] at hat
        cases hat
        simp [hmore, hrest]
      · rw [if_neg hmore] at hat
        rw [if_neg (by simp [hmore])]
        exact ih hat
    · cases hat

namespace Document

namespace Situation

/-- Whether a token of the given kind is no square bracket and begins no component. -/
def stays (situation : Situation) (kind : TokenKind) : Bool :=
  kind ≠ .squareOpen ∧ kind ≠ .squareClose ∧
    (kind = .keyword → situation.inDeclaration = true)

/-- A token that leaves the tree and the blocks alone is such a token. -/
theorem stays_of_quiet {situation : Situation} {kind : TokenKind}
    (h : situation.quiet kind = true) : situation.stays kind = true := by
  cases kind with
  | keyword =>
    have hdeclaration : situation.inDeclaration = true := h
    simp [stays, hdeclaration]
  | squareOpen | squareClose => cases h
  | identifier | string | constant | decorator | declaration | roundOpen | roundClose | colon
  | comma | dot | integer => rfl

/-- Whether tokens are no square brackets and begin no component. -/
def staysAll : Situation → List Token → Bool
  | _, [] => true
  | situation, token :: rest =>
    situation.stays token.kind && (situation.next token.kind).staysAll rest

/-- One more token. -/
theorem staysAll_concat (situation : Situation) (tokens : List Token) (token : Token) :
    situation.staysAll (tokens ++ [token]) =
      (situation.staysAll tokens && (situation.after tokens).stays token.kind) := by
  induction tokens generalizing situation with
  | nil => simp [staysAll, after]
  | cons first rest ih =>
    simp only [List.cons_append, staysAll, ih, Bool.and_assoc]
    rfl

end Situation

/-- A token begins a component, at a path that led to no component before. -/
structure Begins (before : List Token) (token : Token) (path : Path) : Prop where
  kind : token.kind = .keyword
  declaration : (Situation.after {} before).inDeclaration = false
  begins : ∃ builder next, Builder.run {} before = .ok builder ∧ builder.read token = .ok next ∧
    Node.at? builder.body path = none ∧
    Node.at? next.body path = some (.named token.text, []) ∧ next.current = some path

/-- The component that was current when the innermost square bracket was read that is open after the
tokens. -/
def Enclosing (tokens : List Token) (path : Path) : Prop :=
  ∃ before opener after builder, Brackets.InnermostSquare tokens before opener after ∧
    Builder.run {} before = .ok builder ∧ builder.current = some path

/-- The last component that has begun, with no square bracket since. -/
def Latest (tokens : List Token) (path : Path) : Prop :=
  ∃ before token after, tokens = before ++ token :: after ∧ Begins before token path ∧
    (Situation.after {} (before ++ [token])).staysAll after = true

/-- The latest component stays the latest one until a square bracket or a further component. -/
theorem Latest.concat {tokens : List Token} {path : Path} (h : Latest tokens path) {token : Token}
    (hstays : (Situation.after {} tokens).stays token.kind = true) :
    Latest (tokens ++ [token]) path := by
  obtain ⟨before, beginner, after, rfl, hbegins, hafter⟩ := h
  refine ⟨before, beginner, after ++ [token], by simp, hbegins, ?_⟩
  rw [Situation.staysAll_concat, hafter, Bool.true_and]
  simpa [Situation.after] using hstays

/-- How many blocks are open after the tokens of a document, as the square brackets tell. A bracket
that closes closes nothing where none is open. -/
def blockDepth (tokens : List Token) : Nat := Brackets.depthAfter .square 0 tokens

namespace Builder

variable {builder next final : Builder} {inner outer : List Path}

/-- Only square brackets open and close blocks. -/
theorem Effect.blocks_cases {kind : TokenKind} {text : String} (h : builder.Effect kind text next) :
    (kind = .squareOpen ∧ (∃ path, builder.current = some path ∧
      next.blocks = path :: builder.blocks) ∧ next.squares = builder.squares + 1) ∨
    (kind = .squareClose ∧ next.blocks = builder.blocks.tail ∧
      next.squares = builder.squares - 1) ∨
    (kind ≠ .squareOpen ∧ kind ≠ .squareClose ∧ builder.SameBlocks next) := by
  cases h with
  | quiet hquiet _ hblocks _ =>
    refine .inr (.inr ⟨?_, ?_, hblocks⟩)
    · rintro rfl
      cases hquiet
    · rintro rfl
      cases hquiet
  | opened hkind hpath _ hblocks hsquares _ =>
    exact .inl ⟨hkind, ⟨_, hpath, hblocks⟩, hsquares⟩
  | closed hkind _ hblocks hsquares _ => exact .inr (.inl ⟨hkind, hblocks, hsquares⟩)
  | page hkind _ _ _ hblocks _ => exact .inr (.inr (by simp [hkind, hblocks]))
  | child hkind _ _ _ _ hblocks _ => exact .inr (.inr (by simp [hkind, hblocks]))
  | className hkind _ _ _ hblocks _ => exact .inr (.inr (by simp [hkind, hblocks]))
  | parameter hkind _ _ _ _ hblocks _ =>
    rcases hkind with rfl | rfl <;> exact .inr (.inr (by simp [hblocks]))
  | literal hkind _ _ _ _ hblocks _ =>
    rcases hkind with rfl | rfl <;> exact .inr (.inr (by simp [hblocks]))
  | mark hkind _ _ _ hblocks _ => exact .inr (.inr (by simp [hkind, hblocks]))

/-- A token opens and closes blocks as the square brackets say, until it closes one of the outer
blocks. -/
theorem Effect.blocks_depth {kind : TokenKind} {text : String} (h : builder.Effect kind text next)
    (hblocks : builder.blocks = inner ++ outer) :
    (∃ blocks, next.blocks = blocks ++ outer ∧
      Brackets.depthStep? .square inner.length kind = some blocks.length) ∨
    next.blocks = outer.tail ∧ Brackets.depthStep? .square inner.length kind = none := by
  rcases h.blocks_cases with ⟨rfl, ⟨path, -, hpush⟩, -⟩ | ⟨rfl, hpop, -⟩ | ⟨hopen, hclose, hsame⟩
  · exact .inl ⟨path :: inner, by rw [hpush, hblocks]; rfl, rfl⟩
  · rw [hblocks] at hpop
    cases inner with
    | nil => exact .inr ⟨hpop, rfl⟩
    | cons path rest => exact .inl ⟨rest, hpop, rfl⟩
  · exact .inl ⟨inner, hsame.blocks.trans hblocks, Brackets.depthStep?_other hopen hclose _⟩

/-- Tokens open and close blocks as the square brackets say, until one of them closes one of the
outer blocks. -/
theorem Tracked.blocks_run (h : builder.Tracked) {tokens : List Token}
    (hrun : builder.run tokens = .ok final) (hblocks : builder.blocks = inner ++ outer) :
    (∃ blocks, final.blocks = blocks ++ outer ∧
      Brackets.depth? .square inner.length tokens = some blocks.length) ∨
    Brackets.depth? .square inner.length tokens = none ∧
      ∃ shorter more reached, tokens = shorter ++ more ∧ builder.run shorter = .ok reached ∧
        reached.blocks = outer.tail := by
  induction tokens generalizing builder inner with
  | nil =>
    cases hrun
    exact .inl ⟨inner, hblocks, rfl⟩
  | cons token rest ih =>
    rw [run_cons] at hrun
    obtain ⟨next, hread, hrest⟩ := exists_ok_of_bind hrun
    have haccept := accept_of_read hread
    have hlater (shorter : List Token) : builder.run (token :: shorter) = next.run shorter := by
      rw [run_cons, hread]
      rfl
    rw [Brackets.depth?_cons]
    rcases (h.effect_accept haccept).blocks_depth hblocks with ⟨blocks, hnext, hcount⟩ |
      ⟨htail, hnone⟩
    · rw [hcount, Option.bind_some]
      refine (ih (h.extends_accept haccept).tracked hrest hnext).imp_right ?_
      rintro ⟨hnone, shorter, more, reached, rfl, hshorter, hreached⟩
      exact ⟨hnone, token :: shorter, more, reached, rfl, (hlater _).trans hshorter, hreached⟩
    · rw [hnone, Option.bind_none]
      exact .inr ⟨rfl, [token], rest, next, rfl, hlater [], htail⟩

/-- A block stays the innermost one along tokens whose square brackets match. -/
theorem Tracked.head?_blocks (h : builder.Tracked) {tokens : List Token}
    (hrun : builder.run tokens = .ok final) {block : Path}
    (hblocks : builder.blocks = block :: outer)
    (hdepth : Brackets.depth? .square 0 tokens = some 0) : final.blocks.head? = some block := by
  have hopened : builder.blocks = [] ++ block :: outer := hblocks
  rcases h.blocks_run hrun hopened with ⟨blocks, hfinal, hcount⟩ | ⟨hnone, -⟩
  · obtain rfl : blocks = [] :=
      List.length_eq_zero_iff.mp (Option.some.inj (hcount.symm.trans hdepth))
    rw [hfinal]
    rfl
  · cases hnone.symm.trans hdepth

/-- As many blocks are open as the brackets say, whether or not they match. -/
theorem length_blocks_eq_depth {tokens : List Token} (hrun : Builder.run {} tokens = .ok builder) :
    builder.blocks.length = blockDepth tokens := by
  refine run_induction (motive := fun tokens builder => builder.blocks.length = blockDepth tokens)
    rfl ?_ hrun
  intro before middle next token hbefore hdepth haccept
  have heffect := (tracked_of_run hbefore).1.effect_accept haccept
  have hnext : blockDepth (before ++ [token]) =
      (Brackets.depthStep? .square middle.blocks.length token.kind).getD 0 := by
    simp [hdepth, blockDepth, Brackets.depthAfter]
  rcases heffect.blocks_depth (List.append_nil _).symm with ⟨blocks, hblocks, hcount⟩ |
    ⟨htail, hnone⟩
  · rw [hnext, hcount, hblocks, List.append_nil, Option.getD_some]
  · rw [hnext, hnone, htail]
    rfl

/-- The builder counts the blocks that are open. -/
theorem squares_eq_length_blocks {tokens : List Token}
    (hrun : Builder.run {} tokens = .ok builder) : builder.squares = builder.blocks.length := by
  refine run_induction (motive := fun _ builder => builder.squares = builder.blocks.length)
    rfl ?_ hrun
  intro before middle next token hbefore hcount haccept
  rcases ((tracked_of_run hbefore).1.effect_accept haccept).blocks_cases with
    ⟨-, ⟨path, -, hpush⟩, hsquares⟩ | ⟨-, hpop, hsquares⟩ | ⟨-, -, hsame⟩
  · rw [hsquares, hcount, hpush, List.length_cons]
  · rw [hsquares, hcount, hpop, List.length_tail]
  · rw [hsame.squares, hsame.blocks, hcount]

/-- As many blocks are open as square brackets. -/
theorem length_blocks_of_run {tokens : List Token} (hrun : Builder.run {} tokens = .ok builder)
    {left : List (Located Brackets.Shape)} (hopened : Brackets.opened? [] tokens = some left) :
    builder.blocks.length = Brackets.count .square left ∧
      builder.squares = Brackets.count .square left := by
  have hlength : builder.blocks.length = Brackets.count .square left := by
    rw [length_blocks_eq_depth hrun]
    exact Brackets.depthAfter_eq (Brackets.depth?_count .square hopened)
  exact ⟨hlength, (squares_eq_length_blocks hrun).trans hlength⟩

/-- The innermost block is that of the component that was current when the innermost open square
bracket was read. -/
theorem enclosing_of_blocks {tokens : List Token} (hrun : Builder.run {} tokens = .ok builder)
    {left : List (Located Brackets.Shape)} (hopened : Brackets.opened? [] tokens = some left)
    {path : Path} (hpath : builder.blocks.head? = some path) : Enclosing tokens path := by
  have hsquares : Brackets.count .square left ≠ 0 := by
    rw [← (length_blocks_of_run hrun hopened).1]
    rintro hlength
    simp [List.length_eq_zero_iff.mp hlength] at hpath
  obtain ⟨before, opener, after, hinnermost⟩ := Brackets.exists_innermostSquare hopened hsquares
  obtain ⟨inside, outside, -, hafter, -, hround⟩ := hinnermost.opened
  rw [hinnermost.split] at hrun
  obtain ⟨middle, next, hbefore, hread, hrest⟩ := exists_of_run_append hrun
  have htracked := (tracked_of_run hbefore).1
  have haccept := accept_of_read hread
  have hblocks := (htracked.effect_accept haccept).blocks_cases
  obtain ⟨⟨block, hcurrent, hpush⟩, hcount⟩ : (∃ path, middle.current = some path ∧
      next.blocks = path :: middle.blocks) ∧ next.squares = middle.squares + 1 := by
    simpa [hinnermost.kind] using hblocks
  -- What comes behind the bracket leaves its block the innermost one.
  have hdepth : Brackets.depth? .square 0 after = some 0 := by
    have hcount := Brackets.depth?_count .square hafter
    rwa [Brackets.count_square_eq_zero_iff.mpr hround] at hcount
  have hfinal := (htracked.extends_accept haccept).tracked.head?_blocks hrest hpush hdepth
  obtain rfl : block = path := Option.some.inj (hfinal.symm.trans hpath)
  exact ⟨before, opener, after, middle, hinnermost, hbefore, hcurrent⟩

/-- A word with a capital that is no key begins a component: a page where no block is open, else a
child of the innermost block's component. -/
theorem exists_begins {before : List Token} {token : Token}
    (hrun : Builder.run {} before = .ok builder) (hread : builder.read token = .ok next)
    (hkind : token.kind = .keyword)
    (hdeclaration : (Situation.after {} before).inDeclaration = false) :
    ∃ path, Begins before token path ∧
      ((builder.blocks = [] ∧ ∃ index, path = [index, 0] ∧ builder.body.length ≤ index ∧
        next.body[index]? = some (.pageWrapper (.component (.named token.text) []))) ∨
      ∃ parent head children, builder.blocks.head? = some parent ∧
        path = parent ++ [children.length] ∧
        Node.at? next.body parent =
          some (head, children ++ [.component (.named token.text) []])) := by
  obtain ⟨htracked, hsituation⟩ := tracked_of_run hrun
  have heffect := htracked.effect_accept (accept_of_read hread)
  rw [hkind] at heffect
  cases heffect with
  | quiet hquiet _ _ _ =>
    have hkey : builder.situation.inDeclaration = true := hquiet
    rw [hsituation, hdeclaration] at hkey
    cases hkey
  | page _ _ hblock hbody _ hcurrent =>
    have hlength : builder.body.length ≤ builder.pagesBefore.length := by
      unfold pagesBefore
      split
      · next hempty => simp [hempty]
      · simp
    have hnode : next.body[builder.pagesBefore.length]? =
        some (.pageWrapper (.component (.named token.text) [])) := by
      simp [hbody]
    refine ⟨[builder.pagesBefore.length, 0],
      ⟨hkind, hdeclaration, builder, next, hrun, hread, ?_, ?_, hcurrent⟩,
      .inl ⟨hblock, _, rfl, hlength, hnode⟩⟩
    · simp [Node.at?, List.getElem?_eq_none hlength]
    · simp [Node.at?, hnode, Node.pageWrapper]
  | @child parent head children _ _ hblock hat hbody _ hcurrent =>
    obtain ⟨head', children', hold, hnew⟩ := hbody.at?_new
    obtain ⟨rfl, rfl⟩ : head = head' ∧ children = children' := by simpa [hat] using hold
    refine ⟨parent ++ [children.length],
      ⟨hkind, hdeclaration, builder, next, hrun, hread, ?_, ?_, hcurrent⟩,
      .inr ⟨parent, head, children, hblock, rfl, hnew⟩⟩
    · rw [Node.at?_append hat (by simp)]
      simp [Node.at?]
    · rw [Node.at?_append hnew (by simp)]
      simp [Node.at?, Amendment.nodes]
  | opened hother | closed hother | className hother | mark hother => cases hother
  | parameter hother | literal hother => simp at hother

/-- The current component is that of the innermost block, or the latest one that has begun since the
last square bracket. -/
theorem current_cases {tokens : List Token} (hrun : Builder.run {} tokens = .ok builder)
    {path : Path} (hpath : builder.current = some path) :
    builder.blocks.head? = some path ∨ Latest tokens path := by
  induction tokens using List.reverseRecOn generalizing builder with
  | nil =>
    cases hrun
    cases hpath
  | append_singleton tokens token ih =>
    obtain ⟨middle, hbefore, hread⟩ := exists_of_run_concat hrun
    obtain ⟨htracked, hsituation⟩ := tracked_of_run hbefore
    -- Most tokens leave the blocks and the current component as they are.
    have hkeep (hblocks : middle.SameBlocks builder) (hcurrent : builder.current = middle.current)
        (hstays : middle.situation.stays token.kind = true) :
        builder.blocks.head? = some path ∨ Latest (tokens ++ [token]) path := by
      rw [hblocks.blocks]
      rw [hsituation] at hstays
      exact (ih hbefore (hcurrent ▸ hpath)).imp_right fun hlatest => hlatest.concat hstays
    have hbegin (hkind : token.kind = .keyword)
        (hdeclaration : middle.situation.inDeclaration = false) :
        Latest (tokens ++ [token]) path := by
      rw [hsituation] at hdeclaration
      obtain ⟨begun, hbegins, -⟩ := exists_begins hbefore hread hkind hdeclaration
      obtain rfl : begun = path := by
        obtain ⟨_, _, hrun', hread', -, -, hcurrent⟩ := hbegins.begins
        cases hbefore.symm.trans hrun'
        cases hread.symm.trans hread'
        exact Option.some.inj (hcurrent.symm.trans hpath)
      exact ⟨tokens, token, [], rfl, hbegins, rfl⟩
    cases htracked.effect_accept (accept_of_read hread) with
    | quiet hquiet _ hblocks hcurrent =>
      exact hkeep hblocks hcurrent (Situation.stays_of_quiet hquiet)
    | opened _ _ _ hblocks _ hcurrent =>
      left
      rw [hblocks, List.head?_cons, ← hcurrent, hpath]
    | closed _ _ hblocks _ hcurrent =>
      left
      rw [hblocks, ← hcurrent, hpath]
    | page hkind hdeclaration _ _ _ _ => exact .inr (hbegin hkind hdeclaration)
    | child hkind hdeclaration _ _ _ _ _ => exact .inr (hbegin hkind hdeclaration)
    | className hkind _ _ _ hblocks hcurrent =>
      exact hkeep hblocks hcurrent (by simp [Situation.stays, hkind])
    | parameter hkind _ _ _ _ hblocks hcurrent =>
      exact hkeep hblocks hcurrent (by rcases hkind with h | h <;> simp [Situation.stays, h])
    | literal hkind _ _ _ _ hblocks hcurrent =>
      rcases hcurrent with hcurrent | hcurrent
      · exact hkeep hblocks hcurrent (by rcases hkind with h | h <;> simp [Situation.stays, h])
      · left
        rw [hblocks.blocks, ← hcurrent, hpath]
    | mark hkind _ _ _ hblocks hcurrent =>
      exact hkeep hblocks hcurrent (by simp [Situation.stays, hkind])

/-- What is given to the current component is given to that of the innermost block, or to the latest
one that has begun since the last square bracket. -/
theorem enclosing_or_latest {tokens : List Token} (hrun : Builder.run {} tokens = .ok builder)
    {left : List (Located Brackets.Shape)} (hopened : Brackets.opened? [] tokens = some left)
    {path : Path} (hpath : builder.current = some path) :
    Enclosing tokens path ∨ Latest tokens path :=
  (current_cases hrun hpath).imp_left (enclosing_of_blocks hrun hopened)

end Builder

/-- A node is the only one of a page, and after the given tokens this page is new. -/
def OnNewPage (before : List Token) (body : List Node) (path : Path) (node : Node) : Prop :=
  ∃ builder index, Builder.run {} before = .ok builder ∧ builder.body.length ≤ index ∧
    path = [index, 0] ∧ body[index]? = some (.pageWrapper node)

/-- A node is a child of the component whose block is the innermost after the given tokens. -/
def InBlock (before : List Token) (body : List Node) (path : Path) (node : Node) : Prop :=
  ∃ parent index head children, Enclosing before parent ∧ path = parent ++ [index] ∧
    Node.at? body parent = some (head, children) ∧ children[index]? = some node

/-- A node that is new after the given tokens belongs to the component whose block is the innermost
there, or to the latest one that has begun since the last square bracket. -/
def Given (before : List Token) (body : List Node) (node : Node) : Prop :=
  ∃ builder path head nodes grown children, Builder.run {} before = .ok builder ∧
    (Enclosing before path ∨ Latest before path) ∧
    Node.at? builder.body path = some (head, nodes) ∧
    Node.at? body path = some (grown, children) ∧ children[nodes.length]? = some node

/-- How the tree of a document is nested, as the brackets among its tokens tell. -/
structure Nesting (tokens : List Token) (document : Document) : Prop where
  /-- A component outside all square brackets is the only one of a new page, and any other is a
  child of the component whose block is the innermost. -/
  components : ∀ before token after, tokens = before ++ token :: after → token.kind = .keyword →
    (Situation.after {} before).inDeclaration = false →
    ∃ opened path head children, Brackets.opened? [] before = some opened ∧
      Begins before token path ∧ Node.at? document.body path = some (head, children) ∧
      head.name = token.text ∧
      (Brackets.count .square opened = 0 →
        OnNewPage before document.body path (.component head children)) ∧
      (Brackets.count .square opened ≠ 0 →
        InBlock before document.body path (.component head children))
  /-- A text belongs to the innermost block's component or to the latest one. -/
  texts : ∀ before token after, tokens = before ++ token :: after →
    token.kind = .string ∨ token.kind = .constant →
    (Situation.after {} before).inDeclaration = false →
    (Situation.after {} before).inParameter = false →
    ∃ inList, Given before document.body (.wrapped token.text inList)
  /-- A mark belongs to the innermost block's component or to the latest one. -/
  marks : ∀ before token after, tokens = before ++ token :: after → token.kind = .decorator →
    ∃ node, Builder.decoration? token.text = some node ∧ Given before document.body node
  /-- As many blocks are open as square brackets. -/
  blocks : ∀ before after, tokens = before ++ after →
    ∃ opened builder, Brackets.opened? [] before = some opened ∧
      Builder.run {} before = .ok builder ∧ builder.blocks.length = Brackets.count .square opened ∧
      builder.squares = Brackets.count .square opened
  /-- A square bracket that closes closes a block. -/
  closes : ∀ before token after, tokens = before ++ token :: after → token.kind = .squareClose →
    ∃ builder, Builder.run {} before = .ok builder ∧ builder.blocks ≠ [] ∧ builder.squares ≠ 0
  /-- In the end no block is open. -/
  ends : ∃ builder, Builder.run {} tokens = .ok builder ∧ builder.blocks = [] ∧ builder.squares = 0

section

variable {before after : List Token} {token : Token} {final : Builder}
  {opened : List (Located Brackets.Shape)}

/-- Where a component ends up that a word begins. -/
theorem component_nested (hrun : Builder.run {} (before ++ token :: after) = .ok final)
    (hopened : Brackets.opened? [] before = some opened) (hkind : token.kind = .keyword)
    (hdeclaration : (Situation.after {} before).inDeclaration = false) :
    ∃ path head children, Begins before token path ∧
      Node.at? final.body path = some (head, children) ∧ head.name = token.text ∧
      (Brackets.count .square opened = 0 →
        OnNewPage before final.body path (.component head children)) ∧
      (Brackets.count .square opened ≠ 0 →
        InBlock before final.body path (.component head children)) := by
  obtain ⟨builder, next, hbefore, hread, hafter⟩ := Builder.exists_of_run_append hrun
  have hnext := ((Builder.tracked_of_run hbefore).1.extends_accept
    (Builder.accept_of_read hread)).tracked
  obtain ⟨hgrown, -⟩ := hnext.grown_run hafter
  have hpaged : Paged final.body :=
    (Builder.tracked_empty.grown_run hrun).2 (fun _ hnode => by cases hnode)
  have hlength := (Builder.length_blocks_of_run hbefore hopened).1
  obtain ⟨path, hbegins, hplace⟩ := Builder.exists_begins hbefore hread hkind hdeclaration
  rcases hplace with ⟨hblocks, index, rfl, hnew, hnode⟩ | ⟨parent, above, nodes, hblock, rfl, hat⟩
  · obtain ⟨wrapper, inside, hwrapper, hname, hinside⟩ := hgrown.getElem?_component hnode
    obtain hbreak | ⟨head, children, hpage⟩ := hpaged _ (List.mem_of_getElem? hwrapper)
    · cases hbreak
      simp [Component.named, Component.pageBreak, Component.pageWrapper] at hname
    · rw [hpage] at hwrapper
      cases hpage
      obtain ⟨head', children', hcomponent, hname', -⟩ :=
        hinside.getElem?_component (List.getElem?_cons_zero)
      cases hcomponent
      refine ⟨[index, 0], head, children, hbegins, ?_, hname', fun _ => ?_, fun hsquares => ?_⟩
      · simp [Node.at?, hwrapper, Node.pageWrapper]
      · exact ⟨builder, index, hbefore, hnew, rfl, hwrapper⟩
      · rw [← hlength, hblocks] at hsquares
        exact absurd rfl hsquares
  · obtain ⟨grown, children, hparent, -, hchildren⟩ := hgrown.at? hat
    obtain ⟨head, below, hcomponent, hname, -⟩ :=
      hchildren.getElem?_component (List.getElem?_concat_length)
    refine ⟨parent ++ [nodes.length], head, below, hbegins, ?_, hname, fun hsquares => ?_,
      fun _ => ?_⟩
    · rw [Node.at?_append hparent (by simp)]
      simp [Node.at?, hcomponent]
    · rw [← hlength, List.length_eq_zero_iff] at hsquares
      simp [hsquares] at hblock
    · exact ⟨parent, nodes.length, grown, children,
        Builder.enclosing_of_blocks hbefore hopened hblock, rfl, hparent, hcomponent⟩

/-- A node that the current component gets is given to it for good. -/
theorem given_of_amended {builder next : Builder} {path : Path} {node : Node}
    (hbefore : Builder.run {} before = .ok builder)
    (hopened : Brackets.opened? [] before = some opened) (hpath : builder.current = some path)
    (hamended : Amended (.node node) path builder.body next.body)
    (hgrown : Grown next.body final.body)
    (hcontent : ∀ head children, node = .component head children →
      ∃ child ∈ children, child.isLiteral = true) : Given before final.body node := by
  obtain ⟨head, nodes, hold, hnew⟩ := hamended.at?_new
  obtain ⟨grown, children, hat, -, hchildren⟩ := hgrown.at? hnew
  exact ⟨builder, path, head, nodes, grown, children, hbefore,
    Builder.enclosing_or_latest hbefore hopened hpath, hold, hat,
    hchildren.getElem?_content List.getElem?_concat_length hcontent⟩

/-- Where a text ends up. -/
theorem text_given (hrun : Builder.run {} (before ++ token :: after) = .ok final)
    (hopened : Brackets.opened? [] before = some opened)
    (hkind : token.kind = .string ∨ token.kind = .constant)
    (hdeclaration : (Situation.after {} before).inDeclaration = false)
    (hparameter : (Situation.after {} before).inParameter = false) :
    ∃ inList, Given before final.body (.wrapped token.text inList) := by
  obtain ⟨builder, next, hbefore, hread, hafter⟩ := Builder.exists_of_run_append hrun
  obtain ⟨htracked, hsituation⟩ := Builder.tracked_of_run hbefore
  have haccept := Builder.accept_of_read hread
  obtain ⟨hgrown, -⟩ := (htracked.extends_accept haccept).tracked.grown_run hafter
  rw [← hsituation] at hdeclaration hparameter
  have heffect := htracked.effect_accept haccept
  cases heffect with
  | literal _ _ _ hpath hbody _ _ =>
    refine ⟨_, given_of_amended hbefore hopened hpath hbody hgrown ?_⟩
    intro head children hnode
    cases hnode
    exact ⟨.literal token.text, List.mem_singleton_self _, rfl⟩
  | parameter _ hother _ _ _ _ _ =>
    rw [hparameter] at hother
    cases hother
  | quiet hquiet _ _ _ =>
    have hother : builder.situation.inDeclaration = true := by
      rcases hkind with hkind | hkind <;> rw [hkind] at hquiet <;> exact hquiet
    rw [hdeclaration] at hother
    cases hother
  | opened hother | closed hother | page hother | child hother | className hother | mark hother =>
    simp [hother] at hkind

/-- Where a mark ends up. -/
theorem mark_given (hrun : Builder.run {} (before ++ token :: after) = .ok final)
    (hopened : Brackets.opened? [] before = some opened) (hkind : token.kind = .decorator) :
    ∃ node, Builder.decoration? token.text = some node ∧ Given before final.body node := by
  obtain ⟨builder, next, hbefore, hread, hafter⟩ := Builder.exists_of_run_append hrun
  obtain ⟨htracked, -⟩ := Builder.tracked_of_run hbefore
  have haccept := Builder.accept_of_read hread
  obtain ⟨hgrown, -⟩ := (htracked.extends_accept haccept).tracked.grown_run hafter
  have heffect := htracked.effect_accept haccept
  rw [hkind] at heffect
  cases heffect with
  | mark _ hnode hpath hbody _ _ =>
    refine ⟨_, hnode, given_of_amended hbefore hopened hpath hbody hgrown ?_⟩
    rintro head children rfl
    rcases Builder.decoration?_cases hnode with hmark | hmark <;> cases hmark
  | quiet hother | opened hother | closed hother | page hother | child hother | className hother =>
    cases hother
  | parameter hother | literal hother => simp at hother

end

/-- Where the brackets match and the tokens can be read, the tree is nested as the brackets are. -/
theorem nesting_follows_brackets {tokens : List Token} {document : Document}
    (hcheck : Brackets.check tokens = .ok ()) (hread : ofTokens tokens = .ok document) :
    Nesting tokens document := by
  obtain ⟨final, hrun, rfl⟩ := exists_run_of_ofTokens hread
  have hblocks : ∀ before after, tokens = before ++ after →
      ∃ opened builder, Brackets.opened? [] before = some opened ∧
        Brackets.opened? opened after = some [] ∧ Builder.run {} before = .ok builder ∧
        builder.blocks.length = Brackets.count .square opened ∧
        builder.squares = Brackets.count .square opened := by
    rintro before after rfl
    obtain ⟨opened, hopened, hafter⟩ := Brackets.exists_opened?_of_check hcheck
    rw [Builder.run_append] at hrun
    obtain ⟨builder, hbefore, -⟩ := exists_ok_of_bind hrun
    exact ⟨opened, builder, hopened, hafter, hbefore, Builder.length_blocks_of_run hbefore hopened⟩
  refine { components := ?_, texts := ?_, marks := ?_, blocks := ?_, closes := ?_, ends := ?_ }
  · rintro before token after rfl hkind hdeclaration
    obtain ⟨opened, -, hopened, -⟩ := hblocks before _ rfl
    obtain ⟨path, head, children, hnested⟩ := component_nested hrun hopened hkind hdeclaration
    exact ⟨opened, path, head, children, hopened, hnested⟩
  · rintro before token after rfl hkind hdeclaration hparameter
    obtain ⟨opened, -, hopened, -⟩ := hblocks before _ rfl
    exact text_given hrun hopened hkind hdeclaration hparameter
  · rintro before token after rfl hkind
    obtain ⟨opened, -, hopened, -⟩ := hblocks before _ rfl
    exact mark_given hrun hopened hkind
  · intro before after hsplit
    obtain ⟨opened, builder, hopened, -, hbefore, hcounts⟩ := hblocks before after hsplit
    exact ⟨opened, builder, hopened, hbefore, hcounts⟩
  · intro before token after hsplit hkind
    obtain ⟨opened, builder, -, hafter, hbefore, hlength, hsquares⟩ := hblocks before _ hsplit
    rw [Brackets.opened?_cons, Option.bind_eq_some_iff] at hafter
    obtain ⟨later, hstep, -⟩ := hafter
    -- The check lets the bracket pass, so a square bracket is open.
    have hopen : Brackets.count .square opened ≠ 0 := by
      intro hzero
      have hnone := Brackets.depthStep?_count .square hstep
      rw [hzero, hkind] at hnone
      cases hnone
    refine ⟨builder, hbefore, ?_, by rwa [hsquares]⟩
    rintro hempty
    rw [← hlength, hempty] at hopen
    exact hopen rfl
  · obtain ⟨opened, builder, hopened, hend, hall, hlength, hsquares⟩ :=
      hblocks tokens [] (List.append_nil _).symm
    cases hend
    exact ⟨builder, hall, List.length_eq_zero_iff.mp hlength, hsquares⟩

/-- A block with a short form and a text in it, and a component with a rule behind the block. -/
def shorthandInBlock : List Token :=
  [⟨.keyword, "A", .first⟩, ⟨.squareOpen, "[", .first⟩, ⟨.keyword, "B", .first⟩,
    ⟨.colon, ":", .first⟩, ⟨.string, "x", .first⟩, ⟨.string, "y", .first⟩,
    ⟨.squareClose, "]", .first⟩, ⟨.keyword, "C", .first⟩, ⟨.decorator, "-", .first⟩]

/-- After a text that a colon announces, the next text goes to the enclosing component, and a
component behind a closed block begins a page again. -/
theorem nesting_of_shorthand_in_block :
    ∃ document, Brackets.check shorthandInBlock = .ok () ∧
      ofTokens shorthandInBlock = .ok document ∧ Nesting shorthandInBlock document :=
  ⟨_, rfl, rfl, nesting_follows_brackets rfl rfl⟩

end Document

end PageMarkup
