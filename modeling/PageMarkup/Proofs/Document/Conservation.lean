import PageMarkup.Proofs.Document.Content
import PageMarkup.Proofs.Steps

/-!
# Reading keeps the content

What a token is read for depends on little: the open constructs, the open round brackets, the
parameter names that wait for a value, and a dot just before. These facts can be followed along the
tokens without any tree, and with them the content can be read off the tokens. Each token adds to
the tree, at its end, exactly the content that the token has, so the content of a document that is
read is the content of its tokens, in the same order.
-/

namespace PageMarkup.Document

/-- What decides for what a token is read. -/
structure Situation where
  /-- The open constructs, innermost first. -/
  contexts : List Context := []
  /-- How many round brackets are open. -/
  rounds : Nat := 0
  /-- How many parameter names wait for a value. -/
  keys : Nat := 0
  /-- Whether the token before was a dot that a class name may follow. -/
  dotted : Bool := false
deriving DecidableEq, Repr

namespace Situation

/-- Whether the innermost construct is a declaration. -/
def inDeclaration (situation : Situation) : Bool :=
  situation.contexts.head? = some .declaration

/-- Whether a value is that of a waiting parameter name in an open parameter list. -/
def inParameter (situation : Situation) : Bool :=
  situation.contexts.head? = some .component ∧ 0 < situation.rounds ∧ 0 < situation.keys

/-- Whether a word without a capital is the name of a parameter. -/
def namesParameter (situation : Situation) : Bool :=
  situation.contexts.head? = some .component ∧ situation.dotted = false ∧ 0 < situation.rounds

/-- The situation after a token of the given kind. -/
def next (situation : Situation) (kind : TokenKind) : Situation :=
  let settled := { situation with dotted := false }
  match kind with
  | .keyword =>
    { settled with
      contexts :=
        if situation.inDeclaration then situation.contexts
        else .component :: situation.contexts }
  | .identifier =>
    { settled with
      keys := if situation.namesParameter then situation.keys + 1 else situation.keys }
  | .string | .constant =>
    { settled with
      contexts :=
        if situation.inDeclaration then situation.contexts.tail else situation.contexts
      keys := if situation.inParameter then situation.keys - 1 else situation.keys }
  | .declaration => { settled with contexts := .declaration :: situation.contexts }
  | .squareClose => { settled with contexts := situation.contexts.tail }
  | .roundOpen => { settled with rounds := situation.rounds + 1 }
  | .roundClose => { settled with rounds := situation.rounds - 1 }
  | .dot => { settled with dotted := situation.contexts.head? = some .component }
  | .squareOpen | .colon | .comma | .integer | .decorator => settled

/-- Only a word without a capital cares about a dot before it. -/
theorem next_undotted (situation : Situation) {kind : TokenKind} (hkind : kind ≠ .identifier) :
    { situation with dotted := false }.next kind = situation.next kind := by
  cases kind with
  | identifier => exact absurd rfl hkind
  | keyword | string | constant | declaration | squareOpen | squareClose | roundOpen | roundClose
  | colon | comma | dot | integer | decorator => rfl

/-- A dot is only remembered in a component. -/
theorem contexts_next_of_dotted {situation : Situation} {kind : TokenKind}
    (h : (situation.next kind).dotted = true) :
    (situation.next kind).contexts.head? = some .component := by
  cases kind with
  | dot => simpa [next] using h
  | identifier | keyword | string | constant | declaration | squareOpen | squareClose | roundOpen
  | roundClose | colon | comma | integer | decorator => cases h

/-- The mark that a decorator shows: colons a line break, hyphens a rule. -/
def markPieces (text : List Char) : List Piece :=
  if text ≠ [] ∧ text = .replicate text.length ':' then [.mark "BR"]
  else if text ≠ [] ∧ text = .replicate text.length '-' then [.mark "HR"]
  else []

/-- The content of a token: a word with a capital outside declarations, a value that belongs
neither to a declaration nor to a parameter, or a mark. -/
def pieces (situation : Situation) (token : Token) : List Piece :=
  match token.kind with
  | .keyword => if situation.inDeclaration then [] else [.component token.text]
  | .string | .constant =>
    if situation.inDeclaration || situation.inParameter then [] else [.literal token.text]
  | .decorator => markPieces token.text.toList
  | _ => []

/-- The situation after tokens. -/
def after (situation : Situation) (tokens : List Token) : Situation :=
  tokens.foldl (fun situation token => situation.next token.kind) situation

/-- The content of tokens, in order. -/
def piecesAll : Situation → List Token → List Piece
  | _, [] => []
  | situation, token :: rest =>
    situation.pieces token ++ (situation.next token.kind).piecesAll rest

end Situation

namespace Builder

variable {builder next : Builder}

/-- What decides for what the builder reads a token. -/
def situation (builder : Builder) : Situation :=
  ⟨builder.contexts, builder.rounds, builder.keys.length, builder.dotted⟩

/-- Changing the current component changes nothing but the tree. -/
theorem exists_body_of_attach {what : Attachment} {change : Component → List Node → Node}
    (h : builder.attach what change = .ok next) : ∃ body, next = { builder with body } := by
  unfold attach at h
  split at h
  · cases h
  · split at h
    · cases h
    · next body _ =>
      cases h
      exact ⟨body, rfl⟩

/-- Beginning a component changes the tree and the current component, and opens a construct. -/
theorem exists_of_beginComponent {name : String} (h : builder.beginComponent name = .ok next) :
    ∃ body current, next =
      { builder with body, contexts := .component :: builder.contexts, current } := by
  unfold beginComponent at h
  dsimp only at h
  split at h
  · cases h
    exact ⟨_, _, rfl⟩
  · split at h
    · cases h
      exact ⟨_, _, rfl⟩
    · cases h

/-- The value of a declaration closes the declaration and leaves the tree alone. -/
theorem exists_of_declare {value : String} (h : builder.declare value = .ok next) :
    ∃ configurations references declared, next =
      { builder with
        configurations, references, declared
        colons := builder.colons - 1
        contexts := builder.contexts.tail } := by
  unfold declare at h
  split at h
  · cases h
  · next declared rest _ =>
    cases h
    unfold record
    split
    · exact ⟨_, _, _, rfl⟩
    · exact ⟨_, _, _, rfl⟩
    · exact ⟨_, _, _, rfl⟩

/-- The value of a parameter ends the waiting of its name. -/
theorem exists_of_setParameter {key value : String}
    (h : builder.setParameter key value = .ok next) :
    ∃ body, next =
      { builder with body, keys := builder.keys.tail, colons := builder.colons - 1 } := by
  obtain ⟨changed, hattach, hnext⟩ := exists_ok_of_bind h
  obtain ⟨body, rfl⟩ := exists_body_of_attach hattach
  cases hnext
  exact ⟨body, rfl⟩

/-- A text changes the tree, and after a colon the current component. -/
theorem exists_of_addLiteral {text : String} (h : builder.addLiteral text = .ok next) :
    ∃ body colons current, next = { builder with body, colons, current } := by
  obtain ⟨changed, happend, hnext⟩ := exists_ok_of_bind h
  obtain ⟨body, rfl⟩ := exists_body_of_attach happend
  split at hnext
  · cases hnext
    exact ⟨_, _, _, rfl⟩
  · cases hnext
    exact ⟨_, _, _, rfl⟩

/-- A word with a capital opens a component or is the key of a declaration. -/
theorem situation_readKeyword {text : String} (hdotted : builder.dotted = false)
    (h : builder.readKeyword text = .ok next) :
    next.situation = builder.situation.next .keyword := by
  unfold readKeyword at h
  split at h
  · next hcontext =>
    cases h
    simp [situation, Situation.next, Situation.inDeclaration, hcontext, hdotted]
  · next hcontext =>
    obtain ⟨body, current, rfl⟩ := exists_of_beginComponent h
    simp [situation, Situation.next, Situation.inDeclaration, hcontext, hdotted]

/-- A word without a capital may be the name of a parameter, and uses up a dot. -/
theorem situation_readIdentifier {text : String}
    (hdotted : builder.dotted = true → builder.contexts.head? = some .component)
    (h : builder.readIdentifier text = .ok next) :
    next.situation = builder.situation.next .identifier := by
  have hundotted (hcontext : builder.contexts.head? ≠ some .component) :
      builder.dotted = false := by
    rw [Bool.eq_false_iff]
    exact fun hdot => hcontext (hdotted hdot)
  unfold readIdentifier at h
  split at h
  · next hcontext =>
    cases h
    have hdot := hundotted (by simp [hcontext])
    simp [situation, Situation.next, Situation.namesParameter, hcontext, hdot]
  · next hcontext =>
    split at h
    · next hdot =>
      obtain ⟨changed, hattach, hnext⟩ := exists_ok_of_bind h
      obtain ⟨body, rfl⟩ := exists_body_of_attach hattach
      cases hnext
      simp [situation, Situation.next, Situation.namesParameter, hdot]
    · next hdot =>
      split at h
      · next hrounds =>
        cases h
        simp [situation, Situation.next, Situation.namesParameter, hcontext, hdot, hrounds]
      · next hrounds =>
        cases h
        simp [situation, Situation.next, Situation.namesParameter, hcontext, hdot, hrounds]
  · next hcontext =>
    cases h
    have hdot := hundotted (by simp [hcontext])
    simp [situation, Situation.next, Situation.namesParameter, hcontext, hdot]

/-- A value is that of a declaration, that of a parameter, or a text. -/
theorem readValue_cases (builder : Builder) (text : String) :
    builder.situation.inDeclaration = true ∧ builder.readValue text = builder.declare text ∨
    builder.situation.inDeclaration = false ∧ builder.situation.inParameter = true ∧
      (∃ key, builder.readValue text = builder.setParameter key text ∧
        builder.keys.head? = some key) ∨
    builder.situation.inDeclaration = false ∧ builder.situation.inParameter = false ∧
      builder.readValue text = builder.addLiteral text := by
  unfold readValue
  cases hcontext : builder.contexts.head? with
  | none => simp [situation, Situation.inDeclaration, Situation.inParameter, hcontext]
  | some context =>
    cases context with
    | declaration => simp [situation, Situation.inDeclaration, hcontext]
    | component =>
      cases hkeys : builder.keys with
      | nil => simp [situation, Situation.inDeclaration, Situation.inParameter, hcontext, hkeys]
      | cons key rest =>
        by_cases hrounds : 0 < builder.rounds
        · simp only [situation, Situation.inDeclaration, Situation.inParameter, hcontext, hkeys,
            hrounds]
          exact .inr (.inl ⟨rfl, rfl, key, rfl, rfl⟩)
        · simp [situation, Situation.inDeclaration, Situation.inParameter, hcontext, hkeys, hrounds]

/-- A value closes a declaration or uses up the name of a parameter. -/
theorem situation_readValue {text : String} (hdotted : builder.dotted = false)
    (h : builder.readValue text = .ok next) :
    next.situation = builder.situation.next .string := by
  rcases builder.readValue_cases text with
    ⟨hdeclaration, hread⟩ | ⟨hdeclaration, hparameter, key, hread, -⟩ |
      ⟨hdeclaration, hparameter, hread⟩
  · have hparameter : builder.situation.inParameter = false := by
      simp_all [Situation.inParameter, Situation.inDeclaration]
    rw [hread] at h
    obtain ⟨configurations, references, declared, rfl⟩ := exists_of_declare h
    simp only [Situation.next, hdeclaration, hparameter]
    simp [situation, hdotted]
  · rw [hread] at h
    obtain ⟨body, rfl⟩ := exists_of_setParameter h
    simp only [Situation.next, hdeclaration, hparameter]
    simp [situation, hdotted]
  · rw [hread] at h
    obtain ⟨body, colons, current, rfl⟩ := exists_of_addLiteral h
    simp only [Situation.next, hdeclaration, hparameter]
    simp [situation, hdotted]

/-- A mark leaves what is open alone. -/
theorem situation_readDecorator {text : String} (hdotted : builder.dotted = false)
    (h : builder.readDecorator text = .ok next) :
    next.situation = builder.situation.next .decorator := by
  unfold readDecorator at h
  split at h
  · obtain ⟨body, rfl⟩ := exists_body_of_attach h
    simp [situation, Situation.next, hdotted]
  · cases h

/-- Any other token changes the situation as its kind says. -/
theorem situation_dispatch {kind : TokenKind} {text : String} (hdotted : builder.dotted = false)
    (hkind : kind ≠ .identifier) (h : builder.dispatch text kind = .ok next) :
    next.situation = builder.situation.next kind := by
  cases kind with
  | identifier => exact absurd rfl hkind
  | keyword => exact situation_readKeyword hdotted h
  | string | constant => exact situation_readValue hdotted h
  | decorator => exact situation_readDecorator hdotted h
  | squareOpen =>
    simp only [dispatch, openBlock] at h
    split at h
    · cases h
    · cases h
      simp [situation, Situation.next, hdotted]
  | declaration | squareClose | roundOpen | roundClose | colon | dot | comma | integer =>
    cases h
    simp [situation, Situation.next, closeBlock, hdotted]

/-- The situation after a token is decided by the situation before it and by the token's kind. -/
theorem situation_accept {kind : TokenKind} {text : String}
    (hdotted : builder.dotted = true → builder.contexts.head? = some .component)
    (h : builder.accept kind text = .ok next) :
    next.situation = builder.situation.next kind := by
  by_cases hkind : kind = .identifier
  · subst hkind
    exact situation_readIdentifier hdotted h
  · have hsettle : builder.settle kind = { builder with dotted := false } := by
      rw [settle, if_neg hkind]
    rw [accept, hsettle] at h
    rw [← Situation.next_undotted _ hkind]
    exact situation_dispatch (by rfl) hkind h

/-- A step that keeps what is open on the last branch, and adds to the content at its end. -/
structure Extends (builder next : Builder) (added : List Piece) : Prop where
  /-- What is open lies on the last branch. -/
  tracked : next.Tracked
  /-- The content grows at its end. -/
  pieces_eq : next.pieces = builder.pieces ++ added

namespace Extends

variable {added : List Piece}

/-- What a step adds depends on the tree, the blocks and the current component alone. -/
theorem congr {other : Builder} (h : builder.Extends next added) (hbody : other.body = next.body)
    (hblocks : other.blocks = next.blocks) (hcurrent : other.current = next.current) :
    builder.Extends other added where
  tracked := h.tracked.congr hbody hblocks hcurrent
  pieces_eq := (pieces_congr hbody).trans h.pieces_eq

/-- Going back to the component of the innermost block adds nothing. -/
theorem toBlock (h : builder.Extends next added) :
    builder.Extends { next with current := next.blocks.head? } added where
  tracked := h.tracked.toBlock
  pieces_eq := (pieces_congr rfl).trans h.pieces_eq

end Extends

/-- A step that leaves the tree alone adds nothing. -/
theorem Tracked.extends_of_body_eq (h : next.Tracked) (hbody : next.body = builder.body) :
    builder.Extends next [] where
  tracked := h
  pieces_eq := by rw [pieces_congr hbody, List.append_nil]

/-- A step that also leaves the blocks and the current component alone adds nothing. -/
theorem Tracked.extends_of_eq (h : builder.Tracked) (hbody : next.body = builder.body)
    (hblocks : next.blocks = builder.blocks) (hcurrent : next.current = builder.current) :
    builder.Extends next [] :=
  (h.congr hbody hblocks hcurrent).extends_of_body_eq hbody

/-- A component that begins adds its name. -/
theorem Tracked.extends_beginComponent (h : builder.Tracked) {name : String}
    (hbegin : builder.beginComponent name = .ok next) :
    builder.Extends next [.component name] := by
  cases hblock : builder.blocks.head? with
  | none =>
    have hblocks := List.head?_eq_none_iff.mp hblock
    rw [beginComponent_page hblocks] at hbegin
    cases hbegin
    have hrooted := rooted_begun_page hblocks
      (if builder.body = [] then [] else builder.body ++ [.pageBreak]) name
    refine ⟨.rooted hrooted, ?_⟩
    have hpages : (if builder.body = [] then [] else builder.body ++ [.pageBreak]).flatMap
        Node.pagePieces = builder.pieces := by
      rw [Builder.pieces, Document.pieces, document]
      split
      · next hbody => simp [hbody]
      · simp [Node.pageBreak, Node.pagePieces, Component.named, Node.piecesAll]
    rw [hrooted.pieces_eq, hpages]
    simp [Frame.pieces, Node.piecesAll, Component.named]
  | some path =>
    obtain ⟨pages, middle, inner, nodes, hrooted⟩ := h.exists_block hblock
    have hbody : builder.body = Frame.plug _ nodes := hrooted.body
    have hpieces : builder.pieces = _ := hrooted.pieces_eq
    rw [beginComponent_block hbody (hblock.trans hrooted.current)] at hbegin
    cases hbegin
    have hbegun := rooted_begun_block hblock hrooted name
    refine ⟨.rooted hbegun, ?_⟩
    rw [hbegun.pieces_eq, hpieces]
    simp [Frame.pieces, Node.piecesAll, Component.named]

/-- Changing the current component's classes or parameters adds nothing. -/
theorem Tracked.extends_attach (h : builder.Tracked) {what : Attachment}
    {changeHead : Component → Component}
    (hattach : (builder.attach what fun head children =>
      .component (changeHead head) children) = .ok next)
    (hname : ∀ head, (changeHead head).name = head.name) : builder.Extends next [] := by
  obtain ⟨pages, middle, inner, nodes, hrooted, rfl⟩ := h.exists_attached hattach
  have hchanged := hrooted.change (changeHead inner.head) hrooted.wrapped_nodes
  refine ⟨.rooted hchanged, ?_⟩
  rw [hchanged.pieces_eq, hrooted.pieces_eq]
  simp [Frame.pieces, hname]

/-- A node added to the current component adds its own content. -/
theorem Tracked.extends_append (h : builder.Tracked) {what : Attachment} {node : Node}
    (hnode : node.isLiteral = false) (happend : builder.append what node = .ok next) :
    builder.Extends next node.pieces := by
  obtain ⟨pages, middle, inner, nodes, hrooted, rfl⟩ := h.exists_attached happend
  have hchildren : ∀ child ∈ nodes ++ [node], child.isLiteral = false := by
    rw [List.forall_mem_append, List.forall_mem_singleton]
    exact ⟨hrooted.wrapped_nodes, hnode⟩
  have hchanged := hrooted.change inner.head hchildren
  refine ⟨.rooted hchanged, ?_⟩
  rw [hchanged.pieces_eq, hrooted.pieces_eq, Node.piecesAll_append]
  simp [Node.piecesAll]

/-- A word with a capital adds its text, unless it is the key of a declaration. -/
theorem Tracked.extends_readKeyword (h : builder.Tracked) {text : String}
    (hread : builder.readKeyword text = .ok next) :
    builder.Extends next
      (if builder.situation.inDeclaration then [] else [.component text]) := by
  unfold readKeyword at hread
  split at hread
  · next hcontext =>
    cases hread
    have hdeclaration : builder.situation.inDeclaration = true := decide_eq_true hcontext
    rw [hdeclaration]
    exact h.extends_of_eq rfl rfl rfl
  · next hcontext =>
    have hdeclaration : builder.situation.inDeclaration = false := decide_eq_false hcontext
    rw [hdeclaration]
    exact h.extends_beginComponent hread

/-- A word without a capital adds nothing. -/
theorem Tracked.extends_readIdentifier (h : builder.Tracked) {text : String}
    (hread : builder.readIdentifier text = .ok next) : builder.Extends next [] := by
  unfold readIdentifier at hread
  split at hread
  · cases hread
    exact h.extends_of_eq rfl rfl rfl
  · split at hread
    · obtain ⟨changed, hattach, hnext⟩ := exists_ok_of_bind hread
      have hchanged := h.extends_attach hattach fun _ => rfl
      cases hnext
      exact hchanged.congr rfl rfl rfl
    · split at hread
      · cases hread
        exact h.extends_of_eq rfl rfl rfl
      · cases hread
        exact h.extends_of_eq rfl rfl rfl
  · cases hread
    exact h.extends_of_eq rfl rfl rfl

/-- A text adds itself. -/
theorem Tracked.extends_addLiteral (h : builder.Tracked) {text : String}
    (hadd : builder.addLiteral text = .ok next) : builder.Extends next [.literal text] := by
  obtain ⟨changed, happend, hnext⟩ := exists_ok_of_bind hadd
  have hchanged := h.extends_append (by rfl) happend
  rw [Node.pieces_wrapped] at hchanged
  split at hnext
  · cases hnext
    exact hchanged.toBlock.congr rfl rfl rfl
  · cases hnext
    exact hchanged

/-- A value adds itself, unless it belongs to a declaration or a parameter. -/
theorem Tracked.extends_readValue (h : builder.Tracked) {text : String}
    (hread : builder.readValue text = .ok next) :
    builder.Extends next
      (if builder.situation.inDeclaration || builder.situation.inParameter then []
        else [.literal text]) := by
  rcases builder.readValue_cases text with
    ⟨hdeclaration, heq⟩ | ⟨hdeclaration, hparameter, key, heq, -⟩ |
      ⟨hdeclaration, hparameter, heq⟩
  · rw [heq] at hread
    obtain ⟨configurations, references, declared, rfl⟩ := exists_of_declare hread
    rw [hdeclaration, Bool.true_or]
    exact h.extends_of_eq rfl rfl rfl
  · rw [heq] at hread
    obtain ⟨changed, hattach, hnext⟩ := exists_ok_of_bind hread
    have hchanged := h.extends_attach hattach fun _ => rfl
    cases hnext
    rw [hparameter, Bool.or_true]
    exact hchanged.congr rfl rfl rfl
  · rw [heq] at hread
    rw [hdeclaration, hparameter]
    exact h.extends_addLiteral hread

/-- A decorator that is read is a mark, and the node that it becomes shows just this mark. -/
theorem pieces_of_decoration? {text : String} {node : Node} (h : decoration? text = some node) :
    node.isLiteral = false ∧ node.pieces = Situation.markPieces text.toList := by
  have hclass (c : Char) : (text ≠ "" ∧ text.toList.all (· == c) = true) ↔
      (text.toList ≠ [] ∧ text.toList = .replicate text.toList.length c) := by
    simp [List.eq_replicate_iff]
  unfold decoration? at h
  unfold Situation.markPieces
  simp only [hclass] at h
  split at h
  · next hcolons =>
    cases h
    rw [if_pos hcolons]
    exact ⟨rfl, by simp [Node.lineBreak, Node.pieces]⟩
  · next hcolons =>
    split at h
    · next hhyphens =>
      cases h
      rw [if_neg hcolons, if_pos hhyphens]
      exact ⟨rfl, by simp [Node.horizontalRule, Node.pieces]⟩
    · cases h

/-- A mark adds itself. -/
theorem Tracked.extends_readDecorator (h : builder.Tracked) {text : String}
    (hread : builder.readDecorator text = .ok next) :
    builder.Extends next (Situation.markPieces text.toList) := by
  unfold readDecorator at hread
  split at hread
  · next node hnode =>
    obtain ⟨hliteral, hpieces⟩ := pieces_of_decoration? hnode
    rw [← hpieces]
    exact h.extends_append hliteral hread
  · cases hread

/-- A token adds its content. -/
theorem Tracked.extends_dispatch (h : builder.Tracked) {token : Token}
    (hread : builder.dispatch token.text token.kind = .ok next) :
    builder.Extends next (builder.situation.pieces token) := by
  obtain ⟨kind, text, position⟩ := token
  cases kind with
  | keyword => exact h.extends_readKeyword hread
  | identifier => exact h.extends_readIdentifier hread
  | string | constant => exact h.extends_readValue hread
  | decorator => exact h.extends_readDecorator hread
  | squareOpen =>
    have hopen : builder.openBlock = .ok next := hread
    have hbody : next.body = builder.body := by
      unfold Builder.openBlock at hopen
      split at hopen
      · cases hopen
      · cases hopen
        rfl
    exact (h.openBlock hopen).extends_of_body_eq hbody
  | squareClose =>
    cases hread
    exact h.closeBlock.extends_of_body_eq rfl
  | declaration | roundOpen | roundClose | colon | dot | comma | integer =>
    cases hread
    exact h.extends_of_eq rfl rfl rfl

/-- A token adds its content, whether or not a dot is forgotten before it. -/
theorem Tracked.extends_accept (h : builder.Tracked) {token : Token}
    (hread : builder.accept token.kind token.text = .ok next) :
    builder.Extends next (builder.situation.pieces token) := by
  by_cases hkind : token.kind = .identifier
  · rw [accept, settle, if_pos hkind] at hread
    exact h.extends_dispatch hread
  · have hsettle : builder.settle token.kind = { builder with dotted := false } := by
      rw [settle, if_neg hkind]
    rw [accept, hsettle] at hread
    have hsettled : Tracked { builder with dotted := false } := h.congr rfl rfl rfl
    have hextends := hsettled.extends_dispatch hread
    exact ⟨hextends.tracked, hextends.pieces_eq⟩

/-- Steps one after the other add their content in this order. -/
theorem Extends.trans {final : Builder} {first second : List Piece}
    (hfirst : builder.Extends next first) (hsecond : next.Extends final second) :
    builder.Extends final (first ++ second) where
  tracked := hsecond.tracked
  pieces_eq := by rw [hsecond.pieces_eq, hfirst.pieces_eq, List.append_assoc]

/-- A token that is read is accepted. -/
theorem accept_of_read {token : Token} (h : builder.read token = .ok next) :
    builder.accept token.kind token.text = .ok next := by
  unfold read at h
  cases haccept : builder.accept token.kind token.text with
  | error fault =>
    rw [haccept] at h
    cases h
  | ok accepted =>
    rw [haccept] at h
    cases h
    rfl

/-- The last of several tokens is read where the others lead. -/
theorem exists_of_run_concat {tokens : List Token} {token : Token}
    (h : builder.run (tokens ++ [token]) = .ok final) :
    ∃ middle, builder.run tokens = .ok middle ∧ middle.read token = .ok final := by
  rw [run_append] at h
  obtain ⟨middle, hrun, hlast⟩ := exists_ok_of_bind h
  rw [run_cons] at hlast
  obtain ⟨last, hread, hnil⟩ := exists_ok_of_bind hlast
  cases hnil
  exact ⟨middle, hrun, hread⟩

/-- Where all tokens are read, each of them is read where those before it lead, and those after it
go on from there. -/
theorem exists_of_run_append {before after : List Token} {token : Token}
    (h : builder.run (before ++ token :: after) = .ok final) :
    ∃ middle next, builder.run before = .ok middle ∧ middle.read token = .ok next ∧
      next.run after = .ok final := by
  rw [run_append] at h
  obtain ⟨middle, hrun, hrest⟩ := exists_ok_of_bind h
  rw [run_cons] at hrest
  obtain ⟨next, hread, hafter⟩ := exists_ok_of_bind hrest
  exact ⟨middle, next, hrun, hread, hafter⟩

/-- Reading stops at the first token that is not accepted, with the fault of that token at its
place. -/
theorem exists_of_run_error {tokens : List Token} {fault : Located Fault}
    (h : builder.run tokens = .error fault) :
    ∃ before token after middle, tokens = before ++ token :: after ∧
      builder.run before = .ok middle ∧
      middle.accept token.kind token.text = .error fault.value ∧
      fault.position = token.position := by
  induction tokens generalizing builder with
  | nil => cases h
  | cons token rest ih =>
    rw [run_cons] at h
    cases haccept : builder.accept token.kind token.text with
    | error cause =>
      rw [read, haccept] at h
      cases h
      exact ⟨[], token, rest, builder, rfl, rfl, haccept, rfl⟩
    | ok next =>
      rw [read, haccept] at h
      obtain ⟨before, stopper, after, middle, rfl, hbefore, hfault⟩ := ih h
      refine ⟨token :: before, stopper, after, middle, rfl, ?_, hfault⟩
      rw [run_cons_of_accept rfl haccept, hbefore]

/-- Tokens add their content in order, and the situation can be followed along them. -/
theorem Tracked.extends_run (h : builder.Tracked)
    (hdotted : builder.dotted = true → builder.contexts.head? = some .component)
    {tokens : List Token} {final : Builder} (hrun : builder.run tokens = .ok final) :
    builder.Extends final (builder.situation.piecesAll tokens) ∧
      final.situation = builder.situation.after tokens := by
  induction tokens generalizing builder with
  | nil =>
    cases hrun
    exact ⟨h.extends_of_eq rfl rfl rfl, rfl⟩
  | cons token rest ih =>
    rw [run_cons] at hrun
    obtain ⟨next, hread, hrest⟩ := exists_ok_of_bind hrun
    have haccept := accept_of_read hread
    have hstep := h.extends_accept haccept
    have hsituation := situation_accept hdotted haccept
    have hnext : next.dotted = true → next.contexts.head? = some .component := by
      intro hdot
      have hdot' : next.situation.dotted = true := hdot
      rw [hsituation] at hdot'
      have hcontext := Situation.contexts_next_of_dotted hdot'
      rwa [← hsituation] at hcontext
    obtain ⟨hextends, hfinal⟩ := ih hstep.tracked hnext hrest
    rw [hsituation] at hextends hfinal
    exact ⟨hstep.trans hextends, hfinal⟩

/-- Whatever tokens have been read, what is open lies on the last branch, and the situation is the
one that the tokens lead to. -/
theorem tracked_of_run {tokens : List Token} (hrun : Builder.run {} tokens = .ok builder) :
    builder.Tracked ∧ builder.situation = Situation.after {} tokens := by
  have hdotted : ({} : Builder).dotted = true →
      ({} : Builder).contexts.head? = some .component := fun hdot => by cases hdot
  obtain ⟨hextends, hsituation⟩ := tracked_empty.extends_run hdotted hrun
  exact ⟨hextends.tracked, hsituation⟩

end Builder

/-- A document that is read is what the builder holds in the end. -/
theorem exists_run_of_ofTokens {tokens : List Token} {document : Document}
    (h : ofTokens tokens = .ok document) :
    ∃ final, Builder.run {} tokens = .ok final ∧ final.document = document := by
  cases hrun : Builder.run {} tokens with
  | error fault =>
    rw [ofTokens, hrun] at h
    cases h
  | ok final =>
    rw [ofTokens, hrun] at h
    cases h
    exact ⟨final, rfl, rfl⟩

/-- Tokens that are no document are refused by the builder. -/
theorem run_of_ofTokens_error {tokens : List Token} {fault : Located Fault}
    (h : ofTokens tokens = .error fault) : Builder.run {} tokens = .error fault := by
  cases hrun : Builder.run {} tokens with
  | error cause =>
    rw [ofTokens, hrun] at h
    cases h
    rfl
  | ok final =>
    rw [ofTokens, hrun] at h
    cases h

/-- Reading a document neither loses, doubles nor moves any content: what the tree shows is what
the tokens show, read off with what is open at each of them. -/
theorem pieces_of_ofTokens {tokens : List Token} {document : Document}
    (h : ofTokens tokens = .ok document) :
    document.pieces = Situation.piecesAll {} tokens ∧
      ∀ first second, tokens = first ++ second →
        ∃ builder, Builder.run {} first = .ok builder ∧
          builder.situation = Situation.after {} first := by
  have hdotted : ({} : Builder).dotted = true →
      ({} : Builder).contexts.head? = some .component := fun hdot => by cases hdot
  cases hrun : Builder.run {} tokens with
  | error fault =>
    rw [ofTokens, hrun] at h
    cases h
  | ok final =>
    rw [ofTokens, hrun] at h
    cases h
    refine ⟨(Builder.tracked_empty.extends_run hdotted hrun).1.pieces_eq, ?_⟩
    rintro first second rfl
    rw [Builder.run_append] at hrun
    obtain ⟨middle, hfirst, -⟩ := exists_ok_of_bind hrun
    exact ⟨middle, hfirst, (Builder.tracked_empty.extends_run hdotted hfirst).2⟩

/-- The value of a parameter and that of a declaration are no content, and a block that is never
closed loses none. -/
theorem pieces_of_unclosed_block :
    ∃ document,
      ofTokens
        [⟨.keyword, "A", .first⟩, ⟨.roundOpen, "(", .first⟩, ⟨.identifier, "k", .first⟩,
          ⟨.string, "v", .first⟩, ⟨.roundClose, ")", .first⟩, ⟨.squareOpen, "[", .first⟩,
          ⟨.keyword, "B", .first⟩, ⟨.colon, ":", .first⟩, ⟨.string, "x", .first⟩,
          ⟨.declaration, "t", .first⟩, ⟨.keyword, "C", .first⟩, ⟨.constant, "y", .first⟩,
          ⟨.decorator, "--", .first⟩] = .ok document ∧
      document.pieces = [.component "A", .component "B", .literal "x", .mark "HR"] :=
  Exists.imp (fun _ hread => ⟨hread, (pieces_of_ofTokens hread).1.trans rfl⟩) ⟨_, rfl⟩

end PageMarkup.Document
