import PageMarkup.Proofs.Document.Origin
import PageMarkup.Proofs.Document.Runs
import PageMarkup.Proofs.Document.Words

/-!
# Tokens without effect, and words that are classes

Commas and numbers do nothing but make the builder forget a dot, and a dot does nothing but wait for
a word directly behind it. So most of these tokens can be deleted from a document. A word without a
capital is a class exactly if a dot stands directly before it and a component is the innermost
construct. It gives the current component one more class, and nothing else gives classes: those in
the tree of a document are the words that are classes, each as often as it stands there.
-/

namespace PageMarkup

namespace Node

mutual

/-- The classes of a node and of all that is below it. -/
def classes : Node → List String
  | component head children => head.classes ++ classesAll children
  | literal _ => []
  | mark _ _ => []

/-- The classes of nodes and of all that is below them. -/
def classesAll : List Node → List String
  | [] => []
  | node :: rest => node.classes ++ classesAll rest

end

/-- The classes of nodes one after the other. -/
theorem classesAll_append (first second : List Node) :
    classesAll (first ++ second) = classesAll first ++ classesAll second := by
  induction first with
  | nil => rfl
  | cons node rest ih => simp [classesAll, ih]

/-- What a token adds has no classes yet. -/
theorem Added.classes_eq_nil {node : Node} (h : node.Added) : node.classes = [] := by
  cases h with
  | component name => rfl
  | wrapped text inList => rfl
  | mark name element => rfl

end Node

/-- The classes on a branch and beside it. -/
def Frame.classes (frames : List Frame) : List String :=
  frames.flatMap fun frame => Node.classesAll frame.before ++ frame.head.classes

/-- The classes in a tree are those on its last branch and beside it, and then those below. -/
theorem Frame.classesAll_plug (frames : List Frame) (nodes : List Node) :
    Node.classesAll (plug frames nodes) = classes frames ++ Node.classesAll nodes := by
  induction frames with
  | nil => rfl
  | cons frame rest ih =>
    rw [plug_cons, Node.classesAll_append, Node.classesAll, Node.classesAll, Node.classes, ih]
    simp [classes]

/-- The classes that an amendment adds to a tree. -/
def Amendment.classes : Amendment → List String
  | className name => [name]
  | parameter _ _ => []
  | node added => added.classes

/-- The classes of a branch end with those of its last component. -/
theorem Frame.classes_concat (frames : List Frame) (frame : Frame) :
    classes (frames ++ [frame]) =
      classes frames ++ Node.classesAll frame.before ++ frame.head.classes := by
  simp [classes]

/-- An amendment adds its classes and takes none away. -/
theorem Amended.classes_perm {amendment : Amendment} {path : Path} {old new : List Node}
    (h : Amended amendment path old new) :
    (Node.classesAll new).Perm (Node.classesAll old ++ amendment.classes) := by
  obtain ⟨pages, middle, inner, nodes, -, -⟩ := h
  rw [Frame.classesAll_plug, Frame.classesAll_plug, Frame.classes_concat, Frame.classes_concat]
  generalize Frame.classes _ ++ Node.classesAll inner.before = first
  cases amendment with
  | className name =>
    -- The new class stands before the classes of what the component holds.
    have hlast : ([name] ++ Node.classesAll nodes).Perm (Node.classesAll nodes ++ [name]) :=
      List.perm_append_comm
    have hall := hlast.append_left (first ++ inner.head.classes)
    simpa only [Amendment.head, Amendment.nodes, Amendment.classes, List.append_assoc] using hall
  | parameter key value =>
    simp only [Amendment.head, Amendment.nodes, Amendment.classes, List.append_nil]
    exact .refl _
  | node added =>
    simp only [Amendment.head, Amendment.nodes, Amendment.classes, Node.classesAll_append,
      Node.classesAll, List.append_nil, List.append_assoc]
    exact .refl _

namespace Document

/-- Whether a token is a class after the given ones: a word without a capital, directly behind a
dot, where a component is the innermost construct. -/
def isClassWord (before : List Token) (token : Token) : Bool :=
  token.kind = .identifier ∧ endsInDot before = true ∧
    (Situation.after {} before).contexts.head? = some .component

/-- The words of a document that are classes, in order. -/
def classWords (tokens : List Token) : List Token :=
  gather (fun before token => if isClassWord before token then [token] else []) tokens

namespace Builder

variable {builder next : Builder} {before tokens : List Token} {token : Token}

/-- Which words are classes can be told from what is open. -/
theorem isClassWord_iff (hrun : Builder.run {} before = .ok builder) (token : Token) :
    isClassWord before token = true ↔
      token.kind = .identifier ∧ builder.situation.namesClass = true := by
  have hdotted := dotted_iff hrun
  rw [isClassWord, decide_eq_true_iff, ← (tracked_of_run hrun).2, Situation.namesClass,
    decide_eq_true_iff]
  change _ ∧ _ ∧ builder.contexts.head? = _ ↔ _ ∧ builder.contexts.head? = _ ∧ builder.dotted = _
  rw [hdotted]
  tauto

/-- A token adds a class if it is the name of one, and no token takes a class away. -/
theorem Effect.classes_perm {kind : TokenKind} {text : String}
    (h : builder.Effect kind text next) :
    (Node.classesAll next.body).Perm (Node.classesAll builder.body ++
      if kind = .identifier ∧ builder.situation.namesClass = true then [text] else []) := by
  have hnode {node : Node} {path : Path} (hadded : node.Added)
      (hbody : Amended (.node node) path builder.body next.body) :
      (Node.classesAll next.body).Perm (Node.classesAll builder.body) := by
    have hperm := hbody.classes_perm
    rwa [Amendment.classes, hadded.classes_eq_nil, List.append_nil] at hperm
  cases h with
  | quiet hquiet hbody _ _ =>
    have hnone : ¬(kind = .identifier ∧ builder.situation.namesClass = true) := by
      rintro ⟨rfl, hclass⟩
      simp [Situation.quiet, hclass] at hquiet
    rw [hbody, if_neg hnone, List.append_nil]
  | opened hkind _ hbody _ _ _ => simp [hkind, hbody]
  | closed hkind hbody _ _ _ => simp [hkind, hbody]
  | page hkind _ _ hbody _ _ =>
    rw [hbody, Node.classesAll_append, pagesBefore]
    split
    · next hempty => simp [hkind, hempty, Node.classesAll, Node.classes, Node.pageWrapper,
        Component.named]
    · simp [hkind, Node.classesAll_append, Node.classesAll, Node.classes, Node.pageWrapper,
        Node.pageBreak, Component.named]
  | child hkind _ _ _ hbody _ _ => simpa [hkind] using hnode (.component text) hbody
  | className hkind hclass _ hbody _ _ =>
    rw [if_pos ⟨hkind, hclass⟩]
    exact hbody.classes_perm
  | parameter hkind _ _ _ hbody _ _ =>
    rw [if_neg (by rcases hkind with rfl | rfl <;> simp)]
    exact hbody.classes_perm
  | literal hkind _ _ _ hbody _ _ =>
    rw [if_neg (by rcases hkind with rfl | rfl <;> simp), List.append_nil]
    exact hnode (.wrapped text _) hbody
  | mark hkind hmark _ hbody _ _ => simpa [hkind] using hnode (added_of_decoration? hmark) hbody

/-- The classes in the tree are the words that were classes. -/
theorem classes_of_run (hrun : Builder.run {} tokens = .ok builder) :
    (Node.classesAll builder.body).Perm ((classWords tokens).map Token.text) := by
  refine run_induction (motive := fun tokens builder =>
    (Node.classesAll builder.body).Perm ((classWords tokens).map Token.text)) .nil ?_ hrun
  intro before middle next token hbefore hclasses haccept
  have hstep := ((tracked_of_run hbefore).1.effect_accept haccept).classes_perm
  have hword : ((if isClassWord before token then [token] else []).map Token.text) =
      if token.kind = .identifier ∧ middle.situation.namesClass = true then [token.text]
      else [] := by
    simp only [isClassWord_iff hbefore]
    split <;> rfl
  rw [classWords, gather_concat, List.map_append, hword]
  exact hstep.trans (hclasses.append_right _)

/-- A class is given to the current component. -/
theorem accept_classWord (hrun : Builder.run {} before = .ok builder)
    (hclass : isClassWord before token = true) :
    builder.accept token.kind token.text = do
      let changed ← builder.attach .className fun head children =>
        .component ((Amendment.className token.text).head head)
          ((Amendment.className token.text).nodes children)
      return { changed with dotted := false } := by
  obtain ⟨hkind, hnames⟩ := (isClassWord_iff hrun token).mp hclass
  have hdeclaration : builder.situation.inDeclaration = false :=
    Situation.inDeclaration_eq_false (of_decide_eq_true hnames).1
  rw [accept, settle, if_pos hkind, hkind, dispatch, readIdentifier_eq, hdeclaration, hnames]
  rfl

/-- Where there is a current component it gets the class, and else the class is refused. -/
theorem read_classWord (hrun : Builder.run {} before = .ok builder)
    (hclass : isClassWord before token = true) :
    (∃ path next, builder.current = some path ∧ builder.read token = .ok next ∧
      Amended (.className token.text) path builder.body next.body) ∨
    builder.current = none ∧
      builder.read token = .error ⟨.outside .className, token.position⟩ := by
  have htracked := (tracked_of_run hrun).1
  have haccept := accept_classWord hrun hclass
  cases hcurrent : builder.current with
  | none =>
    simp only [attach, hcurrent] at haccept
    exact .inr ⟨rfl, by rw [read, haccept]; rfl⟩
  | some path =>
    obtain ⟨pages, middle, inner, nodes, hrooted⟩ := htracked.exists_rooted hcurrent
    obtain ⟨changed, hattach⟩ : ∃ changed, builder.attach .className (fun head children =>
        .component ((Amendment.className token.text).head head)
          ((Amendment.className token.text).nodes children)) = .ok changed :=
      ⟨_, hrooted.attach .className _ _⟩
    obtain ⟨found, hfound, hamended, -, -⟩ := htracked.exists_amended _ hattach
    cases hcurrent.symm.trans hfound
    have hread : builder.read token = .ok { changed with dotted := false } := by
      rw [read, haccept, hattach]
      rfl
    exact .inl ⟨path, _, rfl, hread, hamended⟩

/-- Any other word without a capital leaves the tree alone. -/
theorem read_otherWord (hrun : Builder.run {} before = .ok builder)
    (hkind : token.kind = .identifier) (hclass : isClassWord before token = false) :
    ∃ next, builder.read token = .ok next ∧ next.body = builder.body := by
  have hnames : builder.situation.namesClass = false := by
    rw [Bool.eq_false_iff]
    intro hnames
    rw [(isClassWord_iff hrun token).mpr ⟨hkind, hnames⟩] at hclass
    cases hclass
  rw [read, accept, settle, if_pos hkind, hkind, dispatch, readIdentifier_eq, hnames]
  cases builder.situation.inDeclaration with
  | true => exact ⟨_, rfl, rfl⟩
  | false =>
    cases builder.situation.namesParameter with
    | true => exact ⟨_, rfl, rfl⟩
    | false => exact ⟨_, rfl, rfl⟩

/-- Where no dot waits, commas and numbers do nothing. -/
theorem accept_inert {kind : TokenKind} (hkind : kind = .comma ∨ kind = .integer)
    (hdotted : builder.dotted = false) (text : String) :
    builder.accept kind text = .ok builder := by
  rw [accept_of_not_dotted hdotted]
  rcases hkind with rfl | rfl
  · rfl
  · rfl

/-- A token other than a word without a capital is read alike whether or not a dot waits. -/
theorem accept_forgets_dot {kind : TokenKind} (hkind : kind ≠ .identifier) (flag : Bool)
    (text : String) :
    accept { builder with dotted := flag } kind text = builder.accept kind text := by
  rw [accept, accept, settle, settle, if_neg hkind, if_neg hkind]

end Builder

/-- Whether the first of the tokens is a word without a capital. -/
def startsWithIdentifier (tokens : List Token) : Bool :=
  tokens.head?.any fun token => token.kind = .identifier

/-- Unless a word without a capital comes first, tokens are read alike whether or not a dot
waits. -/
theorem Builder.document_forgets_dot (builder : Builder) (flag : Bool) {tokens : List Token}
    (hword : startsWithIdentifier tokens = false) :
    (Builder.run { builder with dotted := flag } tokens).map Builder.document =
      (builder.run tokens).map Builder.document := by
  cases tokens with
  | nil => rfl
  | cons token rest =>
    have hkind : token.kind ≠ .identifier := by simpa [startsWithIdentifier] using hword
    rw [run_cons, run_cons, read, read, accept_forgets_dot hkind]

/-- A token can be deleted if the tokens behind it do not depend on it. -/
theorem ofTokens_delete {before after : List Token} {token : Token}
    (h : ∀ builder, Builder.run {} before = .ok builder →
      (builder.run (token :: after)).map Builder.document =
        (builder.run after).map Builder.document) :
    ofTokens (before ++ token :: after) = ofTokens (before ++ after) := by
  rw [ofTokens, ofTokens, Builder.run_append, Builder.run_append]
  cases hbefore : Builder.run {} before with
  | error fault => rfl
  | ok builder => exact h builder hbefore

/-- A comma or a number that does not follow a dot can be deleted. -/
theorem ofTokens_delete_inert {before : List Token} {token : Token}
    (hkind : token.kind = .comma ∨ token.kind = .integer) (hdot : endsInDot before = false)
    (after : List Token) : ofTokens (before ++ token :: after) = ofTokens (before ++ after) := by
  refine ofTokens_delete fun builder hbefore => ?_
  have hdotted := Builder.dotted_eq_false hbefore hdot
  rw [Builder.run_cons_of_accept rfl (Builder.accept_inert hkind hdotted token.text)]

/-- A dot that no word without a capital follows can be deleted. -/
theorem ofTokens_delete_dot {token : Token} (hkind : token.kind = .dot) {after : List Token}
    (hword : startsWithIdentifier after = false) (before : List Token) :
    ofTokens (before ++ token :: after) = ofTokens (before ++ after) := by
  refine ofTokens_delete fun builder _ => ?_
  have haccept : builder.accept .dot token.text =
      .ok { builder with dotted := builder.contexts.head? = some .component } := rfl
  rw [Builder.run_cons_of_accept hkind haccept]
  exact builder.document_forgets_dot _ hword

/-- What a word without a capital does when it is read after the given tokens. -/
structure WordRead (before : List Token) (token : Token) (builder : Builder) : Prop where
  /-- The constructs that are open are those that the tokens have left open. -/
  constructs : (Situation.after {} before).contexts = builder.contexts
  /-- Exactly the classes give the current component one more class, and they do nothing else to the
  tree. -/
  classes : ∀ next, builder.read token = .ok next →
    (isClassWord before token = true ↔ ∃ path, builder.current = some path ∧
      Amended (.className token.text) path builder.body next.body)
  /-- All other words are read and leave the tree alone. -/
  others : isClassWord before token = false →
    ∃ next, builder.read token = .ok next ∧ next.body = builder.body
  /-- A class is read if there is a component to give it to. -/
  accepted : ∀ path, builder.current = some path → ∃ next, builder.read token = .ok next
  /-- A class is refused if there is none. -/
  refused : isClassWord before token = true → builder.current = none →
    builder.read token = .error ⟨.outside .className, token.position⟩

/-- A tree is not its own amendment by a class. -/
theorem not_amended_self {name : String} {path : Path} {nodes : List Node} :
    ¬Amended (.className name) path nodes nodes := by
  intro h
  have hlength := h.classes_perm.length_eq
  rw [List.length_append, Amendment.classes, List.length_singleton] at hlength
  omega

/-- Every word without a capital is a class or leaves the tree alone. -/
theorem wordRead_of_run {before : List Token} {token : Token} {builder : Builder}
    (hrun : Builder.run {} before = .ok builder) (hkind : token.kind = .identifier) :
    WordRead before token builder := by
  have hconstructs : (Situation.after {} before).contexts = builder.contexts :=
    congrArg Situation.contexts (Builder.tracked_of_run hrun).2.symm
  cases hclass : isClassWord before token with
  | true =>
    rcases Builder.read_classWord hrun hclass with
      ⟨path, next, hcurrent, hread, hamended⟩ | ⟨hcurrent, hread⟩
    · refine ⟨hconstructs, ?_, fun h => ?_, fun _ _ => ⟨next, hread⟩, fun _ hnone => ?_⟩
      · intro other hother
        cases hread.symm.trans hother
        exact ⟨fun _ => ⟨path, hcurrent, hamended⟩, fun _ => hclass⟩
      · cases hclass.symm.trans h
      · cases hcurrent.symm.trans hnone
    · refine ⟨hconstructs, ?_, fun h => ?_, ?_, fun _ _ => hread⟩
      · intro other hother
        cases hread.symm.trans hother
      · cases hclass.symm.trans h
      · intro path hpath
        cases hcurrent.symm.trans hpath
  | false =>
    obtain ⟨next, hread, hbody⟩ := Builder.read_otherWord hrun hkind hclass
    refine ⟨hconstructs, ?_, fun _ => ⟨next, hread, hbody⟩, fun _ _ => ⟨next, hread⟩, fun h => ?_⟩
    · intro other hother
      cases hread.symm.trans hother
      refine ⟨fun h => ?_, ?_⟩
      · cases hclass.symm.trans h
      · rintro ⟨path, -, hamended⟩
        rw [hbody] at hamended
        exact absurd hamended not_amended_self
    · cases hclass.symm.trans h

/-- Commas and numbers that do not follow a dot, and dots that no word without a capital follows,
can be deleted from any tokens. Words without a capital give classes exactly behind dots, so the
classes in a document are the words that are classes, and there are as many. -/
theorem inert_tokens_and_classes :
    (∀ before token after, token.kind = .comma ∨ token.kind = .integer →
      endsInDot before = false → ofTokens (before ++ token :: after) = ofTokens (before ++ after)) ∧
    (∀ before token after, token.kind = .dot → startsWithIdentifier after = false →
      ofTokens (before ++ token :: after) = ofTokens (before ++ after)) ∧
    (∀ before token builder, Builder.run {} before = .ok builder → token.kind = .identifier →
      WordRead before token builder) ∧
    ∀ tokens document, ofTokens tokens = .ok document →
      (Node.classesAll document.body).Perm ((classWords tokens).map Token.text) ∧
        (Node.classesAll document.body).length = (classWords tokens).length := by
  refine ⟨?_, ?_, ?_, ?_⟩
  · exact fun before token after hkind hdot => ofTokens_delete_inert hkind hdot after
  · exact fun before token after hkind hword => ofTokens_delete_dot hkind hword before
  · exact fun before token builder hrun hkind => wordRead_of_run hrun hkind
  · intro tokens document hdocument
    obtain ⟨final, hrun, rfl⟩ := exists_run_of_ofTokens hdocument
    have hperm := Builder.classes_of_run hrun
    exact ⟨hperm, by rw [← List.length_map Token.text]; exact hperm.length_eq⟩

/-- A component in the block of another one, with a class and a closed block of its own. -/
def closedBlockInBlock : List Token :=
  [⟨.keyword, "A", .first⟩, ⟨.squareOpen, "[", .first⟩, ⟨.keyword, "B", .first⟩,
    ⟨.dot, ".", .first⟩, ⟨.identifier, "b", .first⟩, ⟨.squareOpen, "[", .first⟩,
    ⟨.squareClose, "]", .first⟩]

/-- A class and the end of a block. -/
def classBeforeEnd : List Token :=
  [⟨.dot, ".", .first⟩, ⟨.identifier, "a", .first⟩, ⟨.squareClose, "]", .first⟩]

/-- Behind a closed block a class is given to the component around it, so its word comes later than
that of the component inside. The comma and the first of the two dots can be deleted. -/
theorem classes_around_closed_block :
    ∃ document, ofTokens (closedBlockInBlock ++ classBeforeEnd) = .ok document ∧
      ofTokens (closedBlockInBlock ++
        ⟨.comma, ",", .first⟩ :: ⟨.dot, ".", .first⟩ :: classBeforeEnd) = .ok document ∧
      Node.classesAll document.body = ["a", "b"] ∧
      (Node.classesAll document.body).length =
        (classWords (closedBlockInBlock ++ classBeforeEnd)).length ∧
      ∃ builder, Builder.run {} [⟨.keyword, "A", .first⟩, ⟨.dot, ".", .first⟩] = .ok builder ∧
        WordRead [⟨.keyword, "A", .first⟩, ⟨.dot, ".", .first⟩] ⟨.identifier, "a", .first⟩
          builder := by
  obtain ⟨hinert, hdot, hword, hclasses⟩ := inert_tokens_and_classes
  refine ⟨_, rfl, ?_, rfl, (hclasses _ _ rfl).2, _, rfl, hword _ _ _ rfl rfl⟩
  calc ofTokens (closedBlockInBlock ++
        ⟨.comma, ",", .first⟩ :: ⟨.dot, ".", .first⟩ :: classBeforeEnd)
      = ofTokens (closedBlockInBlock ++ ⟨.dot, ".", .first⟩ :: classBeforeEnd) :=
        hinert _ _ _ (.inl rfl) rfl
    _ = ofTokens (closedBlockInBlock ++ classBeforeEnd) :=
        hdot closedBlockInBlock ⟨.dot, ".", .first⟩ classBeforeEnd rfl rfl
    _ = _ := rfl

end Document

end PageMarkup
