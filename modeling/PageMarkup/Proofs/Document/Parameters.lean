import PageMarkup.Proofs.Document.Origin
import PageMarkup.Proofs.Document.Words
import PageMarkup.Proofs.Matching

/-!
# Which names the values of parameters take

Between round brackets a component gets parameters: names with values. A value takes the name that
has waited least, and the builder does not ask in which brackets this name stands. A name that gets
no value keeps waiting when its brackets are closed, and a value without a name takes it later, for
another component. A value that stands behind its own name, with nothing but complete parameters and
separators between them, takes this name whatever waits besides, and then both stand in the same
pair of round brackets.
-/

namespace PageMarkup.Document

/-- The names of parameters that wait after the tokens of a document, the latest first. -/
def waitingNames (tokens : List Token) : List Token := Waiting.parameters.after {} [] tokens

/-- A token is the name of a parameter after the given tokens. -/
structure NamesParameter (before : List Token) (name : Token) : Prop where
  kind : name.kind = .identifier
  names : (Situation.after {} before).namesParameter = true

/-- A name that waits is the name of a parameter. -/
theorem exists_of_mem_waitingNames {tokens : List Token} {name : Token}
    (h : name ∈ waitingNames tokens) :
    ∃ before rest, tokens = before ++ name :: rest ∧ NamesParameter before name := by
  obtain ⟨before, rest, rfl, hwaits⟩ :=
    (Waiting.exists_of_mem_after h).resolve_left List.not_mem_nil
  refine ⟨before, rest, rfl, ?_⟩
  cases hkind : name.kind with
  | identifier =>
    rw [hkind] at hwaits
    exact ⟨hkind, hwaits⟩
  | declaration | keyword | string | constant | decorator | integer | squareOpen | squareClose
  | roundOpen | roundClose | colon | comma | dot =>
    rw [hkind] at hwaits
    cases hwaits

/-- Whether a token of the given kind may stand between the name of a parameter and its value. -/
def separates : TokenKind → Bool
  | .colon | .comma | .integer | .decorator => true
  | .keyword | .identifier | .string | .constant | .declaration | .squareOpen | .squareClose
  | .roundOpen | .roundClose | .dot => false

/-- Separators and complete parameters. -/
inductive Paired : List Token → Prop
  | nil : Paired []
  | separator {tokens : List Token} {token : Token} (h : Paired tokens)
    (hseparates : separates token.kind = true) : Paired (tokens ++ [token])
  | parameter {tokens between : List Token} {name value : Token} (h : Paired tokens)
    (hname : name.kind = .identifier) (hbetween : Paired between) (hvalue : IsValue value) :
    Paired (tokens ++ (name :: between ++ [value]))

namespace Situation

variable {situation : Situation} {token : Token}

/-- Where a parameter can be named there is no dot to forget. -/
theorem undotted_eq (hnames : situation.namesParameter = true) :
    { situation with dotted := false } = situation := by
  obtain ⟨-, hdotted, -⟩ := of_decide_eq_true hnames
  rw [← hdotted]

/-- A separator changes nothing in a list of parameters. -/
theorem next_of_separates (words : List Token) (hnames : situation.namesParameter = true)
    (h : separates token.kind = true) :
    situation.next token.kind = situation ∧
      Waiting.parameters.next situation words token = words := by
  unfold Waiting.next
  cases hkind : token.kind with
  | colon | comma | integer | decorator => exact ⟨undotted_eq hnames, rfl⟩
  | keyword | identifier | string | constant | declaration | squareOpen | squareClose | roundOpen
  | roundClose | dot =>
    rw [hkind] at h
    cases h

/-- A name waits. -/
theorem next_name (words : List Token) (hnames : situation.namesParameter = true)
    (hname : token.kind = .identifier) :
    situation.next token.kind = { situation with keys := situation.keys + 1 } ∧
      Waiting.parameters.next situation words token = token :: words := by
  obtain ⟨-, hdotted, -⟩ := of_decide_eq_true hnames
  simp [Waiting.next, Waiting.parameters, next, hname, hnames, hdotted]

/-- Behind a name, a value takes one. -/
theorem next_parameterValue (words : List Token) (hnames : situation.namesParameter = true)
    (hvalue : IsValue token) :
    { situation with keys := situation.keys + 1 }.inParameter = true ∧
      { situation with keys := situation.keys + 1 }.next token.kind = situation ∧
      Waiting.parameters.next { situation with keys := situation.keys + 1 } words token =
        words.tail := by
  obtain ⟨hcomponent, -, hrounds⟩ := of_decide_eq_true hnames
  have hparameter : { situation with keys := situation.keys + 1 }.inParameter = true := by
    simp [inParameter, hcomponent, hrounds]
  have hdeclaration : { situation with keys := situation.keys + 1 }.inDeclaration = false :=
    inDeclaration_eq_false hcomponent
  refine ⟨hparameter, ?_, ?_⟩
  · rcases hvalue with hkind | hkind <;>
      simp [next, hkind, hparameter, hdeclaration, undotted_eq hnames]
  · rcases hvalue with hkind | hkind <;>
      simp [Waiting.next, Waiting.parameters, hkind, hparameter]

end Situation

namespace Paired

variable {tokens : List Token}

/-- Between a name and its value no round bracket closes and no component begins. -/
theorem kind_ne (h : Paired tokens) :
    ∀ token ∈ tokens, token.kind ≠ .roundClose ∧ token.kind ≠ .keyword := by
  induction h with
  | nil => exact List.forall_mem_nil _
  | @separator tokens token _ hseparates ih =>
    refine List.forall_mem_append.mpr ⟨ih, List.forall_mem_singleton.mpr ?_⟩
    constructor <;> rintro hkind <;> simp [hkind, separates] at hseparates
  | @parameter tokens between name value _ hname _ hvalue ih ihBetween =>
    have hlast : value.kind ≠ .roundClose ∧ value.kind ≠ .keyword := by
      rcases hvalue with hkind | hkind <;> simp [hkind]
    refine List.forall_mem_append.mpr ⟨ih, List.forall_mem_append.mpr ⟨?_, ?_⟩⟩
    · exact List.forall_mem_cons.mpr ⟨by simp [hname], ihBetween⟩
    · exact List.forall_mem_singleton.mpr hlast

/-- Separators and complete parameters leave behind them what waited before. -/
theorem after_eq (h : Paired tokens) {situation : Situation}
    (hnames : situation.namesParameter = true) (words : List Token) :
    situation.after tokens = situation ∧
      Waiting.parameters.after situation words tokens = words := by
  induction h generalizing situation words with
  | nil => exact ⟨rfl, rfl⟩
  | @separator tokens token _ hseparates ih =>
    obtain ⟨hsituation, hwords⟩ := ih hnames words
    rw [Situation.after_append, Waiting.after_append, hsituation, hwords]
    exact Situation.next_of_separates words hnames hseparates
  | @parameter tokens between name value _ hname _ hvalue ih ihBetween =>
    obtain ⟨hsituation, hwords⟩ := ih hnames words
    rw [Situation.after_append, Waiting.after_append, hsituation, hwords]
    -- The value takes the name of its own parameter.
    obtain ⟨hnamed, hwaits⟩ := Situation.next_name words hnames hname
    have hinside : { situation with keys := situation.keys + 1 }.namesParameter = true := hnames
    obtain ⟨hstays, hkept⟩ := ihBetween hinside (name :: words)
    obtain ⟨-, hback, htaken⟩ := Situation.next_parameterValue (name :: words) hnames hvalue
    have hopened : situation.after (name :: between) =
        { situation with keys := situation.keys + 1 } := by
      rw [← hstays, ← hnamed]
      rfl
    have hwaiting : Waiting.parameters.after situation words (name :: between) = name :: words := by
      rw [Waiting.after, hnamed, hwaits, hkept]
    rw [Situation.after_append, Waiting.after_append, hopened, hwaiting]
    exact ⟨hback, htaken⟩

/-- Behind its own name a value takes this name, whatever waits besides. -/
theorem waitingNames_eq (h : Paired tokens) {before : List Token} {name : Token}
    (hname : NamesParameter before name) :
    waitingNames (before ++ name :: tokens) = name :: waitingNames before := by
  obtain ⟨hnamed, hwaits⟩ := Situation.next_name (waitingNames before) hname.names hname.kind
  have hinside : ((Situation.after {} before).next name.kind).namesParameter = true := by
    rw [hnamed]
    exact hname.names
  obtain ⟨-, hkept⟩ := h.after_eq hinside (name :: waitingNames before)
  calc waitingNames (before ++ name :: tokens)
      = Waiting.parameters.after ((Situation.after {} before).next name.kind)
          (Waiting.parameters.next (Situation.after {} before) (waitingNames before) name)
          tokens := Waiting.after_append before (name :: tokens)
    _ = name :: waitingNames before := by rw [hwaits, hkept]

end Paired

namespace Situation

/-- A token opens and closes round brackets as its kind says. -/
theorem rounds_next (situation : Situation) (kind : TokenKind) :
    (situation.next kind).rounds = (Brackets.depthStep? .round situation.rounds kind).getD 0 := by
  cases kind with
  | roundClose =>
    cases hrounds : situation.rounds <;>
      simp [next, hrounds, Brackets.depthStep?, Brackets.opening, Brackets.closing]
  | roundOpen | keyword | identifier | string | constant | decorator | declaration | squareOpen
  | squareClose | colon | comma | dot | integer => rfl

/-- Round brackets are counted along the tokens. -/
theorem rounds_after (situation : Situation) (tokens : List Token) :
    (situation.after tokens).rounds = Brackets.depthAfter .round situation.rounds tokens := by
  induction tokens generalizing situation with
  | nil => rfl
  | cons token rest ih =>
    rw [Brackets.depthAfter, List.foldl_cons, ← rounds_next]
    exact ih (situation.next token.kind)

end Situation

/-- Tokens stand in a matching pair of round brackets. -/
def InRounds (before inside after : List Token) : Prop :=
  ∃ outer opener first last closer rest, before = outer ++ opener :: first ∧
    after = last ++ closer :: rest ∧ opener.kind = .roundOpen ∧ closer.kind = .roundClose ∧
    Brackets.opened? [] (first ++ inside ++ last) = some []

/-- Where a round bracket is open and none closes for a while, the tokens stand in one pair of round
brackets. -/
theorem inRounds_of_check {before inside after : List Token}
    (hcheck : Brackets.check (before ++ (inside ++ after)) = .ok ())
    (hrounds : 0 < (Situation.after {} before).rounds)
    (hinside : ∀ token ∈ inside, token.kind ≠ .roundClose) : InRounds before inside after := by
  obtain ⟨left, hleft, hrest⟩ := Brackets.exists_opened?_of_check hcheck
  have hcount : (Situation.after {} before).rounds = Brackets.count .round left :=
    (Situation.rounds_after {} before).trans
      (Brackets.depthAfter_eq (Brackets.depth?_count .round hleft))
  rw [hcount, Brackets.count, List.countP_pos_iff] at hrounds
  obtain ⟨bracket, hbracket, hshape⟩ := hrounds
  have hround : bracket.value = .round := of_decide_eq_true hshape
  obtain ⟨inner, around, rfl⟩ := List.append_of_mem hbracket
  obtain ⟨outer, opener, first, rfl, hopener, -, -, hfirst⟩ := Brackets.exists_opener hleft
  obtain ⟨middle, closer, rest, hsplit, hcloser, hmiddle⟩ := Brackets.exists_closer hrest
  rw [hround, Brackets.opens?_eq_some_iff] at hopener
  rw [hround, Brackets.closes?_eq_some_iff] at hcloser
  -- The bracket that closes comes behind all that stands inside.
  obtain ⟨last, rfl, rfl⟩ : ∃ last, middle = inside ++ last ∧ after = last ++ closer :: rest := by
    rcases List.append_eq_append_iff.mp hsplit with ⟨last, hmid, hafter⟩ | ⟨last, hins, htail⟩
    · exact ⟨last, hmid, hafter⟩
    · cases last with
      | nil => exact ⟨[], by simpa using hins.symm, htail.symm⟩
      | cons token more =>
        obtain ⟨rfl, -⟩ : closer = token ∧ rest = more ++ after := by simpa using htail
        exact absurd hcloser (hinside closer (by simp [hins]))
  refine ⟨outer, opener, first, last, closer, rest, rfl, rfl, hopener, hcloser, ?_⟩
  rw [List.append_assoc, Brackets.opened?_append, hfirst]
  exact hmiddle

/-- A name and a value stand in the same pair of round brackets, and no component begins between
them. -/
structure InSameList (before : List Token) (name : Token) (between : List Token) (value : Token)
    (after : List Token) : Prop where
  /-- The same brackets stand around both. -/
  brackets : InRounds before (name :: between ++ [value]) after
  /-- No word between the name and the value begins a component. -/
  components : ∀ token ∈ between, token.kind ≠ .keyword

/-- A value behind its own name stands in the same list. -/
theorem Paired.inSameList {before between after : List Token} {name value : Token}
    (h : Paired between) (hname : NamesParameter before name) (hvalue : IsValue value)
    (hcheck : Brackets.check (before ++ name :: between ++ value :: after) = .ok ()) :
    InSameList before name between value after where
  brackets := by
    have hlast : value.kind ≠ .roundClose := by rcases hvalue with hkind | hkind <;> simp [hkind]
    refine inRounds_of_check ?_ (of_decide_eq_true hname.names).2.2 ?_
    · simpa using hcheck
    · refine List.forall_mem_append.mpr ⟨List.forall_mem_cons.mpr ⟨by simp [hname.kind], ?_⟩, ?_⟩
      · exact fun token htoken => (h.kind_ne token htoken).1
      · exact List.forall_mem_singleton.mpr hlast
  components := fun token htoken => (h.kind_ne token htoken).2

/-- A parameter in a tree has been given by one value, which has taken the name that had waited
least. -/
theorem exists_name_of_parameter {tokens : List Token} {final : Builder} {path : Path}
    {head : Component} {children : List Node} {entry : String × String}
    (hrun : Builder.run {} tokens = .ok final)
    (hat : Node.at? final.body path = some (head, children))
    (hentry : entry ∈ head.parameters.entries) :
    ∃ before value after builder name rest, tokens = before ++ value :: after ∧ IsValue value ∧
      (Situation.after {} before).inParameter = true ∧ Builder.run {} before = .ok builder ∧
      builder.current = some path ∧ waitingNames before = name :: rest ∧
      entry = (name.text, value.text) := by
  have hnot : ¬∃ head children, Node.at? ({} : Builder).body path = some (head, children) ∧
      entry ∈ head.parameters.entries := by
    rintro ⟨head, children, hempty, -⟩
    cases path <;> cases hempty
  obtain ⟨before, value, after, builder, next, rfl, hbefore, htoken, -, hnew, ⟨grown, nodes, hgrown,
    hgiven⟩, -⟩ := Builder.exists_turn
      (p := fun builder => ∃ head children, Node.at? builder.body path = some (head, children) ∧
        entry ∈ head.parameters.entries) hrun hnot ⟨head, children, hat, hentry⟩
  obtain ⟨htracked, hsituation⟩ := Builder.tracked_of_run hbefore
  have heffect := htracked.effect_accept (Builder.accept_of_read htoken)
  obtain ⟨hvalue, hparameter, hkey, htext, hcurrent⟩ :=
    (heffect.parameter_cases hgrown hgiven).resolve_left hnew
  rw [Builder.keys_of_run hbefore, List.head?_map, Option.map_eq_some_iff] at hkey
  obtain ⟨name, hname, hnameText⟩ := hkey
  obtain ⟨rest, hwaiting⟩ := List.head?_eq_some_iff.mp hname
  rw [hsituation] at hparameter
  exact ⟨before, value, after, builder, name, rest, rfl, hvalue, hparameter, hbefore, hcurrent,
    hwaiting, by rw [hnameText, htext]⟩

/-- Where the parameter of a component comes from: from a value and the name that has waited least
there, each in round brackets. If the value stands behind its own name, it takes this name, and both
stand in the same list. -/
def ParameterGiven (tokens : List Token) (path : Path) (entry : String × String) : Prop :=
  ∃ before value after builder name rest, tokens = before ++ value :: after ∧ IsValue value ∧
    (Situation.after {} before).inParameter = true ∧ Builder.run {} before = .ok builder ∧
    builder.current = some path ∧ waitingNames before = name :: rest ∧
    entry = (name.text, value.text) ∧ InRounds before [value] after ∧
    (∃ first between, before = first ++ name :: between ∧ NamesParameter first name ∧
      InRounds first [name] (between ++ value :: after)) ∧
    ∀ first own between, before = first ++ own :: between → NamesParameter first own →
      Paired between → own = name ∧ InSameList first own between value after

/-- Each parameter in a tree has been given by one value, which has taken the name that had waited
least. If the value stands behind its own name, this name is the one. -/
theorem parameters_take_latest_names {tokens : List Token} {document : Document} {path : Path}
    {head : Component} {children : List Node} {entry : String × String}
    (hcheck : Brackets.check tokens = .ok ()) (hread : ofTokens tokens = .ok document)
    (hat : Node.at? document.body path = some (head, children))
    (hentry : entry ∈ head.parameters.entries) : ParameterGiven tokens path entry := by
  obtain ⟨final, hrun, rfl⟩ := exists_run_of_ofTokens hread
  obtain ⟨before, value, after, builder, name, rest, rfl, hvalue, hparameter, hbefore, hcurrent,
    hwaiting, hentry⟩ := exists_name_of_parameter hrun hat hentry
  have hwaits : name ∈ waitingNames before := by simp [hwaiting]
  obtain ⟨place, between, hplace, hnames⟩ := exists_of_mem_waitingNames hwaits
  refine ⟨before, value, after, builder, name, rest, rfl, hvalue, hparameter, hbefore, hcurrent,
    hwaiting, hentry, ?_, ⟨place, between, hplace, hnames, ?_⟩, ?_⟩
  · refine inRounds_of_check hcheck (of_decide_eq_true hparameter).2.1 ?_
    rcases hvalue with hkind | hkind <;> simp [hkind]
  · refine inRounds_of_check ?_ (of_decide_eq_true hnames.names).2.2 (by simp [hnames.kind])
    simpa [hplace] using hcheck
  · rintro first own middle rfl hown hpaired
    obtain ⟨rfl, -⟩ : own = name ∧ waitingNames first = rest := by
      have htaken := hpaired.waitingNames_eq hown
      rw [hwaiting] at htaken
      simpa [eq_comm] using htaken
    exact ⟨rfl, hpaired.inSameList hown hvalue hcheck⟩

/-- A list of parameters with a name that gets no value and one that does. -/
def bareNameInList : List Token :=
  [⟨.keyword, "A", .first⟩, ⟨.roundOpen, "(", .first⟩, ⟨.identifier, "k", .first⟩,
    ⟨.comma, ",", .first⟩, ⟨.identifier, "m", .first⟩, ⟨.colon, ":", .first⟩,
    ⟨.string, "v", .first⟩, ⟨.roundClose, ")", .first⟩]

/-- A parameter behind a name that has got no value. -/
theorem parameterGiven_behind_bare_name :
    ∃ document head children, Brackets.check bareNameInList = .ok () ∧
      ofTokens bareNameInList = .ok document ∧
      Node.at? document.body [0, 0] = some (head, children) ∧
      head.parameters.entries = [("m", "v")] ∧
      ParameterGiven bareNameInList [0, 0] ("m", "v") :=
  ⟨_, _, _, rfl, rfl, rfl, rfl,
    parameters_take_latest_names rfl rfl rfl (List.mem_singleton_self _)⟩

/-- A component whose list has a name alone, and one whose list has a value alone. -/
def nameAndValueApart : List Token :=
  [⟨.keyword, "A", .first⟩, ⟨.roundOpen, "(", .first⟩, ⟨.identifier, "k", .first⟩,
    ⟨.roundClose, ")", .first⟩, ⟨.squareOpen, "[", .first⟩, ⟨.squareClose, "]", .first⟩,
    ⟨.keyword, "B", .first⟩, ⟨.roundOpen, "(", .first⟩, ⟨.string, "v", .first⟩,
    ⟨.roundClose, ")", .first⟩, ⟨.squareOpen, "[", .first⟩, ⟨.squareClose, "]", .first⟩]

/-- A name that gets no value in its own list waits for a value in the list of another component. -/
theorem name_without_value_goes_to_next_list :
    ∃ document head, Brackets.check nameAndValueApart = .ok () ∧
      ofTokens nameAndValueApart = .ok document ∧
      Node.at? document.body [2, 0] = some (head, []) ∧ head.name = "B" ∧
      head.parameters.entries = [("k", "v")] :=
  ⟨_, _, rfl, rfl, rfl, rfl, rfl⟩

end PageMarkup.Document
