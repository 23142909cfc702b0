import PageMarkup.Proofs.Document.Runs

/-!
# The words that wait for a value

The builder keeps words until their values come: the names of parameters, and the topics and keys of
declarations. Both are kept with the latest first, for the whole run and not for one list of
parameters or one declaration. A word or a value adds to the words of one kind or takes from them,
as the situation says, and no other token touches them. So the words that wait can be followed along
the tokens without any builder. Only the value of a declaration changes what is recorded.
-/

namespace PageMarkup.Document

/-- Whether a token is a value. -/
def IsValue (token : Token) : Prop := token.kind = .string ∨ token.kind = .constant

/-- Which tokens are words that wait, and how many words a token takes. -/
structure Waiting where
  /-- Whether a token waits. -/
  waits : Situation → TokenKind → Bool
  /-- How many words a token takes, if it does not wait. -/
  takes : Situation → TokenKind → Nat

namespace Waiting

variable {waiting : Waiting} {situation : Situation} {words : List Token}

/-- The words that wait after a token, the latest first. -/
def next (waiting : Waiting) (situation : Situation) (words : List Token) (token : Token) :
    List Token :=
  if waiting.waits situation token.kind then token :: words
  else words.drop (waiting.takes situation token.kind)

/-- The words that wait after tokens, the latest first. -/
def after (waiting : Waiting) : Situation → List Token → List Token → List Token
  | _, words, [] => words
  | situation, words, token :: rest =>
    waiting.after (situation.next token.kind) (waiting.next situation words token) rest

/-- Words are followed along two lists of tokens one after the other. -/
theorem after_append (first second : List Token) :
    waiting.after situation words (first ++ second) =
      waiting.after (situation.after first) (waiting.after situation words first) second := by
  induction first generalizing situation words with
  | nil => rfl
  | cons token rest ih => exact ih

/-- A word that waits after tokens has waited before, or has begun to wait among them. -/
theorem exists_of_mem_after {word : Token} {tokens : List Token}
    (h : word ∈ waiting.after situation words tokens) :
    word ∈ words ∨ ∃ before rest, tokens = before ++ word :: rest ∧
      waiting.waits (situation.after before) word.kind = true := by
  induction tokens generalizing situation words with
  | nil => exact .inl h
  | cons token rest ih =>
    rcases ih h with hnext | ⟨before, later, rfl, hwaits⟩
    · unfold next at hnext
      split at hnext
      · next hwaits =>
        rcases List.mem_cons.mp hnext with rfl | hold
        · exact .inr ⟨[], rest, rfl, hwaits⟩
        · exact .inl hold
      · exact .inl (List.mem_of_mem_drop hnext)
    · exact .inr ⟨token :: before, later, rfl, hwaits⟩

/-- The topics and keys of declarations wait for the values that end these. -/
def declarations : Waiting where
  waits situation kind :=
    match kind with
    | .declaration => true
    | .keyword | .identifier => situation.inDeclaration
    | _ => false
  takes situation kind :=
    match kind with
    | .string | .constant => if situation.inDeclaration then 2 else 0
    | _ => 0

/-- The names of parameters wait for their values. -/
def parameters : Waiting where
  waits situation kind :=
    match kind with
    | .identifier => situation.namesParameter
    | _ => false
  takes situation kind :=
    match kind with
    | .string | .constant => if situation.inParameter then 1 else 0
    | _ => 0

end Waiting

namespace Situation

variable {situation : Situation}

/-- The situation is followed along two lists of tokens one after the other. -/
theorem after_append (first second : List Token) :
    situation.after (first ++ second) = (situation.after first).after second :=
  List.foldl_append

/-- In a component no declaration is read. -/
theorem inDeclaration_eq_false (h : situation.contexts.head? = some .component) :
    situation.inDeclaration = false := by
  simp [inDeclaration, h]

/-- In a declaration no parameter is named. -/
theorem namesParameter_eq_false (h : situation.inDeclaration = true) :
    situation.namesParameter = false := by
  simp [namesParameter, of_decide_eq_true h]

/-- In a declaration no parameter has a value. -/
theorem inParameter_eq_false (h : situation.inDeclaration = true) :
    situation.inParameter = false := by
  simp [inParameter, of_decide_eq_true h]

end Situation

/-- Whether a token of the given kind adds to the words that wait or takes from them. -/
def Situation.notes (situation : Situation) : TokenKind → Bool
  | .declaration => true
  | .keyword => situation.inDeclaration
  | .identifier => situation.inDeclaration || situation.namesParameter
  | .string | .constant => situation.inDeclaration || situation.inParameter
  | .decorator | .integer | .squareOpen | .squareClose | .roundOpen | .roundClose | .colon | .comma
  | .dot => false

namespace Builder

variable {builder next : Builder}

/-- The same is recorded. -/
structure SameRecords (builder next : Builder) : Prop where
  configurations : next.configurations = builder.configurations
  references : next.references = builder.references

/-- A value is recorded under a topic and a key: a configuration in place of an earlier one, a
reference unless it is there already, and nothing under any other topic. -/
def Filed (builder : Builder) (topic key value : String) (next : Builder) : Prop :=
  match Directive.ofTopic topic with
  | .configure =>
    next.configurations = builder.configurations.insert key value ∧
      next.references = builder.references
  | .reference =>
    next.configurations = builder.configurations ∧
      ∃ values, values = (builder.references.get? key).getD [] ∧
        next.references =
          builder.references.insert key (if value ∈ values then values else values ++ [value])
  | .unknown _ =>
    next.configurations = builder.configurations ∧ next.references = builder.references

/-- What a token of the given kind and text does to the words that wait and to what is recorded. -/
inductive Noted (builder : Builder) (kind : TokenKind) (text : String) (next : Builder) : Prop
  /-- Nothing. -/
  | nothing (hnotes : builder.situation.notes kind = false) (hkeys : next.keys = builder.keys)
    (hdeclared : next.declared = builder.declared) (hrecords : builder.SameRecords next)
  /-- The name of a parameter waits. -/
  | parameterName (hkind : kind = .identifier) (hnames : builder.situation.namesParameter = true)
    (hkeys : next.keys = text :: builder.keys) (hdeclared : next.declared = builder.declared)
    (hrecords : builder.SameRecords next)
  /-- The latest name of a parameter has its value. -/
  | parameterValue (hkind : kind = .string ∨ kind = .constant)
    (hparameter : builder.situation.inParameter = true) (hkeys : next.keys = builder.keys.tail)
    (hdeclared : next.declared = builder.declared) (hrecords : builder.SameRecords next)
  /-- The topic or the key of a declaration waits. -/
  | declarationWord (hkind : kind = .declaration ∨
      (kind = .keyword ∨ kind = .identifier) ∧ builder.situation.inDeclaration = true)
    (hkeys : next.keys = builder.keys) (hdeclared : next.declared = text :: builder.declared)
    (hrecords : builder.SameRecords next)
  /-- A value is recorded under the two latest words of declarations. -/
  | declarationValue {topic key : String} (hkind : kind = .string ∨ kind = .constant)
    (hdeclaration : builder.situation.inDeclaration = true) (hkeys : next.keys = builder.keys)
    (hdeclared : builder.declared = key :: topic :: next.declared) (hkey : key ≠ "")
    (htopic : topic ≠ "") (hfiled : builder.Filed topic key text next)

/-- A declaration with its value takes the two latest words, the key before the topic. -/
theorem noted_declare {kind : TokenKind} {value : String}
    (hkind : kind = .string ∨ kind = .constant)
    (hdeclaration : builder.situation.inDeclaration = true)
    (h : builder.declare value = .ok next) : builder.Noted kind value next := by
  unfold declare declaration? at h
  split at h
  · cases h
  · next declared rest hwords =>
    split at hwords
    · next key topic more heq =>
      split at hwords
      · cases hwords
      · next hfilled =>
        cases hwords
        cases h
        rw [not_or] at hfilled
        have hfiled : builder.Filed topic key value
            { builder.record ⟨.ofTopic topic, key⟩ value with
              declared := rest
              colons := builder.colons - 1
              contexts := builder.contexts.tail } := by
          unfold Filed record
          cases Directive.ofTopic topic with
          | configure => exact ⟨rfl, rfl⟩
          | reference => exact ⟨rfl, _, rfl, rfl⟩
          | unknown other => exact ⟨rfl, rfl⟩
        refine .declarationValue hkind hdeclaration ?_ heq hfilled.1 hfilled.2 hfiled
        unfold record
        cases Directive.ofTopic topic <;> rfl
    · cases hwords

/-- A word with a capital waits in a declaration only. -/
theorem noted_readKeyword {text : String} (h : builder.readKeyword text = .ok next) :
    builder.Noted .keyword text next := by
  unfold readKeyword at h
  split at h
  · next hcontext =>
    cases h
    exact .declarationWord (.inr ⟨.inl rfl, decide_eq_true hcontext⟩) rfl rfl ⟨rfl, rfl⟩
  · next hcontext =>
    obtain ⟨body, current, rfl⟩ := exists_of_beginComponent h
    exact .nothing (decide_eq_false hcontext) rfl rfl ⟨rfl, rfl⟩

/-- A word without a capital waits in a declaration, and as the name of a parameter. -/
theorem noted_readIdentifier {text : String} (h : builder.readIdentifier text = .ok next) :
    builder.Noted .identifier text next := by
  unfold readIdentifier at h
  split at h
  · next hcontext =>
    cases h
    exact .declarationWord (.inr ⟨.inr rfl, decide_eq_true hcontext⟩) rfl rfl ⟨rfl, rfl⟩
  · next hcontext =>
    have hdeclaration : builder.situation.inDeclaration = false := by
      simp [situation, Situation.inDeclaration, hcontext]
    split at h
    · next hdotted =>
      obtain ⟨changed, hattach, hnext⟩ := exists_ok_of_bind h
      obtain ⟨body, rfl⟩ := exists_body_of_attach hattach
      cases hnext
      have hnames : builder.situation.namesParameter = false := by
        simp [situation, Situation.namesParameter, hdotted]
      exact .nothing (by simp [Situation.notes, hdeclaration, hnames]) rfl rfl ⟨rfl, rfl⟩
    · next hdotted =>
      split at h
      · next hrounds =>
        cases h
        exact .parameterName rfl
          (by simp [situation, Situation.namesParameter, hcontext, hdotted, hrounds]) rfl rfl
          ⟨rfl, rfl⟩
      · next hrounds =>
        cases h
        have hnames : builder.situation.namesParameter = false := by
          simp [situation, Situation.namesParameter, hrounds]
        exact .nothing (by simp [Situation.notes, hdeclaration, hnames]) rfl rfl ⟨rfl, rfl⟩
  · next hcontext =>
    cases h
    exact .nothing (by
      simp [Situation.notes, situation, Situation.inDeclaration, Situation.namesParameter,
        hcontext]) rfl rfl ⟨rfl, rfl⟩

/-- A value takes words of declarations, or the name of a parameter, or is a text. -/
theorem noted_readValue {kind : TokenKind} {text : String}
    (hkind : kind = .string ∨ kind = .constant) (h : builder.readValue text = .ok next) :
    builder.Noted kind text next := by
  rcases builder.readValue_cases text with ⟨hdeclaration, heq⟩ |
    ⟨hdeclaration, hparameter, key, heq, -⟩ | ⟨hdeclaration, hparameter, heq⟩
  · rw [heq] at h
    exact noted_declare hkind hdeclaration h
  · rw [heq] at h
    obtain ⟨body, rfl⟩ := exists_of_setParameter h
    exact .parameterValue hkind hparameter rfl rfl ⟨rfl, rfl⟩
  · rw [heq] at h
    obtain ⟨body, colons, current, rfl⟩ := exists_of_addLiteral h
    refine .nothing ?_ rfl rfl ⟨rfl, rfl⟩
    rcases hkind with rfl | rfl <;> simp [Situation.notes, hdeclaration, hparameter]

/-- What a token without a dot to forget does to the words that wait. -/
theorem noted_dispatch {kind : TokenKind} {text : String}
    (h : builder.dispatch text kind = .ok next) : builder.Noted kind text next := by
  cases kind with
  | keyword => exact noted_readKeyword h
  | identifier => exact noted_readIdentifier h
  | string => exact noted_readValue (.inl rfl) h
  | constant => exact noted_readValue (.inr rfl) h
  | decorator =>
    simp only [dispatch, readDecorator] at h
    split at h
    · obtain ⟨body, rfl⟩ := exists_body_of_attach h
      exact .nothing rfl rfl rfl ⟨rfl, rfl⟩
    · cases h
  | squareOpen =>
    simp only [dispatch, openBlock] at h
    split at h
    · cases h
    · cases h
      exact .nothing rfl rfl rfl ⟨rfl, rfl⟩
  | declaration =>
    cases h
    exact .declarationWord (.inl rfl) rfl rfl ⟨rfl, rfl⟩
  | squareClose | roundOpen | roundClose | colon | dot | comma | integer =>
    cases h
    exact .nothing rfl rfl rfl ⟨rfl, rfl⟩

/-- A forgotten dot does not change what a token does to the words, unless the token is a word
without a capital. -/
theorem Noted.of_undotted {kind : TokenKind} {text : String} (hkind : kind ≠ .identifier)
    (h : Noted { builder with dotted := false } kind text next) : builder.Noted kind text next := by
  cases h with
  | nothing hnotes hkeys hdeclared hrecords =>
    refine .nothing ?_ hkeys hdeclared ⟨hrecords.1, hrecords.2⟩
    cases kind with
    | identifier => exact absurd rfl hkind
    | keyword | string | constant | decorator | squareOpen | squareClose | declaration | roundOpen
    | roundClose | colon | comma | dot | integer => exact hnotes
  | parameterName hidentifier => exact absurd hidentifier hkind
  | parameterValue hkind hparameter hkeys hdeclared hrecords =>
    exact .parameterValue hkind hparameter hkeys hdeclared ⟨hrecords.1, hrecords.2⟩
  | declarationWord hkind hkeys hdeclared hrecords =>
    exact .declarationWord hkind hkeys hdeclared ⟨hrecords.1, hrecords.2⟩
  | declarationValue hkind hdeclaration hkeys hdeclared hkey htopic hfiled =>
    exact .declarationValue hkind hdeclaration hkeys hdeclared hkey htopic hfiled

/-- What a token that is accepted does to the words that wait and to what is recorded. -/
theorem noted_accept {kind : TokenKind} {text : String}
    (h : builder.accept kind text = .ok next) : builder.Noted kind text next := by
  by_cases hkind : kind = .identifier
  · rw [accept, settle, if_pos hkind] at h
    exact noted_dispatch h
  · rw [accept, settle, if_neg hkind] at h
    exact (noted_dispatch h).of_undotted hkind

/-- A token adds to the words of declarations and takes from them as the situation says. -/
theorem Noted.declared_eq {token : Token} {words : List Token}
    (h : builder.Noted token.kind token.text next)
    (hwords : builder.declared = words.map Token.text) :
    next.declared = (Waiting.declarations.next builder.situation words token).map Token.text := by
  unfold Waiting.next
  cases h with
  | nothing hnotes _ hdeclared _ =>
    rw [hdeclared, hwords]
    cases hkind : token.kind with
    | declaration =>
      rw [hkind] at hnotes
      cases hnotes
    | keyword =>
      have houtside : builder.situation.inDeclaration = false := by rwa [hkind] at hnotes
      simp [Waiting.declarations, houtside]
    | identifier | string | constant =>
      rw [hkind, Situation.notes, Bool.or_eq_false_iff] at hnotes
      simp [Waiting.declarations, hnotes.1]
    | decorator | integer | squareOpen | squareClose | roundOpen | roundClose | colon | comma
    | dot => rfl
  | parameterName hkind hnames _ hdeclared _ =>
    have houtside := Situation.inDeclaration_eq_false (of_decide_eq_true hnames).1
    simp [Waiting.declarations, hkind, houtside, hdeclared, hwords]
  | parameterValue hkind hparameter _ hdeclared _ =>
    have houtside := Situation.inDeclaration_eq_false (of_decide_eq_true hparameter).1
    rcases hkind with hkind | hkind <;>
      simp [Waiting.declarations, hkind, houtside, hdeclared, hwords]
  | declarationWord hkind _ hdeclared _ =>
    rw [hdeclared, hwords]
    rcases hkind with hkind | ⟨hkind | hkind, hdeclaration⟩
    · simp [Waiting.declarations, hkind]
    · simp [Waiting.declarations, hkind, hdeclaration]
    · simp [Waiting.declarations, hkind, hdeclaration]
  | declarationValue hkind hdeclaration _ hdeclared _ _ _ =>
    have htaken : next.declared = (words.drop 2).map Token.text := by
      rw [List.map_drop, ← hwords, hdeclared]
      rfl
    rw [htaken]
    rcases hkind with hkind | hkind <;> simp [Waiting.declarations, hkind, hdeclaration]

/-- A token adds to the names of parameters and takes from them as the situation says. -/
theorem Noted.keys_eq {token : Token} {words : List Token}
    (h : builder.Noted token.kind token.text next)
    (hwords : builder.keys = words.map Token.text) :
    next.keys = (Waiting.parameters.next builder.situation words token).map Token.text := by
  unfold Waiting.next
  cases h with
  | nothing hnotes hkeys _ _ =>
    rw [hkeys, hwords]
    cases hkind : token.kind with
    | declaration =>
      rw [hkind] at hnotes
      cases hnotes
    | identifier | string | constant =>
      rw [hkind, Situation.notes, Bool.or_eq_false_iff] at hnotes
      simp [Waiting.parameters, hnotes.2]
    | keyword | decorator | integer | squareOpen | squareClose | roundOpen | roundClose | colon
    | comma | dot => rfl
  | parameterName hkind hnames hkeys _ _ =>
    simp [Waiting.parameters, hkind, hnames, hkeys, hwords]
  | parameterValue hkind hparameter hkeys _ _ =>
    have htaken : next.keys = (words.drop 1).map Token.text := by
      rw [hkeys, hwords, List.map_drop, List.drop_one]
    rw [htaken]
    rcases hkind with hkind | hkind <;> simp [Waiting.parameters, hkind, hparameter]
  | declarationWord hkind hkeys _ _ =>
    rw [hkeys, hwords]
    rcases hkind with hkind | ⟨hkind | hkind, hdeclaration⟩
    · simp [Waiting.parameters, hkind]
    · simp [Waiting.parameters, hkind]
    · have hnames := Situation.namesParameter_eq_false hdeclaration
      simp [Waiting.parameters, hkind, hnames]
  | declarationValue hkind hdeclaration hkeys _ _ _ _ =>
    have hparameter := Situation.inParameter_eq_false hdeclaration
    rw [hkeys, hwords]
    rcases hkind with hkind | hkind <;> simp [Waiting.parameters, hkind, hparameter]

/-- Words that every token adds to and takes from as the situation says can be followed along the
tokens. -/
theorem words_of_run {waiting : Waiting} {stack : Builder → List String} (hempty : stack {} = [])
    (hstep : ∀ {builder next : Builder} {token : Token} {words : List Token},
      builder.Noted token.kind token.text next → stack builder = words.map Token.text →
      stack next = (waiting.next builder.situation words token).map Token.text)
    {tokens : List Token} (hrun : Builder.run {} tokens = .ok builder) :
    stack builder = (waiting.after {} [] tokens).map Token.text := by
  refine run_induction (motive := fun tokens builder =>
    stack builder = (waiting.after {} [] tokens).map Token.text) hempty ?_ hrun
  intro before middle next token hbefore hwords haccept
  have hnext := hstep (noted_accept haccept) hwords
  rw [(tracked_of_run hbefore).2] at hnext
  rw [hnext, Waiting.after_append]
  rfl

/-- The words that the builder keeps for declarations are those that wait for their values. -/
theorem declared_of_run {tokens : List Token} (hrun : Builder.run {} tokens = .ok builder) :
    builder.declared = (Waiting.declarations.after {} [] tokens).map Token.text :=
  words_of_run rfl Noted.declared_eq hrun

/-- The names that the builder keeps for parameters are those that wait for their values. -/
theorem keys_of_run {tokens : List Token} (hrun : Builder.run {} tokens = .ok builder) :
    builder.keys = (Waiting.parameters.after {} [] tokens).map Token.text :=
  words_of_run rfl Noted.keys_eq hrun

end Builder

end PageMarkup.Document
