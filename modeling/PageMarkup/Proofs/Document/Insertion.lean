import PageMarkup.Proofs.Document.Denotation
import PageMarkup.Proofs.Document.Effect
import PageMarkup.Proofs.Document.Runs

/-!
# Declarations can be inserted anywhere

While tokens are read, what declarations have recorded is written and never asked for. Two builders
that differ in one of the two tables alone therefore take the same steps, and fail at the same token
for the same reason. A complete declaration takes back all that it opens, so it can be put between
any two tokens: into a block, between the name of a parameter and its value, or inside another
declaration. It changes nothing but the table of its directive. Only behind a dot it would do more,
since the dot would be forgotten.
-/

namespace PageMarkup.Document

/-- The configurations, unless the directive writes them. -/
def Directive.otherConfigurations (directive : Directive) (table : Table String) : Table String :=
  if directive = .configure then ∅ else table

/-- The references, unless the directive writes them. -/
def Directive.otherReferences (directive : Directive) (table : Table (List String)) :
    Table (List String) :=
  if directive = .reference then ∅ else table

/-- The document without the table that the directive writes. -/
def without (directive : Directive) (document : Document) : Document :=
  { document with
    configurations := directive.otherConfigurations document.configurations
    references := directive.otherReferences document.references }

namespace Builder

variable {builder : Builder}

/-- The builder without the table that the directive writes. -/
def without (directive : Directive) (builder : Builder) : Builder :=
  { builder with
    configurations := directive.otherConfigurations builder.configurations
    references := directive.otherReferences builder.references }

/-- A table that is left out once is left out for good. -/
theorem without_without (directive : Directive) (builder : Builder) :
    (builder.without directive).without directive = builder.without directive := by
  cases directive <;> rfl

variable (directive : Directive)

/-- A step that does not look at the tables may do so after leaving one out. -/
theorem map_without_eq {first second : Except Fault Builder}
    (h : first = second.map (without directive)) :
    first.map (without directive) = second.map (without directive) := by
  subst h
  cases second with
  | error fault => rfl
  | ok next => exact congrArg Except.ok (next.without_without directive)

/-- A change of the current component does not look at the tables. -/
theorem attach_without (builder : Builder) (what : Attachment)
    (change : Component → List Node → Node) :
    (builder.without directive).attach what change =
      (builder.attach what change).map (without directive) := by
  simp only [attach, without]
  cases builder.current with
  | none => rfl
  | some path =>
    dsimp only
    cases Node.modifyAt? change builder.body path with
    | none => rfl
    | some body => rfl

/-- Beginning a component does not look at the tables. -/
theorem beginComponent_without (builder : Builder) (name : String) :
    (builder.without directive).beginComponent name =
      (builder.beginComponent name).map (without directive) := by
  simp only [beginComponent, without]
  cases builder.blocks with
  | nil => rfl
  | cons path rest =>
    dsimp only
    cases Node.at? builder.body path with
    | none => rfl
    | some found =>
      generalize Node.modifyAt? _ builder.body path = changed
      cases changed with
      | none => rfl
      | some body => rfl

/-- Reading a word with a capital does not look at the tables. -/
theorem readKeyword_without (builder : Builder) (text : String) :
    (builder.without directive).readKeyword text =
      (builder.readKeyword text).map (without directive) := by
  rw [readKeyword, readKeyword, beginComponent_without]
  change (if builder.contexts.head? = some .declaration then _ else _) = _
  split
  · rfl
  · rfl

/-- Reading a word without a capital does not look at the tables. -/
theorem readIdentifier_without (builder : Builder) (text : String) :
    (builder.without directive).readIdentifier text =
      (builder.readIdentifier text).map (without directive) := by
  have hsituation : (builder.without directive).situation = builder.situation := rfl
  rw [readIdentifier_eq, readIdentifier_eq, hsituation, attach_without]
  cases builder.situation.inDeclaration with
  | true => rfl
  | false =>
    cases builder.situation.namesClass with
    | true =>
      generalize builder.attach _ _ = attached
      cases attached with
      | error fault => rfl
      | ok changed => rfl
    | false => cases builder.situation.namesParameter <;> rfl

/-- Recording a value looks at no other table than the one that it writes. -/
theorem record_without (builder : Builder) (declared : Declared) (value : String) :
    ((builder.without directive).record declared value).without directive =
      (builder.record declared value).without directive := by
  unfold record
  cases declared.directive with
  | configure => cases directive <;> rfl
  | reference => cases directive <;> rfl
  | unknown topic => cases directive <;> rfl

/-- Whether the value of a declaration is refused does not depend on the tables. -/
theorem declare_without (builder : Builder) (value : String) :
    ((builder.without directive).declare value).map (without directive) =
      (builder.declare value).map (without directive) := by
  have hdeclaration : (builder.without directive).declaration? = builder.declaration? := rfl
  rw [declare, declare, hdeclaration]
  cases builder.declaration? with
  | none => rfl
  | some found =>
    obtain ⟨declared, rest⟩ := found
    have hrecord := builder.record_without directive declared value
    exact congrArg (fun recorded => Except.ok { recorded with
      declared := rest
      colons := builder.colons - 1
      contexts := builder.contexts.tail }) hrecord

/-- Giving the current component a parameter does not look at the tables. -/
theorem setParameter_without (builder : Builder) (key value : String) :
    (builder.without directive).setParameter key value =
      (builder.setParameter key value).map (without directive) := by
  rw [setParameter, setParameter, attach_without]
  generalize builder.attach _ _ = attached
  cases attached with
  | error fault => rfl
  | ok changed => rfl

/-- Adding a text does not look at the tables. -/
theorem addLiteral_without (builder : Builder) (text : String) :
    (builder.without directive).addLiteral text =
      (builder.addLiteral text).map (without directive) := by
  have hlist : (builder.without directive).inList = builder.inList := rfl
  rw [addLiteral, addLiteral, append, append, attach_without, hlist]
  generalize builder.attach _ _ = attached
  cases attached with
  | error fault => rfl
  | ok changed =>
    change (if 0 < changed.colons then _ else _) =
      Except.map _ (if 0 < changed.colons then _ else _)
    split
    · rfl
    · rfl

/-- A value is read for the same whatever the tables hold. -/
theorem readValue_without (builder : Builder) (text : String) :
    ((builder.without directive).readValue text).map (without directive) =
      (builder.readValue text).map (without directive) := by
  have hcontexts : (builder.without directive).contexts = builder.contexts := rfl
  have hkeys : (builder.without directive).keys = builder.keys := rfl
  have hrounds : (builder.without directive).rounds = builder.rounds := rfl
  rw [readValue, readValue, hcontexts, hkeys, hrounds]
  have hliteral := map_without_eq directive (builder.addLiteral_without directive text)
  cases builder.contexts.head? with
  | none => exact hliteral
  | some context =>
    cases context with
    | declaration => exact builder.declare_without directive text
    | component =>
      cases builder.keys with
      | nil => exact hliteral
      | cons key rest =>
        dsimp only
        split
        · exact map_without_eq directive (builder.setParameter_without directive key text)
        · exact hliteral

/-- Reading a decorator does not look at the tables. -/
theorem readDecorator_without (builder : Builder) (text : String) :
    (builder.without directive).readDecorator text =
      (builder.readDecorator text).map (without directive) := by
  unfold readDecorator
  cases decoration? text with
  | none => rfl
  | some node => exact builder.attach_without directive _ _

/-- Reading a token that has no dot to forget does not look at the tables. -/
theorem dispatch_without (builder : Builder) (kind : TokenKind) (text : String) :
    ((builder.without directive).dispatch text kind).map (without directive) =
      (builder.dispatch text kind).map (without directive) := by
  cases kind with
  | keyword => exact map_without_eq directive (builder.readKeyword_without directive text)
  | identifier => exact map_without_eq directive (builder.readIdentifier_without directive text)
  | string | constant => exact builder.readValue_without directive text
  | decorator => exact map_without_eq directive (builder.readDecorator_without directive text)
  | squareOpen =>
    refine map_without_eq directive ?_
    simp only [dispatch, openBlock, without]
    cases builder.current with
    | none => rfl
    | some path => rfl
  | declaration | squareClose | roundOpen | roundClose | colon | dot | comma | integer =>
    exact map_without_eq directive rfl

/-- Reading a token does not look at the tables. -/
theorem accept_without (builder : Builder) (kind : TokenKind) (text : String) :
    ((builder.without directive).accept kind text).map (without directive) =
      (builder.accept kind text).map (without directive) := by
  have hsettle : (builder.without directive).settle kind =
      (builder.settle kind).without directive := by
    unfold settle
    split
    · rfl
    · rfl
  rw [accept, accept, hsettle]
  exact (builder.settle kind).dispatch_without directive kind text

/-- Tokens are read alike by builders that differ at most in the table of a directive. -/
theorem run_without {first second : Builder}
    (h : first.without directive = second.without directive) (tokens : List Token) :
    (first.run tokens).map (without directive) = (second.run tokens).map (without directive) := by
  induction tokens generalizing first second with
  | nil => exact congrArg Except.ok h
  | cons token rest ih =>
    have haccept : (first.accept token.kind token.text).map (without directive) =
        (second.accept token.kind token.text).map (without directive) := by
      rw [← accept_without, h, accept_without]
    rw [run_cons, run_cons, read, read]
    cases hfirst : first.accept token.kind token.text with
    | error fault =>
      cases hsecond : second.accept token.kind token.text with
      | error other =>
        rw [hfirst, hsecond] at haccept
        cases haccept
        rfl
      | ok next =>
        rw [hfirst, hsecond] at haccept
        cases haccept
    | ok next =>
      cases hsecond : second.accept token.kind token.text with
      | error other =>
        rw [hfirst, hsecond] at haccept
        cases haccept
      | ok other =>
        rw [hfirst, hsecond] at haccept
        exact ih (Except.ok.inj haccept)

/-- What a declaration records is in the table of its directive. -/
theorem record_own (builder : Builder) (declared : Declared) (value : String) :
    (builder.record declared value).without declared.directive =
      builder.without declared.directive := by
  obtain ⟨directive, key⟩ := declared
  cases directive <;> rfl

/-- A reference that is there already is recorded without effect. -/
theorem record_repeated {key value : String}
    (h : value ∈ (builder.references.get? key).getD []) :
    builder.record ⟨.reference, key⟩ value = builder := by
  cases hvalues : builder.references.get? key with
  | none =>
    rw [hvalues] at h
    cases h
  | some values =>
    rw [hvalues] at h
    have hsame : builder.references.insert key values = builder.references :=
      Table.insert_eq_self hvalues
    simp only [record, hvalues, Option.getD_some, if_pos (show value ∈ values from h), hsame]

end Builder

section

variable {before : List Token} {builder : Builder}

/-- The builder after a declaration has recorded its value. -/
def Builder.afterDeclaration (builder : Builder) (declared : Grammar.Declaration) : Builder :=
  builder.record ⟨.ofTopic declared.topic.val.text, declared.key.val.text⟩ declared.value.val.text

/-- After a declaration the tokens go on as if only its value had been recorded. -/
theorem run_insert (hbefore : Builder.run {} before = .ok builder)
    (hdot : endsInDot before = false) (declared : Grammar.Declaration) (after : List Token) :
    Builder.run {} (before ++ declared.tokens ++ after) =
      (builder.afterDeclaration declared).run after := by
  have hforgot : { builder with dotted := false } = builder := by
    rw [← Builder.dotted_eq_false hbefore hdot]
  have hrecorded : builder.afterDeclaration declared = builder.recorded [declared.filing] :=
    builder.record_eq_recorded declared.filing
  rw [List.append_assoc, Builder.run_append, hbefore, hrecorded]
  exact (builder.run_declaration declared after).trans (by rw [hforgot])

/-- What is refused among the first tokens is refused whatever follows. -/
theorem ofTokens_append_of_error {fault : Located Fault}
    (hbefore : Builder.run {} before = .error fault) (after : List Token) :
    ofTokens (before ++ after) = .error fault := by
  rw [ofTokens, Builder.run_append, hbefore]
  rfl

/-- A table can be left out before or after the tokens have become a document. -/
theorem map_document_without (directive : Directive) (result : Except (Located Fault) Builder) :
    (result.map Builder.document).map (without directive) =
      (result.map (Builder.without directive)).map Builder.document := by
  cases result with
  | error fault => rfl
  | ok builder => rfl

/-- A declaration changes nothing but the table of its directive. -/
theorem ofTokens_insert (hdot : endsInDot before = false) (declared : Grammar.Declaration)
    (after : List Token) :
    (ofTokens (before ++ declared.tokens ++ after)).map
        (without (.ofTopic declared.topic.val.text)) =
      (ofTokens (before ++ after)).map (without (.ofTopic declared.topic.val.text)) := by
  cases hbefore : Builder.run {} before with
  | error fault =>
    rw [List.append_assoc, ofTokens_append_of_error hbefore, ofTokens_append_of_error hbefore]
  | ok builder =>
    have hsame := Builder.run_without (.ofTopic declared.topic.val.text)
      (builder.record_own ⟨.ofTopic declared.topic.val.text, declared.key.val.text⟩
        declared.value.val.text) after
    rw [ofTokens, ofTokens, run_insert hbefore hdot, Builder.run_append, hbefore,
      map_document_without, map_document_without]
    exact congrArg (Except.map Builder.document) hsame

/-- A declaration that records nothing new changes nothing. -/
theorem ofTokens_insert_of_same (hdot : endsInDot before = false)
    (declared : Grammar.Declaration) (after : List Token)
    (hsame : ∀ builder, Builder.run {} before = .ok builder →
      builder.afterDeclaration declared = builder) :
    ofTokens (before ++ declared.tokens ++ after) = ofTokens (before ++ after) := by
  cases hbefore : Builder.run {} before with
  | error fault =>
    rw [List.append_assoc, ofTokens_append_of_error hbefore, ofTokens_append_of_error hbefore]
  | ok builder =>
    rw [ofTokens, ofTokens, run_insert hbefore hdot, hsame builder hbefore, Builder.run_append,
      hbefore]
    rfl

end

end PageMarkup.Document
