import PageMarkup.Proofs.Document.Origin
import PageMarkup.Proofs.Document.Words

/-!
# Which words a declaration takes

A declaration has a topic, a key and a value. The value takes the two words of declarations that
have waited least, and the builder does not ask whether they belong to the declaration that the
value ends. For a declaration with one key they do, whatever came before it, also if other such
declarations stand inside it. A declaration with more keys takes its last two, and one without a key
takes what an earlier one has left, so it is refused where nothing waits.
-/

namespace PageMarkup.Document

/-- Whether a token is a word. -/
def IsWord (token : Token) : Prop := token.kind = .keyword ∨ token.kind = .identifier

namespace Situation

variable {situation : Situation} {token : Token}

/-- A topic opens a declaration and waits. -/
theorem next_topic (situation : Situation) (words : List Token)
    (htopic : token.kind = .declaration) :
    (situation.next token.kind).contexts = .declaration :: situation.contexts ∧
      Waiting.declarations.next situation words token = token :: words := by
  simp [Waiting.next, Waiting.declarations, next, htopic]

/-- A word in a declaration opens nothing and waits. -/
theorem next_word (words : List Token) (hword : IsWord token)
    (hdeclaration : situation.inDeclaration = true) :
    (situation.next token.kind).contexts = situation.contexts ∧
      Waiting.declarations.next situation words token = token :: words := by
  rcases hword with hkind | hkind <;>
    simp [Waiting.next, Waiting.declarations, next, hkind, hdeclaration]

/-- A value closes the declaration that it ends and takes two words. -/
theorem next_value (words : List Token) (hvalue : IsValue token)
    (hdeclaration : situation.inDeclaration = true) :
    (situation.next token.kind).contexts = situation.contexts.tail ∧
      Waiting.declarations.next situation words token = words.drop 2 := by
  rcases hvalue with hkind | hkind <;>
    simp [Waiting.next, Waiting.declarations, next, hkind, hdeclaration]

/-- Whether a token of the given kind is neither a word nor a value and opens and closes no
construct. -/
def passes : TokenKind → Bool
  | .decorator | .integer | .squareOpen | .roundOpen | .roundClose | .colon | .comma | .dot => true
  | .keyword | .identifier | .string | .constant | .declaration | .squareClose => false

/-- Such a token changes neither the constructs nor the words that wait. -/
theorem next_of_passes (situation : Situation) (words : List Token)
    (h : passes token.kind = true) :
    (situation.next token.kind).contexts = situation.contexts ∧
      Waiting.declarations.next situation words token = words := by
  unfold Waiting.next
  cases hkind : token.kind with
  | decorator | integer | squareOpen | roundOpen | roundClose | colon | comma | dot =>
    exact ⟨rfl, rfl⟩
  | keyword | identifier | string | constant | declaration | squareClose =>
    rw [hkind] at h
    cases h

end Situation

/-- The words of declarations that wait after the tokens of a document, the latest first. -/
def waitingWords (tokens : List Token) : List Token := Waiting.declarations.after {} [] tokens

/-- What waits for the value of a declaration is a word or a topic. -/
theorem exists_of_mem_waitingWords {tokens : List Token} {word : Token}
    (h : word ∈ waitingWords tokens) :
    word ∈ tokens ∧ (IsWord word ∨ word.kind = .declaration) := by
  obtain ⟨before, rest, rfl, hwaits⟩ :=
    (Waiting.exists_of_mem_after h).resolve_left List.not_mem_nil
  refine ⟨List.mem_append_right _ List.mem_cons_self, ?_⟩
  cases hkind : word.kind with
  | declaration => exact .inr rfl
  | keyword => exact .inl (.inl hkind)
  | identifier => exact .inl (.inr hkind)
  | string | constant | decorator | integer | squareOpen | squareClose | roundOpen | roundClose
  | colon | comma | dot =>
    rw [hkind] at hwaits
    cases hwaits

/-- What may stand between the topic and the value of a declaration, with the words that are read
for it, the latest first. Declarations that stand inside it have one key each. -/
inductive InDeclaration : List Token → List Token → Prop
  | nil : InDeclaration [] []
  | word {tokens words : List Token} {token : Token} (h : InDeclaration tokens words)
    (hword : IsWord token) : InDeclaration (tokens ++ [token]) (token :: words)
  | other {tokens words : List Token} {token : Token} (h : InDeclaration tokens words)
    (hpasses : Situation.passes token.kind = true) : InDeclaration (tokens ++ [token]) words
  | inner {tokens words between : List Token} {topic key value : Token}
    (h : InDeclaration tokens words) (htopic : topic.kind = .declaration)
    (hbetween : InDeclaration between [key]) (hvalue : IsValue value) :
    InDeclaration (tokens ++ (topic :: between ++ [value])) words

namespace InDeclaration

variable {tokens words : List Token}

/-- The words of a declaration are words. -/
theorem isWord (h : InDeclaration tokens words) : ∀ word ∈ words, IsWord word := by
  induction h with
  | nil => exact List.forall_mem_nil _
  | word _ hword ih => exact List.forall_mem_cons.mpr ⟨hword, ih⟩
  | other _ _ ih => exact ih
  | inner _ _ _ _ ih _ => exact ih

/-- Inside a declaration its words begin to wait, those that waited before keep waiting, and the
declaration stays open. -/
theorem after_eq (h : InDeclaration tokens words) {situation : Situation}
    (hdeclaration : situation.inDeclaration = true) (waiting : List Token) :
    Waiting.declarations.after situation waiting tokens = words ++ waiting ∧
      (situation.after tokens).contexts = situation.contexts := by
  induction h generalizing situation waiting with
  | nil => exact ⟨rfl, rfl⟩
  | @word tokens words token _ hword ih =>
    obtain ⟨hwaiting, hcontexts⟩ := ih hdeclaration waiting
    have hopen : (situation.after tokens).inDeclaration = true := by
      rw [Situation.inDeclaration, hcontexts]
      exact hdeclaration
    obtain ⟨hstays, hadded⟩ := Situation.next_word (words ++ waiting) hword hopen
    rw [Waiting.after_append, Situation.after_append, hwaiting]
    exact ⟨hadded, hstays.trans hcontexts⟩
  | @other tokens words token _ hpasses ih =>
    obtain ⟨hwaiting, hcontexts⟩ := ih hdeclaration waiting
    obtain ⟨hstays, hkept⟩ :=
      Situation.next_of_passes (situation.after tokens) (words ++ waiting) hpasses
    rw [Waiting.after_append, Situation.after_append, hwaiting]
    exact ⟨hkept, hstays.trans hcontexts⟩
  | @inner tokens words between topic key value _ htopic _ hvalue ih ihInner =>
    obtain ⟨hwaiting, hcontexts⟩ := ih hdeclaration waiting
    rw [Waiting.after_append, Situation.after_append, hwaiting]
    generalize situation.after tokens = outer at hcontexts ⊢
    -- The inner declaration takes from what waits just what it has added.
    obtain ⟨hopened, hadded⟩ := Situation.next_topic outer (words ++ waiting) htopic
    have hinside : (outer.next topic.kind).inDeclaration = true := by
      simp [Situation.inDeclaration, hopened]
    obtain ⟨hkey, hstays⟩ := ihInner hinside (topic :: (words ++ waiting))
    have hend : ((outer.next topic.kind).after between).inDeclaration = true := by
      simp [Situation.inDeclaration, hstays, hopened]
    have hwords : Waiting.declarations.after outer (words ++ waiting) (topic :: between) =
        key :: topic :: (words ++ waiting) := by
      rw [Waiting.after, hadded, hkey]
      rfl
    obtain ⟨hclosed, htaken⟩ :=
      Situation.next_value (key :: topic :: (words ++ waiting)) hvalue hend
    rw [Waiting.after_append, Situation.after_append, hwords]
    refine ⟨htaken, ?_⟩
    calc ((outer.after (topic :: between)).next value.kind).contexts
        = ((outer.next topic.kind).after between).contexts.tail := hclosed
      _ = situation.contexts := by rw [hstays, hopened, List.tail_cons, hcontexts]

/-- From its topic on, a declaration has its words and its topic wait before all others. -/
theorem waitingWords_eq (h : InDeclaration tokens words) {topic : Token}
    (htopic : topic.kind = .declaration) (first : List Token) :
    waitingWords (first ++ topic :: tokens) = words ++ topic :: waitingWords first ∧
      (Situation.after {} (first ++ topic :: tokens)).inDeclaration = true := by
  obtain ⟨hopened, hadded⟩ :=
    Situation.next_topic (Situation.after {} first) (waitingWords first) htopic
  have hinside : ((Situation.after {} first).next topic.kind).inDeclaration = true := by
    simp [Situation.inDeclaration, hopened]
  obtain ⟨hwords, hstays⟩ := h.after_eq hinside (topic :: waitingWords first)
  constructor
  · calc waitingWords (first ++ topic :: tokens)
        = Waiting.declarations.after ((Situation.after {} first).next topic.kind)
            (Waiting.declarations.next (Situation.after {} first) (waitingWords first) topic)
            tokens := Waiting.after_append first (topic :: tokens)
      _ = words ++ topic :: waitingWords first := by rw [hadded, hwords]
  · have hcontexts : (Situation.after {} (first ++ topic :: tokens)).contexts =
        ((Situation.after {} first).next topic.kind).contexts := by
      rw [Situation.after_append]
      exact hstays
    rw [Situation.inDeclaration, hcontexts]
    exact hinside

end InDeclaration

namespace Builder

variable {builder next final : Builder} {waiting : List Token} {token : Token}

/-- A value in a declaration is recorded under the two words that have waited least. -/
theorem Noted.filed (h : builder.Noted token.kind token.text next)
    (hwaiting : builder.declared = waiting.map Token.text) (hvalue : IsValue token)
    (hdeclaration : builder.situation.inDeclaration = true) :
    ∃ topic key rest, waiting = key :: topic :: rest ∧
      builder.Filed topic.text key.text token.text next := by
  cases h with
  | declarationValue _ _ _ hdeclared _ _ hfiled =>
    rw [hwaiting, List.map_eq_cons_iff] at hdeclared
    obtain ⟨key, others, rfl, rfl, hothers⟩ := hdeclared
    obtain ⟨topic, rest, rfl, rfl, -⟩ := List.map_eq_cons_iff.mp hothers
    exact ⟨topic, key, rest, rfl, hfiled⟩
  | nothing hnotes _ _ _ =>
    rcases hvalue with hkind | hkind <;> simp [Situation.notes, hkind, hdeclaration] at hnotes
  | parameterName hkind _ _ _ _ => simp [IsValue, hkind] at hvalue
  | parameterValue _ hparameter _ _ _ =>
    rw [Situation.inDeclaration_eq_false (of_decide_eq_true hparameter).1] at hdeclaration
    cases hdeclaration
  | declarationWord hkind _ _ _ =>
    rcases hkind with hkind | ⟨hkind | hkind, -⟩ <;> simp [IsValue, hkind] at hvalue

/-- All other tokens leave alone what is recorded. -/
theorem Noted.sameRecords (h : builder.Noted token.kind token.text next)
    (hother : ¬(IsValue token ∧ builder.situation.inDeclaration = true)) :
    builder.SameRecords next := by
  cases h with
  | nothing _ _ _ hrecords => exact hrecords
  | parameterName _ _ _ _ hrecords => exact hrecords
  | parameterValue _ _ _ _ hrecords => exact hrecords
  | declarationWord _ _ _ hrecords => exact hrecords
  | declarationValue hkind hdeclaration _ _ _ _ _ => exact absurd ⟨hkind, hdeclaration⟩ hother

/-- Recording a value adds no key but that of the declaration. -/
theorem Filed.key_cases {topic key value other : String} (h : builder.Filed topic key value next)
    (hother : other ∈ next.configurations.keys ∨ other ∈ next.references.keys) :
    (other ∈ builder.configurations.keys ∨ other ∈ builder.references.keys) ∨ other = key := by
  unfold Filed at h
  cases hdirective : Directive.ofTopic topic with
  | configure =>
    simp only [hdirective] at h
    rw [h.1, h.2] at hother
    rcases hother with hconfigured | hreferred
    · exact (Table.mem_keys_insert hconfigured).imp_left .inl
    · exact .inl (.inr hreferred)
  | reference =>
    simp only [hdirective] at h
    obtain ⟨hconfigurations, values, -, hreferences⟩ := h
    rw [hconfigurations, hreferences] at hother
    rcases hother with hconfigured | hreferred
    · exact .inl (.inl hconfigured)
    · exact (Table.mem_keys_insert hreferred).imp_left .inr
  | unknown lowered =>
    simp only [hdirective] at h
    rw [h.1, h.2] at hother
    exact .inl hother

/-- A value in a declaration is refused if fewer than two words wait, or one of the latest two is
empty. -/
theorem accept_incomplete (hwaiting : builder.declared = waiting.map Token.text)
    (hvalue : IsValue token) (hdeclaration : builder.situation.inDeclaration = true)
    (hlacks : ∀ key topic rest, waiting = key :: topic :: rest → key.text = "" ∨ topic.text = "") :
    builder.accept token.kind token.text = .error .incompleteDeclaration := by
  have hnone : declaration? { builder with dotted := false } = none := by
    unfold declaration?
    simp only [hwaiting]
    rcases waiting with _ | ⟨key, _ | ⟨topic, rest⟩⟩
    · rfl
    · rfl
    · exact if_pos (hlacks key topic rest rfl)
  have hinside : (situation { builder with dotted := false }).inDeclaration = true := hdeclaration
  have hread : readValue { builder with dotted := false } token.text =
      declare { builder with dotted := false } token.text := by
    rcases readValue_cases { builder with dotted := false } token.text with
      ⟨-, heq⟩ | ⟨houtside, -⟩ | ⟨houtside, -⟩
    · exact heq
    · cases hinside.symm.trans houtside
    · cases hinside.symm.trans houtside
  rcases hvalue with hkind | hkind <;>
    simp [accept, settle, dispatch, hkind, hread, declare, hnone]

/-- Where a token is refused, so are the tokens. -/
theorem ofTokens_of_accept_error {before after : List Token} {fault : Fault}
    (hbefore : Builder.run {} before = .ok builder)
    (haccept : builder.accept token.kind token.text = .error fault) :
    ofTokens (before ++ token :: after) = .error ⟨fault, token.position⟩ := by
  have hread : builder.read token = .error ⟨fault, token.position⟩ := by
    rw [read, haccept]
    rfl
  have hrun : Builder.run {} (before ++ token :: after) = .error ⟨fault, token.position⟩ := by
    rw [run_append, hbefore]
    exact (run_cons builder token after).trans (by rw [hread]; rfl)
  rw [ofTokens, hrun]
  rfl

end Builder

/-- After the given tokens, a value is recorded under a topic and a key. -/
def Recorded (before : List Token) (value : Token) (topic key : String) : Prop :=
  ∃ builder next, Builder.run {} before = .ok builder ∧ builder.read value = .ok next ∧
    builder.Filed topic key value.text next

/-- Every value in a declaration ends one that has one key. -/
def OneKeyEach (tokens : List Token) : Prop :=
  ∀ before value after, tokens = before ++ value :: after → IsValue value →
    (Situation.after {} before).inDeclaration = true →
    ∃ first topic between key, before = first ++ topic :: between ∧ topic.kind = .declaration ∧
      InDeclaration between [key]

/-- What the declarations among the tokens of a document have recorded in it. -/
structure DeclarationsRecorded (tokens : List Token) (document : Document) : Prop where
  /-- A value in a declaration is recorded under the two words that have waited least. -/
  values : ∀ before value after, tokens = before ++ value :: after → IsValue value →
    (Situation.after {} before).inDeclaration = true →
    ∃ topic key rest, waitingWords before = key :: topic :: rest ∧
      Recorded before value topic.text key.text
  /-- No other token changes what is recorded. -/
  others : ∀ before token after, tokens = before ++ token :: after →
    ¬(IsValue token ∧ (Situation.after {} before).inDeclaration = true) →
    ∃ builder next, Builder.run {} before = .ok builder ∧ builder.read token = .ok next ∧
      builder.SameRecords next
  /-- A declaration takes its own words first, then its topic, then what has waited before it. -/
  taken : ∀ first topic between words value after,
    tokens = first ++ topic :: between ++ value :: after → topic.kind = .declaration →
    InDeclaration between words → IsValue value →
    ∃ second key rest, words ++ topic :: waitingWords first = key :: second :: rest ∧
      Recorded (first ++ topic :: between) value second.text key.text
  /-- A declaration with one key has its value recorded under its topic and this key, whatever
  came before it. -/
  own : ∀ first topic between key value after,
    tokens = first ++ topic :: between ++ value :: after → topic.kind = .declaration →
    InDeclaration between [key] → IsValue value →
    IsWord key ∧ Recorded (first ++ topic :: between) value topic.text key.text
  /-- Every key is the text of a word or of a topic. -/
  keys : ∀ key, key ∈ document.configurations.keys ∨ key ∈ document.references.keys →
    ∃ word ∈ tokens, (IsWord word ∨ word.kind = .declaration) ∧ word.text = key
  /-- Every key is the text of a word, if all declarations have one key. -/
  ownKeys : OneKeyEach tokens →
    ∀ key, key ∈ document.configurations.keys ∨ key ∈ document.references.keys →
      ∃ word ∈ tokens, IsWord word ∧ word.text = key

/-- In a document every value in a declaration is recorded under the two words that have waited
least. -/
theorem recorded_of_value {before after : List Token} {value : Token} {final : Builder}
    (hrun : Builder.run {} (before ++ value :: after) = .ok final) (hvalue : IsValue value)
    (hdeclaration : (Situation.after {} before).inDeclaration = true) :
    ∃ topic key rest, waitingWords before = key :: topic :: rest ∧
      Recorded before value topic.text key.text := by
  obtain ⟨builder, next, hbefore, hread, -⟩ := Builder.exists_of_run_append hrun
  rw [← (Builder.tracked_of_run hbefore).2] at hdeclaration
  obtain ⟨topic, key, rest, hwaiting, hfiled⟩ :=
    (Builder.noted_accept (Builder.accept_of_read hread)).filed (Builder.declared_of_run hbefore)
      hvalue hdeclaration
  exact ⟨topic, key, rest, hwaiting, builder, next, hbefore, hread, hfiled⟩

section

variable {first between after : List Token} {topic value : Token} {final : Builder}

/-- A declaration takes its own words first, then its topic, then what has waited before it. -/
theorem recorded_of_declaration {words : List Token}
    (hrun : Builder.run {} (first ++ topic :: between ++ value :: after) = .ok final)
    (htopic : topic.kind = .declaration) (hbetween : InDeclaration between words)
    (hvalue : IsValue value) :
    ∃ second key rest, words ++ topic :: waitingWords first = key :: second :: rest ∧
      Recorded (first ++ topic :: between) value second.text key.text := by
  obtain ⟨hwords, hdeclaration⟩ := hbetween.waitingWords_eq htopic first
  obtain ⟨second, key, rest, hwaiting, hrecorded⟩ := recorded_of_value hrun hvalue hdeclaration
  exact ⟨second, key, rest, hwords.symm.trans hwaiting, hrecorded⟩

/-- A declaration with one key has its value recorded under its topic and this key. -/
theorem recorded_of_one_key {key : Token}
    (hrun : Builder.run {} (first ++ topic :: between ++ value :: after) = .ok final)
    (htopic : topic.kind = .declaration) (hbetween : InDeclaration between [key])
    (hvalue : IsValue value) :
    IsWord key ∧ Recorded (first ++ topic :: between) value topic.text key.text := by
  obtain ⟨second, latest, rest, hwords, hrecorded⟩ :=
    recorded_of_declaration hrun htopic hbetween hvalue
  obtain ⟨rfl, rfl, -⟩ : key = latest ∧ topic = second ∧ waitingWords first = rest := by
    simpa using hwords
  exact ⟨hbetween.isWord key (List.mem_singleton_self key), hrecorded⟩

end

/-- A key that is recorded in the end is that of some value in a declaration. -/
theorem exists_recorded_of_key {tokens : List Token} {final : Builder} {key : String}
    (hrun : Builder.run {} tokens = .ok final)
    (hkey : key ∈ final.configurations.keys ∨ key ∈ final.references.keys) :
    ∃ before value after, tokens = before ++ value :: after ∧ IsValue value ∧
      (Situation.after {} before).inDeclaration = true ∧
      ∀ topic name, Recorded before value topic name → key = name := by
  have hnot : ¬(key ∈ ({} : Builder).configurations.keys ∨
      key ∈ ({} : Builder).references.keys) := by
    rintro (hempty | hempty) <;> cases hempty
  obtain ⟨before, value, after, builder, next, rfl, hbefore, hread, -, hnew, hholds, -⟩ :=
    Builder.exists_turn
      (p := fun builder => key ∈ builder.configurations.keys ∨ key ∈ builder.references.keys)
      hrun hnot hkey
  have hnoted := Builder.noted_accept (Builder.accept_of_read hread)
  by_cases hends : IsValue value ∧ builder.situation.inDeclaration = true
  · refine ⟨before, value, after, rfl, hends.1, ?_, ?_⟩
    · rw [← (Builder.tracked_of_run hbefore).2]
      exact hends.2
    · rintro topic name ⟨builder', next', hbefore', hread', hfiled⟩
      cases hbefore.symm.trans hbefore'
      cases hread.symm.trans hread'
      exact (hfiled.key_cases hholds).resolve_left hnew
  · have hrecords := hnoted.sameRecords hends
    rw [hrecords.configurations, hrecords.references] at hholds
    exact absurd hholds hnew

/-- Every key is the text of a word or of a topic. -/
theorem exists_word_of_key {tokens : List Token} {final : Builder} {key : String}
    (hrun : Builder.run {} tokens = .ok final)
    (hkey : key ∈ final.configurations.keys ∨ key ∈ final.references.keys) :
    ∃ word ∈ tokens, (IsWord word ∨ word.kind = .declaration) ∧ word.text = key := by
  obtain ⟨before, value, after, rfl, hvalue, hdeclaration, hunique⟩ :=
    exists_recorded_of_key hrun hkey
  obtain ⟨topic, word, rest, hwaiting, hrecorded⟩ := recorded_of_value hrun hvalue hdeclaration
  have hwaits : word ∈ waitingWords before := by simp [hwaiting]
  obtain ⟨hmem, hword⟩ := exists_of_mem_waitingWords hwaits
  exact ⟨word, List.mem_append_left _ hmem, hword, (hunique _ _ hrecorded).symm⟩

/-- Every key is the text of a word, if all declarations have one key. -/
theorem exists_own_word_of_key {tokens : List Token} {final : Builder} {key : String}
    (hrun : Builder.run {} tokens = .ok final) (hone : OneKeyEach tokens)
    (hkey : key ∈ final.configurations.keys ∨ key ∈ final.references.keys) :
    ∃ word ∈ tokens, IsWord word ∧ word.text = key := by
  obtain ⟨before, value, after, rfl, hvalue, hdeclaration, hunique⟩ :=
    exists_recorded_of_key hrun hkey
  obtain ⟨first, topic, between, word, rfl, htopic, hbetween⟩ :=
    hone before value after rfl hvalue hdeclaration
  obtain ⟨hword, hrecorded⟩ := recorded_of_one_key hrun htopic hbetween hvalue
  have hwaits : word ∈ waitingWords (first ++ topic :: between) := by
    simp [(hbetween.waitingWords_eq htopic first).1]
  obtain ⟨hmem, -⟩ := exists_of_mem_waitingWords hwaits
  exact ⟨word, List.mem_append_left _ hmem, hword, (hunique _ _ hrecorded).symm⟩

/-- A value in a declaration is refused where fewer than two words wait, or one of the latest two is
empty. -/
theorem ofTokens_incomplete {before after : List Token} {value : Token} {builder : Builder}
    (hbefore : Builder.run {} before = .ok builder) (hvalue : IsValue value)
    (hdeclaration : (Situation.after {} before).inDeclaration = true)
    (hlacks : ∀ key topic rest, waitingWords before = key :: topic :: rest →
      key.text = "" ∨ topic.text = "") :
    ofTokens (before ++ value :: after) = .error ⟨.incompleteDeclaration, value.position⟩ := by
  rw [← (Builder.tracked_of_run hbefore).2] at hdeclaration
  exact Builder.ofTokens_of_accept_error hbefore
    (Builder.accept_incomplete (Builder.declared_of_run hbefore) hvalue hdeclaration hlacks)

/-- What the declarations of a document record, and which of them are refused: those whose value
comes when fewer than two words wait or one of the latest two is empty, so all without a key unless
an earlier declaration has left a word. -/
theorem declarations_take_latest_words (tokens : List Token) :
    (∀ document, ofTokens tokens = .ok document → DeclarationsRecorded tokens document) ∧
    (∀ before value after builder, tokens = before ++ value :: after →
      Builder.run {} before = .ok builder → IsValue value →
      (Situation.after {} before).inDeclaration = true →
      (∀ key topic rest, waitingWords before = key :: topic :: rest →
        key.text = "" ∨ topic.text = "") →
      ofTokens tokens = .error ⟨.incompleteDeclaration, value.position⟩) ∧
    ∀ first topic between value after builder,
      tokens = first ++ topic :: between ++ value :: after →
      Builder.run {} (first ++ topic :: between) = .ok builder → topic.kind = .declaration →
      InDeclaration between [] → IsValue value → waitingWords first = [] →
      ofTokens tokens = .error ⟨.incompleteDeclaration, value.position⟩ := by
  refine ⟨?_, ?_, ?_⟩
  · intro document hdocument
    obtain ⟨final, hrun, rfl⟩ := exists_run_of_ofTokens hdocument
    refine { values := ?_, others := ?_, taken := ?_, own := ?_, keys := ?_, ownKeys := ?_ }
    · rintro before value after rfl hvalue hdeclaration
      exact recorded_of_value hrun hvalue hdeclaration
    · rintro before token after rfl hother
      obtain ⟨builder, next, hbefore, hread, -⟩ := Builder.exists_of_run_append hrun
      rw [← (Builder.tracked_of_run hbefore).2] at hother
      exact ⟨builder, next, hbefore, hread,
        (Builder.noted_accept (Builder.accept_of_read hread)).sameRecords hother⟩
    · rintro first topic between words value after rfl htopic hbetween hvalue
      exact recorded_of_declaration hrun htopic hbetween hvalue
    · rintro first topic between key value after rfl htopic hbetween hvalue
      exact recorded_of_one_key hrun htopic hbetween hvalue
    · exact fun key hkey => exists_word_of_key hrun hkey
    · exact fun hone key hkey => exists_own_word_of_key hrun hone hkey
  · rintro before value after builder rfl hbefore hvalue hdeclaration hlacks
    exact ofTokens_incomplete hbefore hvalue hdeclaration hlacks
  · rintro first topic between value after builder rfl hbefore htopic hbetween hvalue hnothing
    obtain ⟨hwords, hdeclaration⟩ := hbetween.waitingWords_eq htopic first
    refine ofTokens_incomplete hbefore hvalue hdeclaration ?_
    -- Only the topic waits.
    intro key other rest hwaiting
    rw [hwords, hnothing] at hwaiting
    cases hwaiting

/-- A declaration inside another one, each with one key. -/
def declarationInDeclaration : List Token :=
  [⟨.declaration, "Configure", .first⟩, ⟨.identifier, "a", .first⟩,
    ⟨.declaration, "Reference", .first⟩, ⟨.keyword, "B", .first⟩, ⟨.colon, ":", .first⟩,
    ⟨.string, "y", .first⟩, ⟨.string, "x", .first⟩]

/-- Of two declarations one inside the other, each gets its own value. -/
theorem recorded_of_declaration_in_declaration :
    ∃ document, ofTokens declarationInDeclaration = .ok document ∧
      document.configurations.get? "a" = some "x" ∧ document.references.get? "B" = some ["y"] ∧
      DeclarationsRecorded declarationInDeclaration document :=
  ⟨_, rfl, rfl, rfl, (declarations_take_latest_words _).1 _ rfl⟩

/-- A declaration without a key takes the topic that an earlier one has left: its own topic becomes
the key. -/
theorem declaration_without_key_takes_earlier_topic :
    ∃ document,
      ofTokens
        [⟨.declaration, "Reference", .first⟩, ⟨.declaration, "Configure", .first⟩,
          ⟨.colon, ":", .first⟩, ⟨.string, "x", .first⟩] = .ok document ∧
      document.references.get? "Configure" = some ["x"] :=
  ⟨_, rfl, rfl⟩

end PageMarkup.Document
