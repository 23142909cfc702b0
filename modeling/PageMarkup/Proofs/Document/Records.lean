import Mathlib.Data.List.Induction
import PageMarkup.Proofs.Document.Declarations
import PageMarkup.Proofs.Document.Insertion

/-!
# What declarations have recorded

The two tables of a document are found from its tokens alone: every value in a declaration is filed
under a topic and a key, and the tables hold the values that were filed under their topics. A
configuration has the value that was filed last; a reference has all its values, each where it came
first. In both tables the keys stand in the order in which they came first. A complete declaration
can thus be seen nowhere but in the table of its directive, wherever it is inserted.
-/

namespace PageMarkup.Document

open Grammar (Filing configure refer filed filed_append)

/-- The values that pairs give to a key, in order. -/
def valuesOf (key : String) (pairs : List (String × String)) : List String :=
  (pairs.filter fun pair => pair.1 = key).map Prod.snd

/-- A pair adds its value to the values of its key. -/
theorem valuesOf_concat_self (key value : String) (pairs : List (String × String)) :
    valuesOf key (pairs ++ [(key, value)]) = valuesOf key pairs ++ [value] := by
  simp [valuesOf]

/-- A pair adds nothing to the values of other keys. -/
theorem valuesOf_concat_of_ne {key other : String} (h : other ≠ key) (value : String)
    (pairs : List (String × String)) :
    valuesOf key (pairs ++ [(other, value)]) = valuesOf key pairs := by
  simp [valuesOf, h]

/-- One more item is kept if it is new. -/
theorem eraseDups_concat (items : List String) (item : String) :
    (items ++ [item]).eraseDups =
      if item ∈ items then items.eraseDups else items.eraseDups ++ [item] := by
  rw [List.eraseDups_append]
  split
  · next hmem => simp [List.removeAll, hmem]
  · next hmem => simp [List.removeAll, hmem, List.eraseDups_cons]

/-- Items of which only the first of each kind are kept are distinct. -/
theorem nodup_eraseDups (items : List String) : items.eraseDups.Nodup := by
  induction items using List.reverseRecOn with
  | nil => exact List.nodup_nil
  | append_singleton before item ih =>
    rw [eraseDups_concat]
    split
    · exact ih
    · next hnew =>
      have hother : item ∉ before.eraseDups := fun hmem => hnew (List.mem_eraseDups.mp hmem)
      refine List.nodup_append.mpr ⟨ih, by simp, ?_⟩
      rintro first hfirst last hlast rfl
      exact hother (List.mem_singleton.mp hlast ▸ hfirst)

/-- Keys that are written one after the other stand where they were written first. -/
theorem keys_foldl_insert {α : Type} (value : Table α → String × String → α)
    (pairs : List (String × String)) :
    (pairs.foldl (fun (table : Table α) pair => table.insert pair.1 (value table pair)) ∅).keys =
      (pairs.map Prod.fst).eraseDups := by
  induction pairs using List.reverseRecOn with
  | nil => rfl
  | append_singleton before pair ih =>
    rw [List.foldl_append, List.foldl_cons, List.foldl_nil, Table.keys_insert, ih, List.map_append,
      List.map_singleton, eraseDups_concat]
    simp only [List.mem_eraseDups]

/-- A key that is written more than once has its last value. -/
theorem get?_foldl_configure (pairs : List (String × String)) (key : String) :
    (pairs.foldl configure ∅).get? key = (valuesOf key pairs).getLast? := by
  induction pairs using List.reverseRecOn with
  | nil => rfl
  | append_singleton before pair ih =>
    obtain ⟨other, value⟩ := pair
    rw [List.foldl_append, List.foldl_cons, List.foldl_nil, configure]
    by_cases hkey : other = key
    · subst hkey
      rw [Table.get?_insert_self, valuesOf_concat_self, List.getLast?_concat]
    · rw [Table.get?_insert_of_ne _ _ (Ne.symm hkey), ih, valuesOf_concat_of_ne hkey]

/-- A key to which values are added has each of them where it came first. -/
theorem get?_foldl_refer (pairs : List (String × String)) (key : String) :
    (pairs.foldl refer ∅).get? key =
      if valuesOf key pairs = [] then none else some (valuesOf key pairs).eraseDups := by
  induction pairs using List.reverseRecOn with
  | nil => rfl
  | append_singleton before pair ih =>
    obtain ⟨other, value⟩ := pair
    rw [List.foldl_append, List.foldl_cons, List.foldl_nil, refer]
    by_cases hkey : other = key
    · subst hkey
      have hvalues : ((before.foldl refer ∅).get? other).getD [] =
          (valuesOf other before).eraseDups := by
        rw [ih]
        split
        · next hnone => rw [hnone]; rfl
        · rfl
      have hfiled : valuesOf other before ++ [value] ≠ [] := by simp
      rw [Table.get?_insert_self, valuesOf_concat_self, if_neg hfiled, eraseDups_concat]
      simp only [hvalues, List.mem_eraseDups]
    · rw [Table.get?_insert_of_ne _ _ (Ne.symm hkey), ih, valuesOf_concat_of_ne hkey]

instance (token : Token) : Decidable (IsValue token) := inferInstanceAs (Decidable (_ ∨ _))

/-- What a token files after the given ones: a value in a declaration is filed under the two words
that have waited least. -/
def filingsAt (before : List Token) (token : Token) : List Filing :=
  if IsValue token ∧ (Situation.after {} before).inDeclaration = true then
    match waitingWords before with
    | key :: topic :: _ => [⟨topic.text, key.text, token.text⟩]
    | _ => []
  else []

/-- What the tokens of a document file, in order. -/
def filings (tokens : List Token) : List Filing := gather filingsAt tokens

/-- The keys with their values that the tokens of a document file under the topic, in order. -/
def filedPairs (topic : String) (tokens : List Token) : List (String × String) :=
  (filings tokens).filterMap (Filing.pair? topic)

/-- A filed value changes the table of its directive and no other. -/
theorem Builder.Filed.tables {builder next : Builder} {topic key value : String}
    (h : builder.Filed topic key value next) :
    next.configurations = filed "configure" configure builder.configurations [⟨topic, key, value⟩] ∧
      next.references = filed "reference" refer builder.references [⟨topic, key, value⟩] := by
  have hrecorded := builder.record_eq_recorded ⟨topic, key, value⟩
  have hrecord : next.configurations =
        (builder.record ⟨.ofTopic topic, key⟩ value).configurations ∧
      next.references = (builder.record ⟨.ofTopic topic, key⟩ value).references := by
    unfold Filed at h
    unfold record
    cases hdirective : Directive.ofTopic topic <;> simpa [hdirective] using h
  rw [hrecorded] at hrecord
  exact hrecord

/-- The tables hold what the tokens have filed. -/
theorem Builder.tables_of_run {builder : Builder} {tokens : List Token}
    (hrun : Builder.run {} tokens = .ok builder) :
    builder.configurations = filed "configure" configure ∅ (filings tokens) ∧
      builder.references = filed "reference" refer ∅ (filings tokens) := by
  refine run_induction (motive := fun tokens builder =>
    builder.configurations = filed "configure" configure ∅ (filings tokens) ∧
      builder.references = filed "reference" refer ∅ (filings tokens))
    ⟨rfl, rfl⟩ ?_ hrun
  rintro before middle next token hbefore ⟨hconfigurations, hreferences⟩ haccept
  have hnoted := noted_accept haccept
  rw [filings, gather_concat, ← filings, filed_append, filed_append, ← hconfigurations,
    ← hreferences, filingsAt, ← (tracked_of_run hbefore).2]
  by_cases hends : IsValue token ∧ middle.situation.inDeclaration = true
  · obtain ⟨topic, key, rest, hwaiting, hfiled⟩ :=
      hnoted.filed (declared_of_run hbefore) hends.1 hends.2
    rw [if_pos hends, waitingWords, hwaiting]
    exact hfiled.tables
  · rw [if_neg hends]
    have hrecords := hnoted.sameRecords hends
    exact ⟨hrecords.configurations, hrecords.references⟩

/-- The tables of a document in terms of what its tokens have filed. -/
structure RecordsInOrder (tokens : List Token) (document : Document) : Prop where
  /-- The keys of configurations stand in the order of their first values. -/
  configurationKeys :
    document.configurations.keys = ((filedPairs "configure" tokens).map Prod.fst).eraseDups
  /-- A configuration has the last value that was filed for it. -/
  configurations : ∀ key,
    document.configurations.get? key = (valuesOf key (filedPairs "configure" tokens)).getLast?
  /-- The keys of references stand in the order of their first values. -/
  referenceKeys :
    document.references.keys = ((filedPairs "reference" tokens).map Prod.fst).eraseDups
  /-- A reference has the values that were filed for it, each where it came first. -/
  references : ∀ key,
    document.references.get? key =
      if valuesOf key (filedPairs "reference" tokens) = [] then none
      else some (valuesOf key (filedPairs "reference" tokens)).eraseDups
  /-- No list of references is empty or holds a value twice. -/
  referenceLists : ∀ key values, document.references.get? key = some values →
    values ≠ [] ∧ values.Nodup

/-- The tables of every document are in order. -/
theorem recordsInOrder_of_run {tokens : List Token} {builder : Builder}
    (hrun : Builder.run {} tokens = .ok builder) : RecordsInOrder tokens builder.document := by
  obtain ⟨hconfigurations, hreferences⟩ := Builder.tables_of_run hrun
  have hget (key : String) : builder.document.references.get? key =
      if valuesOf key (filedPairs "reference" tokens) = [] then none
      else some (valuesOf key (filedPairs "reference" tokens)).eraseDups :=
    (congrArg (·.get? key) hreferences).trans (get?_foldl_refer _ key)
  refine
    { configurationKeys := (congrArg Table.keys hconfigurations).trans (keys_foldl_insert _ _)
      configurations := fun key =>
        (congrArg (·.get? key) hconfigurations).trans (get?_foldl_configure _ key)
      referenceKeys := (congrArg Table.keys hreferences).trans (keys_foldl_insert _ _)
      references := hget
      referenceLists := ?_ }
  intro key values hvalues
  rw [hget key] at hvalues
  split at hvalues
  · cases hvalues
  · next hfiled =>
    cases hvalues
    obtain ⟨value, hvalue⟩ := List.exists_mem_of_ne_nil _ hfiled
    exact ⟨List.ne_nil_of_mem (List.mem_eraseDups.mpr hvalue), nodup_eraseDups _⟩

/-- What a complete declaration between other tokens does to a document. -/
structure StandsApart (before : List Token) (declared : Grammar.Declaration)
    (after : List Token) : Prop where
  /-- It changes at most the table of its directive. -/
  elsewhere :
    (ofTokens (before ++ declared.tokens ++ after)).map
        (without (.ofTopic declared.topic.val.text)) =
      (ofTokens (before ++ after)).map (without (.ofTopic declared.topic.val.text))
  /-- The same fault is reported with and without it. -/
  faults : ∀ fault, ofTokens (before ++ declared.tokens ++ after) = .error fault ↔
    ofTokens (before ++ after) = .error fault
  /-- The nodes are the same with and without it. -/
  bodies : (ofTokens (before ++ declared.tokens ++ after)).map Document.body =
    (ofTokens (before ++ after)).map Document.body
  /-- Under an unknown topic it changes nothing. -/
  unknown : ∀ topic, Directive.ofTopic declared.topic.val.text = .unknown topic →
    ofTokens (before ++ declared.tokens ++ after) = ofTokens (before ++ after)
  /-- A reference that the tokens before it have recorded already changes nothing. -/
  repeated : ∀ document, ofTokens before = .ok document →
    Directive.ofTopic declared.topic.val.text = .reference →
    declared.value.val.text ∈ (document.references.get? declared.key.val.text).getD [] →
    ofTokens (before ++ declared.tokens ++ after) = ofTokens (before ++ after)

/-- Results that agree without one table are refused alike and have the same nodes. -/
theorem agree_of_map_without {directive : Directive}
    {first second : Except (Located Fault) Document}
    (h : first.map (without directive) = second.map (without directive)) :
    (∀ fault, first = .error fault ↔ second = .error fault) ∧
      first.map Document.body = second.map Document.body := by
  cases first with
  | error fault =>
    cases second with
    | error other =>
      cases h
      exact ⟨fun _ => .rfl, rfl⟩
    | ok other => cases h
  | ok document =>
    cases second with
    | error other => cases h
    | ok other =>
      have hsame : without directive document = without directive other := Except.ok.inj h
      have hbody : (without directive document).body = (without directive other).body := by
        rw [hsame]
      refine ⟨fun fault => ⟨fun hfirst => ?_, fun hsecond => ?_⟩, congrArg Except.ok hbody⟩
      · cases hfirst
      · cases hsecond

/-- A complete declaration that does not follow a dot is seen nowhere but in the table of its
directive, and the tables hold what was filed for them, in order. -/
theorem declarations_stand_apart :
    (∀ before declared after, endsInDot before = false → StandsApart before declared after) ∧
      ∀ tokens document, ofTokens tokens = .ok document → RecordsInOrder tokens document := by
  constructor
  · intro before declared after hdot
    have helsewhere := ofTokens_insert hdot declared after
    obtain ⟨hfaults, hbodies⟩ := agree_of_map_without helsewhere
    refine ⟨helsewhere, hfaults, hbodies, ?_, ?_⟩
    · intro topic htopic
      refine ofTokens_insert_of_same hdot declared after fun builder _ => ?_
      rw [Builder.afterDeclaration, htopic]
      rfl
    · intro document hdocument htopic hvalue
      refine ofTokens_insert_of_same hdot declared after fun builder hbefore => ?_
      obtain ⟨final, hfinal, rfl⟩ := exists_run_of_ofTokens hdocument
      cases hbefore.symm.trans hfinal
      rw [Builder.afterDeclaration, htopic]
      exact Builder.record_repeated hvalue
  · intro tokens document hdocument
    obtain ⟨final, hrun, rfl⟩ := exists_run_of_ofTokens hdocument
    exact recordsInOrder_of_run hrun

/-- A reference, and the name of a parameter that waits for its value. -/
def referenceBeforeName : List Token :=
  [⟨.declaration, "Reference", .first⟩, ⟨.keyword, "Css", .first⟩, ⟨.colon, ":", .first⟩,
    ⟨.string, "x", .first⟩, ⟨.keyword, "A", .first⟩, ⟨.roundOpen, "(", .first⟩,
    ⟨.identifier, "k", .first⟩, ⟨.colon, ":", .first⟩]

/-- The reference once more. -/
def repeatedReference : Grammar.Declaration :=
  ⟨⟨⟨.declaration, "Reference", .first⟩, rfl⟩, ⟨⟨.keyword, "Css", .first⟩, .inr rfl, by decide⟩,
    ⟨⟨.colon, ":", .first⟩, rfl⟩, ⟨⟨.string, "x", .first⟩, .inl rfl⟩, by decide⟩

/-- The value of the parameter, and the bracket behind it. -/
def valueBehindName : List Token := [⟨.string, "v", .first⟩, ⟨.roundClose, ")", .first⟩]

/-- A reference is repeated between the name of a parameter and its value. -/
theorem reference_repeated_before_parameter_value :
    ∃ document, ofTokens (referenceBeforeName ++ valueBehindName) = .ok document ∧
      ofTokens (referenceBeforeName ++ repeatedReference.tokens ++ valueBehindName) =
        .ok document ∧
      document.references.get? "Css" = some ["x"] ∧
      RecordsInOrder (referenceBeforeName ++ valueBehindName) document := by
  refine ⟨_, rfl, ?_, rfl, declarations_stand_apart.2 _ _ rfl⟩
  have hapart := declarations_stand_apart.1 referenceBeforeName repeatedReference valueBehindName
    (by decide)
  exact hapart.repeated _ rfl rfl (List.mem_singleton.mpr rfl)

end PageMarkup.Document
