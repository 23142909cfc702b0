import PageMarkup.Proofs.Balance

/-!
# The language of matching brackets

The brackets among tokens form a word. The words that match are generated by a grammar with one rule
for each shape: a bracket opens, a matching word stands inside, a bracket of the same shape closes,
and a matching word follows. The check decides this language. It also blames the right token: the
first one that no tokens behind it can repair, or, if the tokens can always be continued to a
matching word, the last bracket that is left open.
-/

namespace PageMarkup.Brackets

/-- The kinds of tokens that are brackets. -/
def isBracket : TokenKind → Bool
  | .roundOpen | .roundClose | .squareOpen | .squareClose => true
  | _ => false

/-- The brackets among tokens, in order. -/
def word (tokens : List Token) : List TokenKind := (tokens.map Token.kind).filter isBracket

/-- The words of brackets that match. -/
inductive Dyck : List TokenKind → Prop
  | empty : Dyck []
  | pair (shape : Shape) {inside rest : List TokenKind} (hinside : Dyck inside)
    (hrest : Dyck rest) : Dyck (opening shape :: (inside ++ closing shape :: rest))

/-- Some tokens behind the given ones make their brackets match. -/
def Viable (tokens : List Token) : Prop := ∃ more, Dyck (word (tokens ++ more))

/-- A bracket of the shape is closed by one of the tokens that follow it: between the two the
brackets match. -/
def ClosedBy (shape : Shape) (after : List Token) : Prop :=
  ∃ inside closer rest, after = inside ++ closer :: rest ∧ Dyck (word inside) ∧
    closer.kind = closing shape

/-- The shortest beginning of the tokens that is not viable, up to the given token. -/
structure DeadEnd (tokens before : List Token) (token : Token) : Prop where
  /-- The tokens begin so. -/
  begins : before ++ [token] <+: tokens
  /-- Nothing that follows makes the brackets match. -/
  dead : ¬ Viable (before ++ [token])
  /-- All that is shorter can be continued. -/
  shortest : ∀ lead, lead <+: before → Viable lead

/-- The last of the brackets that open and that no later token closes, between the tokens before it
and those behind it. -/
structure LastUnclosed (tokens before : List Token) (opener : Token) (after : List Token)
    (shape : Shape) : Prop where
  /-- The bracket splits the tokens. -/
  split : tokens = before ++ opener :: after
  /-- It opens. -/
  opens : opener.kind = opening shape
  /-- No token behind it closes it. -/
  unclosed : ¬ ClosedBy shape after
  /-- Each bracket that opens behind it is closed. -/
  last : ∀ inside later rest other, after = inside ++ later :: rest → later.kind = opening other →
    ClosedBy other rest

variable {opened later outer : List (Located Shape)} {token : Token} {tokens : List Token}
  {shape : Shape}

/-- What neither opens nor closes is no bracket. -/
theorem isBracket_eq_false {kind : TokenKind} (hopens : opens? kind = none)
    (hcloses : closes? kind = none) : isBracket kind = false := by
  cases kind with
  | roundOpen | squareOpen => cases hopens
  | roundClose | squareClose => cases hcloses
  | keyword | identifier | string | constant | decorator | declaration | colon | comma | dot
  | integer => rfl

@[simp]
theorem isBracket_opening (shape : Shape) : isBracket (opening shape) = true := by
  cases shape <;> rfl

@[simp]
theorem isBracket_closing (shape : Shape) : isBracket (closing shape) = true := by
  cases shape <;> rfl

/-- The word of a list of tokens begins with its first token, if this is a bracket. -/
theorem word_cons (token : Token) (tokens : List Token) :
    word (token :: tokens) =
      if isBracket token.kind then token.kind :: word tokens else word tokens := by
  simp [word, List.filter_cons]

/-- The word of tokens one after the other is made of their words. -/
@[simp]
theorem word_append (first second : List Token) :
    word (first ++ second) = word first ++ word second := by
  simp [word]

/-- Where the word of tokens is cut, the tokens can be cut. -/
theorem exists_of_word_eq_append {first second : List TokenKind}
    (h : word tokens = first ++ second) :
    ∃ before after, tokens = before ++ after ∧ word before = first ∧ word after = second := by
  obtain ⟨left, right, hkinds, hleft, hright⟩ := List.filter_eq_append_iff.mp h
  obtain ⟨before, after, rfl, rfl, rfl⟩ := List.map_eq_append_iff.mp hkinds
  exact ⟨before, after, rfl, hleft, hright⟩

/-- The first bracket of the word of tokens is one of the tokens. -/
theorem exists_of_word_eq_cons {kind : TokenKind} {letters : List TokenKind}
    (h : word tokens = kind :: letters) :
    ∃ before token after, tokens = before ++ token :: after ∧ word before = [] ∧
      token.kind = kind ∧ word after = letters := by
  induction tokens with
  | nil => cases h
  | cons token rest ih =>
    rw [word_cons] at h
    split at h
    · obtain ⟨rfl, rfl⟩ := List.cons.inj h
      exact ⟨[], token, rest, rfl, rfl, rfl, rfl⟩
    · next hplain =>
      obtain ⟨before, bracket, after, rfl, hbefore, hkind, hafter⟩ := ih h
      exact ⟨token :: before, bracket, after, rfl, by simp [word_cons, hplain, hbefore], hkind,
        hafter⟩

/-- A token does the same if further brackets are open around those that are open. -/
theorem step?_outer (h : step? opened token = some later) (outer : List (Located Shape)) :
    step? (opened ++ outer) token = some (later ++ outer) := by
  rcases step?_cases h with ⟨shape, hopens, rfl⟩ | ⟨hopens, hcloses, rfl⟩ |
    ⟨inner, hopens, hcloses, rfl⟩
  · simp [step?, hopens]
  · simp [step?, hopens, hcloses]
  · simp [step?, hopens, hcloses]

/-- Tokens do the same if further brackets are open around those that are open. -/
theorem opened?_outer (h : opened? opened tokens = some later) (outer : List (Located Shape)) :
    opened? (opened ++ outer) tokens = some (later ++ outer) := by
  induction tokens generalizing opened with
  | nil =>
    cases h
    rfl
  | cons token rest ih =>
    rw [opened?_cons, Option.bind_eq_some_iff] at h
    obtain ⟨next, hstep, hrest⟩ := h
    rw [opened?_cons, step?_outer hstep]
    exact ih hrest

/-- A bracket that closes finds no open one where none is open. -/
theorem step?_nil_of_closing (h : token.kind = closing shape) : step? [] token = none := by
  simp [step?, h]

/-- Tokens without brackets are balanced. -/
theorem balanced_of_word_eq_nil (h : word tokens = []) : Balanced tokens := by
  induction tokens with
  | nil => exact .nil
  | cons token rest ih =>
    rw [word_cons] at h
    split at h
    · cases h
    · next hplain =>
      refine .cons ⟨?_, ?_⟩ (ih h)
      · rw [Option.eq_none_iff_forall_ne_some]
        intro shape hshape
        simp [opens?_eq_some_iff.mp hshape] at hplain
      · rw [Option.eq_none_iff_forall_ne_some]
        intro shape hshape
        simp [closes?_eq_some_iff.mp hshape] at hplain

/-- Tokens whose brackets match are balanced. -/
theorem balanced_of_dyck {letters : List TokenKind} (hdyck : Dyck letters)
    (hword : word tokens = letters) : Balanced tokens := by
  induction hdyck generalizing tokens with
  | empty => exact balanced_of_word_eq_nil hword
  | pair shape hinside hrest ihinside ihrest =>
    obtain ⟨lead, opener, behind, rfl, hlead, hopener, hbehind⟩ := exists_of_word_eq_cons hword
    obtain ⟨within, following, rfl, hwithin, hfollowing⟩ := exists_of_word_eq_append hbehind
    obtain ⟨gap, closer, rest, rfl, hgap, hcloser, hrest⟩ := exists_of_word_eq_cons hfollowing
    have hpair : Balanced (opener :: ((within ++ gap) ++ [closer])) :=
      .enclose hopener ((ihinside hwithin).append (balanced_of_word_eq_nil hgap)) hcloser
    simpa using (balanced_of_word_eq_nil hlead).append (hpair.append (ihrest hrest))

/-- The innermost open bracket is closed by a token if none stays open: what comes before this token
closes its own brackets, and what comes behind it those around. -/
theorem exists_innermost_closer {bracket : Located Shape}
    (h : opened? (bracket :: outer) tokens = some []) :
    ∃ inside closer after, tokens = inside ++ closer :: after ∧ opened? [] inside = some [] ∧
      closer.kind = closing bracket.value ∧ opened? outer after = some [] := by
  rw [← List.nil_append (bracket :: outer)] at h
  obtain ⟨inside, closer, after, rfl, hcloser, hinside⟩ := exists_closer h
  have hkind : closer.kind = closing bracket.value := closes?_eq_some_iff.mp hcloser
  refine ⟨inside, closer, after, rfl, hinside, hkind, ?_⟩
  rw [opened?_append, opened?_outer hinside, Option.bind_some, List.nil_append, opened?_cons,
    step?_of_closing hkind] at h
  exact h

/-- Brackets match if none is left open and none closes too much. -/
theorem dyck_of_opened? (h : opened? [] tokens = some []) : Dyck (word tokens) := by
  -- The rest behind a bracket and its closer is shorter, and so is what stands between them.
  induction hlength : tokens.length using Nat.strongRecOn generalizing tokens with
  | ind length ih =>
    cases tokens with
    | nil => exact .empty
    | cons token rest =>
      rw [opened?_cons, Option.bind_eq_some_iff] at h
      obtain ⟨next, hstep, hrest⟩ := h
      rcases step?_cases hstep with ⟨shape, hopens, rfl⟩ | ⟨hopens, hcloses, rfl⟩ |
        ⟨inner, -, -, hinner⟩
      · obtain ⟨inside, closer, after, rfl, hinside, hcloser, hafter⟩ :=
          exists_innermost_closer hrest
        simp only [List.length_cons, List.length_append] at hlength
        have hpair := Dyck.pair shape (ih inside.length (by omega) hinside rfl)
          (ih after.length (by omega) hafter rfl)
        rw [word_cons, word_append, word_cons, opens?_eq_some_iff.mp hopens, hcloser]
        simpa using hpair
      · rw [word_cons, isBracket_eq_false hopens hcloses]
        exact ih rest.length (by simp [← hlength]) hrest rfl
      · cases hinner

/-- Brackets match exactly if none is left open and none closes too much. -/
theorem dyck_word_iff : Dyck (word tokens) ↔ opened? [] tokens = some [] :=
  ⟨fun h => balanced_of_dyck h rfl [], dyck_of_opened?⟩

/-- Every open bracket can be closed. -/
theorem exists_opened?_eq_nil (opened : List (Located Shape)) :
    ∃ more, opened? opened more = some [] := by
  induction opened with
  | nil => exact ⟨[], rfl⟩
  | cons bracket outer ih =>
    obtain ⟨more, hmore⟩ := ih
    refine ⟨⟨closing bracket.value, "", bracket.position⟩ :: more, ?_⟩
    rw [opened?_cons, step?_of_closing rfl]
    exact hmore

/-- Tokens are viable exactly if no bracket among them closes too much. -/
theorem viable_iff : Viable tokens ↔ ∃ opened, opened? [] tokens = some opened := by
  constructor
  · rintro ⟨more, hdyck⟩
    have hopened := dyck_word_iff.mp hdyck
    rw [opened?_append, Option.bind_eq_some_iff] at hopened
    obtain ⟨opened, htokens, -⟩ := hopened
    exact ⟨opened, htokens⟩
  · rintro ⟨opened, htokens⟩
    obtain ⟨more, hmore⟩ := exists_opened?_eq_nil opened
    refine ⟨more, dyck_word_iff.mpr ?_⟩
    rw [opened?_append, htokens]
    exact hmore

/-- What viable tokens begin with is viable. -/
theorem Viable.of_isPrefix (h : Viable tokens) {lead : List Token} (hlead : lead <+: tokens) :
    Viable lead := by
  obtain ⟨more, hdyck⟩ := h
  obtain ⟨rest, rfl⟩ := hlead
  exact ⟨rest ++ more, by rwa [← List.append_assoc]⟩

/-- A token at which no open brackets are left to follow closes one. -/
theorem exists_closing_of_step?_eq_none (h : step? opened token = none) :
    ∃ shape, token.kind = closing shape := by
  unfold step? at h
  split at h
  · cases h
  · cases h
  · next shape inner outer hopens hcloses => exact ⟨shape, closes?_eq_some_iff.mp hcloses⟩
  · next shape hopens hcloses => exact ⟨shape, closes?_eq_some_iff.mp hcloses⟩

/-- Tokens that are not viable have a bracket that closes too much, and the check blames it. -/
theorem exists_deadEnd {lead : List Token} (hlead : lead <+: tokens) (hdead : ¬ Viable lead) :
    ∃ before token shape, DeadEnd tokens before token ∧ token.kind = closing shape ∧
      check tokens = .error ⟨.unmatched token.text, token.position⟩ := by
  have hnone : ¬ Viable tokens := fun h => hdead (h.of_isPrefix hlead)
  cases hcheck : check tokens with
  | ok _ => exact absurd (viable_iff.mpr ⟨[], check_eq_ok_iff.mp hcheck⟩) hnone
  | error fault =>
    rcases exists_of_checkFrom_error hcheck with
      ⟨before, token, after, left, rfl, hbefore, hstep, rfl⟩ | ⟨inner, outer, hopened, -⟩
    · obtain ⟨shape, hshape⟩ := exists_closing_of_step?_eq_none hstep
      have hviable : Viable before := viable_iff.mpr ⟨left, hbefore⟩
      refine ⟨before, token, shape, ⟨⟨after, by simp⟩, ?_, fun _ h => hviable.of_isPrefix h⟩,
        hshape, rfl⟩
      rw [viable_iff, opened?_concat, hbefore, Option.bind_some, hstep]
      simp
    · exact absurd (viable_iff.mpr ⟨_, hopened⟩) hnone

/-- Viable tokens whose brackets do not match have a last bracket that is left open, and the check
blames it. -/
theorem exists_lastUnclosed (hviable : Viable tokens) (hdyck : ¬ Dyck (word tokens)) :
    ∃ before opener after shape, LastUnclosed tokens before opener after shape ∧
      check tokens = .error ⟨.unclosed shape, opener.position⟩ := by
  obtain ⟨opened, hopened⟩ := viable_iff.mp hviable
  cases hcheck : check tokens with
  | ok _ => exact absurd (dyck_word_iff.mpr (check_eq_ok_iff.mp hcheck)) hdyck
  | error fault =>
    rcases exists_of_checkFrom_error hcheck with
      ⟨before, token, after, left, rfl, hbefore, hstep, -⟩ | ⟨inner, outer, hleft, rfl⟩
    · rw [opened?_append, hbefore, Option.bind_some, opened?_cons, hstep] at hopened
      cases hopened
    · rw [← List.nil_append (inner :: outer)] at hleft
      obtain ⟨before, opener, after, rfl, hopener, hposition, -, hafter⟩ := exists_opener hleft
      refine ⟨before, opener, after, inner.value,
        ⟨rfl, opens?_eq_some_iff.mp hopener, ?_, ?_⟩, by rw [hposition]⟩
      · -- Behind the bracket all brackets match, so none of them closes it.
        rintro ⟨inside, closer, rest, rfl, hinside, hcloser⟩
        rw [opened?_append, dyck_word_iff.mp hinside, Option.bind_some, opened?_cons,
          step?_nil_of_closing hcloser] at hafter
        cases hafter
      · rintro inside later rest other rfl hlater
        rw [opened?_append, Option.bind_eq_some_iff] at hafter
        obtain ⟨left, -, hrest⟩ := hafter
        rw [opened?_cons, step?_of_opening hlater, Option.bind_some] at hrest
        obtain ⟨within, closer, following, hsplit, hwithin, hcloser, -⟩ :=
          exists_innermost_closer hrest
        exact ⟨within, closer, following, hsplit, dyck_word_iff.mpr hwithin, hcloser⟩

/-- The check passes exactly if the brackets match. If some beginning of the tokens cannot be
continued to matching brackets, the check blames the last token of the shortest such beginning,
which closes a bracket. If every beginning can be continued, it blames the last bracket that is left
open. -/
theorem check_decides_matching (tokens : List Token) :
    (check tokens = .ok () ↔ Dyck (word tokens)) ∧
    ((∃ lead, lead <+: tokens ∧ ¬ Viable lead) →
      ∃ before token fault, DeadEnd tokens before token ∧
        (token.kind = .roundClose ∨ token.kind = .squareClose) ∧ check tokens = .error fault ∧
        Fault.diagnostic fault = .syntactic ("Unmatched '" ++ token.text ++ "'") token.position) ∧
    (¬ Dyck (word tokens) → (∀ lead, lead <+: tokens → Viable lead) →
      ∃ before opener after shape fault, LastUnclosed tokens before opener after shape ∧
        check tokens = .error fault ∧
        Fault.diagnostic fault =
          .syntactic
            (match shape with
              | .round => "Missing closing round bracket"
              | .square => "Missing closing square bracket")
            opener.position) := by
  refine ⟨check_eq_ok_iff.trans dyck_word_iff.symm, ?_, ?_⟩
  · rintro ⟨lead, hlead, hdead⟩
    obtain ⟨before, token, shape, hend, hshape, hcheck⟩ := exists_deadEnd hlead hdead
    refine ⟨before, token, _, hend, ?_, hcheck, rfl⟩
    cases shape with
    | round => exact .inl hshape
    | square => exact .inr hshape
  · intro hdyck hviable
    obtain ⟨before, opener, after, shape, hlast, hcheck⟩ :=
      exists_lastUnclosed (hviable tokens (List.prefix_refl tokens)) hdyck
    refine ⟨before, opener, after, shape, _, hlast, hcheck, ?_⟩
    cases shape <;> rfl

/-- A round and a square pair of brackets that cross. -/
def crossingBrackets : List Token :=
  [⟨.roundOpen, "(", ⟨1, 1⟩⟩, ⟨.squareOpen, "[", ⟨1, 2⟩⟩, ⟨.roundClose, ")", ⟨1, 3⟩⟩,
    ⟨.squareClose, "]", ⟨1, 4⟩⟩]

/-- A square and a round bracket that are left open, with a pair behind them. -/
def unclosedBrackets : List Token :=
  [⟨.squareOpen, "[", ⟨1, 1⟩⟩, ⟨.roundOpen, "(", ⟨1, 2⟩⟩, ⟨.squareOpen, "[", ⟨1, 3⟩⟩,
    ⟨.squareClose, "]", ⟨1, 4⟩⟩]

/-- Of two brackets that cross, the one that closes first is blamed; of two brackets that are both
left open, the inner one. -/
theorem check_of_crossing_and_unclosed :
    (∃ before token fault, DeadEnd crossingBrackets before token ∧
      check crossingBrackets = .error fault ∧
      Fault.diagnostic fault = .syntactic ("Unmatched '" ++ token.text ++ "'") token.position) ∧
    ∃ before opener after shape fault, LastUnclosed unclosedBrackets before opener after shape ∧
      check unclosedBrackets = .error fault ∧
      Fault.diagnostic fault = .syntactic "Missing closing round bracket" ⟨1, 2⟩ := by
  constructor
  · have hdead : ¬ Viable crossingBrackets := by
      have hnone : opened? [] crossingBrackets = none := by decide
      rw [viable_iff, hnone]
      simp
    obtain ⟨before, token, fault, hend, -, hcheck, hfault⟩ :=
      (check_decides_matching crossingBrackets).2.1 ⟨_, List.prefix_refl _, hdead⟩
    exact ⟨before, token, fault, hend, hcheck, hfault⟩
  · have hopened : opened? [] unclosedBrackets =
        some [⟨.round, ⟨1, 2⟩⟩, ⟨.square, ⟨1, 1⟩⟩] := by
      decide
    have hdyck : ¬ Dyck (word unclosedBrackets) := by
      rw [dyck_word_iff, hopened]
      simp
    have hviable : Viable unclosedBrackets := viable_iff.mpr ⟨_, hopened⟩
    obtain ⟨before, opener, after, shape, fault, hlast, hcheck, -⟩ :=
      (check_decides_matching unclosedBrackets).2.2 hdyck fun _ hlead => hviable.of_isPrefix hlead
    have hfault : fault = ⟨.unclosed .round, ⟨1, 2⟩⟩ := by
      have hfirst : check unclosedBrackets = .error ⟨.unclosed .round, ⟨1, 2⟩⟩ := rfl
      rw [hcheck] at hfirst
      exact Except.error.inj hfirst
    exact ⟨before, opener, after, shape, fault, hlast, hcheck, by rw [hfault]; rfl⟩

end PageMarkup.Brackets
