import Mathlib.Data.List.Induction
import PageMarkup.Brackets

/-!
# Which brackets are open

The check keeps the brackets that are open, innermost first. Here they are followed along tokens for
their own sake, from any brackets that are open before. The check goes on exactly with these
brackets, so it passes if none is left, and a fault is either a bracket that closes none of its
shape or the innermost one of those that are left. A bracket that is still open splits the tokens:
what comes behind it leaves open, on its own, just the brackets inside it. The brackets of one shape
can also be counted without the others, and along tokens that close no wrong bracket the count is
that of the open brackets.
-/

namespace PageMarkup.Brackets

/-- The kind of the brackets of a shape that open. -/
def opening : Shape → TokenKind
  | .round => .roundOpen
  | .square => .squareOpen

/-- The kind of the brackets of a shape that close. -/
def closing : Shape → TokenKind
  | .round => .roundClose
  | .square => .squareClose

/-- A kind opens a shape exactly if it is the opening bracket of the shape. -/
theorem opens?_eq_some_iff {kind : TokenKind} {shape : Shape} :
    opens? kind = some shape ↔ kind = opening shape := by
  cases kind <;> cases shape <;> simp [opens?, opening]

/-- A kind closes a shape exactly if it is the closing bracket of the shape. -/
theorem closes?_eq_some_iff {kind : TokenKind} {shape : Shape} :
    closes? kind = some shape ↔ kind = closing shape := by
  cases kind <;> cases shape <;> simp [closes?, closing]

@[simp]
theorem opens?_closing (shape : Shape) : opens? (closing shape) = none := by
  cases shape <;> rfl

@[simp]
theorem closes?_closing (shape : Shape) : closes? (closing shape) = some shape := by
  cases shape <;> rfl

/-- The open brackets after a token, innermost first, or nothing if the token closes a bracket that
is not the innermost one. -/
def step? (opened : List (Located Shape)) (token : Token) : Option (List (Located Shape)) :=
  match opens? token.kind, closes? token.kind, opened with
  | some shape, _, _ => some (⟨shape, token.position⟩ :: opened)
  | none, none, _ => some opened
  | none, some shape, inner :: outer => if inner.value = shape then some outer else none
  | none, some _, [] => none

/-- The open brackets after tokens, if each of them that closes a bracket closes the innermost. -/
def opened? (opened : List (Located Shape)) (tokens : List Token) :
    Option (List (Located Shape)) :=
  tokens.foldlM step? opened

variable {opened later : List (Located Shape)} {token : Token} {tokens : List Token}

@[simp]
theorem opened?_nil (opened : List (Located Shape)) : opened? opened [] = some opened := rfl

/-- Brackets are followed token by token. -/
theorem opened?_cons (opened : List (Located Shape)) (token : Token) (tokens : List Token) :
    opened? opened (token :: tokens) = (step? opened token).bind (opened? · tokens) := rfl

/-- Brackets are followed along two lists of tokens one after the other. -/
theorem opened?_append (opened : List (Located Shape)) (first second : List Token) :
    opened? opened (first ++ second) = (opened? opened first).bind (opened? · second) := by
  simp [opened?, List.foldlM_append]

/-- Brackets are followed to the last token. -/
theorem opened?_concat (opened : List (Located Shape)) (tokens : List Token) (token : Token) :
    opened? opened (tokens ++ [token]) = (opened? opened tokens).bind (step? · token) := by
  rw [opened?_append]
  congr 1
  funext later
  rw [opened?_cons]
  cases step? later token <;> rfl

/-- What a token can do: it opens a bracket, closes the innermost one, or is none. -/
theorem step?_cases (h : step? opened token = some later) :
    (∃ shape, opens? token.kind = some shape ∧ later = ⟨shape, token.position⟩ :: opened) ∨
    (opens? token.kind = none ∧ closes? token.kind = none ∧ later = opened) ∨
    ∃ inner, opens? token.kind = none ∧ closes? token.kind = some inner.value ∧
      opened = inner :: later := by
  unfold step? at h
  split at h
  · next shape hopens => exact .inl ⟨shape, hopens, (Option.some.inj h).symm⟩
  · next hopens hcloses => exact .inr (.inl ⟨hopens, hcloses, (Option.some.inj h).symm⟩)
  · next shape inner outer hopens hcloses =>
    split at h
    · next hshape =>
      cases h
      exact .inr (.inr ⟨inner, hopens, hshape ▸ hcloses, rfl⟩)
    · cases h
  · cases h

/-- A bracket that opens is the innermost open one. -/
theorem step?_of_opening {shape : Shape} (h : token.kind = opening shape)
    (opened : List (Located Shape)) :
    step? opened token = some (⟨shape, token.position⟩ :: opened) := by
  simp [step?, opens?_eq_some_iff.mpr h]

/-- A bracket that closes takes the innermost open one of its shape away. -/
theorem step?_of_closing {shape : Shape} (h : token.kind = closing shape) (position : Position)
    (opened : List (Located Shape)) : step? (⟨shape, position⟩ :: opened) token = some opened := by
  simp [step?, h]

/-- The check goes on with the open brackets after a token, or stops there. -/
theorem checkFrom_cons (opened : List (Located Shape)) (token : Token) (tokens : List Token) :
    checkFrom opened (token :: tokens) =
      match step? opened token with
      | some later => checkFrom later tokens
      | none => .error ⟨.unmatched token.text, token.position⟩ := by
  unfold step?
  cases hopens : opens? token.kind with
  | some shape => simp [checkFrom, hopens]
  | none =>
    cases hcloses : closes? token.kind with
    | none => simp [checkFrom, hopens, hcloses]
    | some shape =>
      cases opened with
      | nil => simp [checkFrom, hopens, hcloses]
      | cons inner outer =>
        by_cases hshape : inner.value = shape
        · simp [checkFrom, hopens, hcloses, hshape]
        · simp [checkFrom, hopens, hcloses, hshape]

/-- The check stops at a bracket that closes none, or at the end with a bracket left open. -/
theorem exists_of_checkFrom_error {fault : Located Fault}
    (h : checkFrom opened tokens = .error fault) :
    (∃ before token after left, tokens = before ++ token :: after ∧
      opened? opened before = some left ∧ step? left token = none ∧
      fault = ⟨.unmatched token.text, token.position⟩) ∨
    ∃ inner outer, opened? opened tokens = some (inner :: outer) ∧
      fault = ⟨.unclosed inner.value, inner.position⟩ := by
  induction tokens generalizing opened with
  | nil =>
    cases opened with
    | nil => cases h
    | cons inner outer =>
      cases h
      exact .inr ⟨inner, outer, rfl, rfl⟩
  | cons token rest ih =>
    rw [checkFrom_cons] at h
    cases hstep : step? opened token with
    | none =>
      rw [hstep] at h
      cases h
      exact .inl ⟨[], token, rest, opened, rfl, rfl, hstep, rfl⟩
    | some next =>
      rw [hstep] at h
      rcases ih h with ⟨before, closer, after, left, rfl, hbefore, hcloser, hfault⟩ |
        ⟨inner, outer, hrest, hfault⟩
      · refine .inl ⟨token :: before, closer, after, left, rfl, ?_, hcloser, hfault⟩
        rw [opened?_cons, hstep]
        exact hbefore
      · refine .inr ⟨inner, outer, ?_, hfault⟩
        rw [opened?_cons, hstep]
        exact hrest

/-- A check that passes leaves no bracket open. -/
theorem opened?_of_checkFrom (h : checkFrom opened tokens = .ok ()) :
    opened? opened tokens = some [] := by
  induction tokens generalizing opened with
  | nil =>
    cases opened with
    | nil => rfl
    | cons inner outer => cases h
  | cons token rest ih =>
    rw [checkFrom_cons] at h
    rw [opened?_cons]
    cases hstep : step? opened token with
    | none =>
      rw [hstep] at h
      cases h
    | some next =>
      rw [hstep] at h
      exact ih h

/-- The check passes exactly if no bracket is left open and none closes too much. -/
theorem check_eq_ok_iff : check tokens = .ok () ↔ opened? [] tokens = some [] := by
  refine ⟨opened?_of_checkFrom, fun h => ?_⟩
  cases hcheck : check tokens with
  | ok _ => rfl
  | error fault =>
    rcases exists_of_checkFrom_error hcheck with
      ⟨before, token, after, left, rfl, hbefore, hstep, -⟩ | ⟨inner, outer, hopened, -⟩
    · rw [opened?_append, hbefore, Option.bind_some, opened?_cons, hstep] at h
      cases h
    · rw [hopened] at h
      cases h

/-- Along tokens that pass the check it is always known what is open. -/
theorem exists_opened?_of_check {first second : List Token}
    (h : check (first ++ second) = .ok ()) :
    ∃ left, opened? [] first = some left ∧ opened? left second = some [] := by
  have hopened := check_eq_ok_iff.mp h
  rwa [opened?_append, Option.bind_eq_some_iff] at hopened

/-- A bracket that is still open splits the tokens: before it the brackets around it are open, and
what comes behind it leaves open, on its own, the brackets inside it. -/
theorem exists_opener {inside outside : List (Located Shape)} {bracket : Located Shape}
    (h : opened? [] tokens = some (inside ++ bracket :: outside)) :
    ∃ before opener after, tokens = before ++ opener :: after ∧
      opens? opener.kind = some bracket.value ∧ opener.position = bracket.position ∧
      opened? [] before = some outside ∧ opened? [] after = some inside := by
  induction tokens using List.reverseRecOn generalizing inside with
  | nil => simp at h
  | append_singleton rest token ih =>
    rw [opened?_concat, Option.bind_eq_some_iff] at h
    obtain ⟨left, hrest, hstep⟩ := h
    rcases step?_cases hstep with ⟨shape, hopens, hleft⟩ | ⟨hopens, hcloses, rfl⟩ |
      ⟨inner, hopens, hcloses, rfl⟩
    · cases inside with
      | nil =>
        obtain ⟨rfl, rfl⟩ : bracket = ⟨shape, token.position⟩ ∧ outside = left := by
          simpa using hleft
        exact ⟨rest, token, [], rfl, hopens, rfl, hrest, rfl⟩
      | cons innermost more =>
        obtain ⟨rfl, rfl⟩ : innermost = ⟨shape, token.position⟩ ∧
            more ++ bracket :: outside = left := by
          simpa using hleft
        obtain ⟨before, opener, after, rfl, hopener, hposition, hbefore, hafter⟩ := ih hrest
        refine ⟨before, opener, after ++ [token], by simp, hopener, hposition, hbefore, ?_⟩
        simp [opened?_concat, hafter, step?, hopens]
    · obtain ⟨before, opener, after, rfl, hopener, hposition, hbefore, hafter⟩ := ih hrest
      refine ⟨before, opener, after ++ [token], by simp, hopener, hposition, hbefore, ?_⟩
      simp [opened?_concat, hafter, step?, hopens, hcloses]
    · rw [← List.cons_append] at hrest
      obtain ⟨before, opener, after, rfl, hopener, hposition, hbefore, hafter⟩ := ih hrest
      refine ⟨before, opener, after ++ [token], by simp, hopener, hposition, hbefore, ?_⟩
      simp [opened?_concat, hafter, step?, hopens, hcloses]

/-- A bracket that is open and does not stay so is closed by a token: what comes before this token
closes, on its own, the brackets inside. -/
theorem exists_closer {inside outside : List (Located Shape)} {bracket : Located Shape}
    (h : opened? (inside ++ bracket :: outside) tokens = some []) :
    ∃ before closer after, tokens = before ++ closer :: after ∧
      closes? closer.kind = some bracket.value ∧ opened? inside before = some [] := by
  induction tokens generalizing inside with
  | nil => simp at h
  | cons token rest ih =>
    rw [opened?_cons, Option.bind_eq_some_iff] at h
    obtain ⟨next, hstep, hrest⟩ := h
    rcases step?_cases hstep with ⟨shape, hopens, rfl⟩ | ⟨hopens, hcloses, rfl⟩ |
      ⟨inner, hopens, hcloses, hinner⟩
    · rw [← List.cons_append] at hrest
      obtain ⟨before, closer, after, rfl, hcloser, hbefore⟩ := ih hrest
      refine ⟨token :: before, closer, after, rfl, hcloser, ?_⟩
      simpa [opened?_cons, step?, hopens] using hbefore
    · obtain ⟨before, closer, after, rfl, hcloser, hbefore⟩ := ih hrest
      refine ⟨token :: before, closer, after, rfl, hcloser, ?_⟩
      simpa [opened?_cons, step?, hopens, hcloses] using hbefore
    · cases inside with
      | nil =>
        obtain ⟨rfl, -⟩ : bracket = inner ∧ outside = next := by simpa using hinner
        exact ⟨[], token, rest, rfl, hcloses, rfl⟩
      | cons innermost more =>
        obtain ⟨rfl, rfl⟩ : innermost = inner ∧ more ++ bracket :: outside = next := by
          simpa using hinner
        obtain ⟨before, closer, after, rfl, hcloser, hbefore⟩ := ih hrest
        refine ⟨token :: before, closer, after, rfl, hcloser, ?_⟩
        simpa [opened?_cons, step?, hopens, hcloses] using hbefore

/-- How many brackets of a shape are open after a token, or nothing if it closes one where none is
open. -/
def depthStep? (shape : Shape) (depth : Nat) (kind : TokenKind) : Option Nat :=
  if kind = opening shape then some (depth + 1)
  else if kind = closing shape then if depth = 0 then none else some (depth - 1)
  else some depth

/-- How many brackets of a shape are open after tokens, if each that closes closes one of those that
are open before or among the tokens. -/
def depth? (shape : Shape) (depth : Nat) (tokens : List Token) : Option Nat :=
  tokens.foldlM (fun depth token => depthStep? shape depth token.kind) depth

/-- How many brackets of a shape are open after tokens, if a bracket that closes where none is open
does nothing. -/
def depthAfter (shape : Shape) (depth : Nat) (tokens : List Token) : Nat :=
  tokens.foldl (fun depth token => (depthStep? shape depth token.kind).getD 0) depth

/-- Brackets of a shape are counted token by token. -/
theorem depth?_cons (shape : Shape) (depth : Nat) (token : Token) (tokens : List Token) :
    depth? shape depth (token :: tokens) =
      (depthStep? shape depth token.kind).bind (depth? shape · tokens) := rfl

/-- A token that is no bracket of the shape leaves the count as it is. -/
theorem depthStep?_other {shape : Shape} {kind : TokenKind} (hopen : kind ≠ opening shape)
    (hclose : kind ≠ closing shape) (depth : Nat) : depthStep? shape depth kind = some depth := by
  simp [depthStep?, hopen, hclose]

/-- The two ways of counting agree where each bracket that closes closes one. -/
theorem depthAfter_eq {shape : Shape} {depth later : Nat}
    (h : depth? shape depth tokens = some later) : depthAfter shape depth tokens = later := by
  induction tokens generalizing depth with
  | nil => exact Option.some.inj h
  | cons token rest ih =>
    rw [depth?_cons, Option.bind_eq_some_iff] at h
    obtain ⟨middle, hstep, hrest⟩ := h
    rw [depthAfter, List.foldl_cons, hstep]
    exact ih hrest

/-- How many of the open brackets have the given shape. -/
def count (shape : Shape) (opened : List (Located Shape)) : Nat :=
  opened.countP fun bracket => bracket.value = shape

/-- A further bracket counts if it has the shape. -/
theorem count_cons (shape : Shape) (bracket : Located Shape) (opened : List (Located Shape)) :
    count shape (bracket :: opened) =
      count shape opened + if bracket.value = shape then 1 else 0 := by
  simp [count, List.countP_cons]

/-- Where no open bracket is square, all are round. -/
theorem count_square_eq_zero_iff :
    count .square opened = 0 ↔ ∀ bracket ∈ opened, bracket.value = .round := by
  rw [count, List.countP_eq_zero]
  refine forall₂_congr fun bracket _ => ?_
  cases bracket.value <;> simp

/-- A token that closes no wrong bracket is counted as the open brackets are. -/
theorem depthStep?_count (shape : Shape) (h : step? opened token = some later) :
    depthStep? shape (count shape opened) token.kind = some (count shape later) := by
  rcases step?_cases h with ⟨other, hopens, rfl⟩ | ⟨hopens, hcloses, rfl⟩ |
    ⟨inner, hopens, hcloses, rfl⟩
  · rw [opens?_eq_some_iff.mp hopens, count_cons]
    cases shape <;> cases other <;> rfl
  · refine depthStep?_other ?_ ?_ _
    · simp [← opens?_eq_some_iff, hopens]
    · simp [← closes?_eq_some_iff, hcloses]
  · rw [closes?_eq_some_iff.mp hcloses, count_cons]
    cases shape <;> cases inner.value <;> rfl

/-- Along tokens that close no wrong bracket, the count is that of the open brackets. -/
theorem depth?_count (shape : Shape) (h : opened? opened tokens = some later) :
    depth? shape (count shape opened) tokens = some (count shape later) := by
  induction tokens generalizing opened with
  | nil =>
    cases h
    rfl
  | cons token rest ih =>
    rw [opened?_cons, Option.bind_eq_some_iff] at h
    obtain ⟨next, hstep, hrest⟩ := h
    rw [depth?_cons, depthStep?_count shape hstep]
    exact ih hrest

/-- The square bracket between the given tokens is open after all of them, and all brackets that are
open inside it are round. -/
structure InnermostSquare (tokens before : List Token) (opener : Token) (after : List Token) :
    Prop where
  /-- The bracket splits the tokens. -/
  split : tokens = before ++ opener :: after
  /-- The bracket is square and opens. -/
  kind : opener.kind = .squareOpen
  /-- The bracket is still open, with those around it that were open before. -/
  opened : ∃ inside outside, opened? [] before = some outside ∧ opened? [] after = some inside ∧
    opened? [] tokens = some (inside ++ ⟨.square, opener.position⟩ :: outside) ∧
    ∀ bracket ∈ inside, bracket.value = .round

/-- Where a square bracket is open, one is the innermost. -/
theorem exists_innermostSquare (h : opened? [] tokens = some opened)
    (hsquares : count .square opened ≠ 0) :
    ∃ before opener after, InnermostSquare tokens before opener after := by
  obtain ⟨bracket, hfind⟩ : ∃ bracket, opened.find? (·.value = .square) = some bracket := by
    rw [← Option.isSome_iff_exists, List.find?_isSome]
    simpa [count] using hsquares
  obtain ⟨hfound, inside, outside, rfl, hinside⟩ := List.find?_eq_some_iff_append.mp hfind
  have hsquare : bracket.value = .square := of_decide_eq_true hfound
  have hround : ∀ inner ∈ inside, inner.value = .round := by
    intro inner hinner
    have hshape := hinside inner hinner
    cases hvalue : inner.value with
    | round => rfl
    | square => simp [hvalue] at hshape
  obtain ⟨before, opener, after, hsplit, hopener, hposition, hbefore, hafter⟩ := exists_opener h
  rw [hsquare, opens?_eq_some_iff] at hopener
  have hbracket : bracket = ⟨.square, opener.position⟩ := by rw [hposition, ← hsquare]
  rw [hbracket] at h
  exact ⟨before, opener, after, hsplit, hopener, inside, outside, hbefore, hafter, h, hround⟩

end PageMarkup.Brackets
