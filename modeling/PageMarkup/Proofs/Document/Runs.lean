import Mathlib.Data.List.Induction
import PageMarkup.Proofs.Document.Conservation

/-!
# Along the tokens

A fact about the builder after some tokens is proved along them: it holds before the first token,
and every token keeps it. What a document owes to single tokens is gathered along them in the same
way, where what is found at a token may depend on all the tokens before it, but not on the builder.
The dot that the builder remembers is of this kind: it is the last token and nothing else.
-/

namespace PageMarkup.Document

section Gather

variable {α : Type} {find : List Token → Token → List α}

/-- What is found at each of the tokens that follow the given ones, in order. -/
def gatherAfter (find : List Token → Token → List α) (before : List Token) : List Token → List α
  | [] => []
  | token :: rest => find before token ++ gatherAfter find (before ++ [token]) rest

/-- What is found at each token of a document, in order. -/
def gather (find : List Token → Token → List α) (tokens : List Token) : List α :=
  gatherAfter find [] tokens

/-- What is found along two lists of tokens one after the other. -/
theorem gatherAfter_append (before first second : List Token) :
    gatherAfter find before (first ++ second) =
      gatherAfter find before first ++ gatherAfter find (before ++ first) second := by
  induction first generalizing before with
  | nil => simp [gatherAfter]
  | cons token rest ih => simp [gatherAfter, ih]

/-- What is found before a token, at it and after it. -/
theorem gather_append_cons (before : List Token) (token : Token) (after : List Token) :
    gather find (before ++ token :: after) =
      gather find before ++ find before token ++ gatherAfter find (before ++ [token]) after := by
  rw [gather, gatherAfter_append, List.append_assoc]
  rfl

/-- What is found at one more token comes last. -/
theorem gather_concat (tokens : List Token) (token : Token) :
    gather find (tokens ++ [token]) = gather find tokens ++ find tokens token := by
  rw [gather_append_cons, gatherAfter, List.append_nil]

end Gather

/-- Whether the last of the tokens is a dot. -/
def endsInDot (tokens : List Token) : Bool := tokens.getLast?.any fun token => token.kind = .dot

/-- A dot is remembered exactly if it is the last token and a component is the innermost
construct. -/
theorem Situation.dotted_after (tokens : List Token) :
    (Situation.after {} tokens).dotted = true ↔
      endsInDot tokens = true ∧ (Situation.after {} tokens).contexts.head? = some .component := by
  obtain rfl | ⟨before, last, rfl⟩ := List.eq_nil_or_concat tokens
  · simp [after, endsInDot]
  rw [List.concat_eq_append]
  have hafter : Situation.after {} (before ++ [last]) =
      (Situation.after {} before).next last.kind := by
    simp [after]
  rw [hafter, endsInDot, List.getLast?_concat, Option.any_some, decide_eq_true_iff]
  cases hkind : last.kind with
  | dot => simp [next]
  | keyword | identifier | string | constant | decorator | declaration | squareOpen | squareClose
  | roundOpen | roundClose | colon | comma | integer => simp [next]

namespace Builder

variable {builder : Builder} {tokens : List Token}

/-- What holds before all tokens and is kept by every token holds after the tokens. -/
theorem run_induction {motive : List Token → Builder → Prop} (hempty : motive [] {})
    (hstep : ∀ {before : List Token} {builder next : Builder} {token : Token},
      Builder.run {} before = .ok builder → motive before builder →
      builder.accept token.kind token.text = .ok next → motive (before ++ [token]) next)
    (hrun : Builder.run {} tokens = .ok builder) : motive tokens builder := by
  induction tokens using List.reverseRecOn generalizing builder with
  | nil =>
    cases hrun
    exact hempty
  | append_singleton before token ih =>
    obtain ⟨middle, hbefore, hread⟩ := exists_of_run_concat hrun
    exact hstep hbefore (ih hbefore) (accept_of_read hread)

/-- The builder remembers a dot exactly if it is the last token and a component is the innermost
construct. -/
theorem dotted_iff (hrun : Builder.run {} tokens = .ok builder) :
    builder.dotted = true ↔
      endsInDot tokens = true ∧ builder.contexts.head? = some .component := by
  have hdotted := Situation.dotted_after tokens
  rw [← (tracked_of_run hrun).2] at hdotted
  exact hdotted

/-- Behind any other token no dot is remembered. -/
theorem dotted_eq_false (hrun : Builder.run {} tokens = .ok builder)
    (hdot : endsInDot tokens = false) : builder.dotted = false := by
  rw [Bool.eq_false_iff]
  intro hdotted
  rw [((dotted_iff hrun).mp hdotted).1] at hdot
  cases hdot

end Builder

end PageMarkup.Document
