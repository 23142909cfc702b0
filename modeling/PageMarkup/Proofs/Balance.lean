import PageMarkup.Proofs.Matching

/-!
# Balanced tokens

Tokens are balanced if they leave open just the brackets that were open before them, whichever these
are. Tokens that are no brackets are balanced, and so are balanced tokens one after the other and
balanced tokens between two brackets of one shape.
-/

namespace PageMarkup.Brackets

/-- The tokens leave open what was open before them. -/
def Balanced (tokens : List Token) : Prop := ∀ opened, opened? opened tokens = some opened

/-- A token that is no bracket. -/
def Plain (token : Token) : Prop := opens? token.kind = none ∧ closes? token.kind = none

/-- A token is no bracket if its kind is none. -/
theorem Plain.of_kind {token : Token} {kind : TokenKind} (hkind : token.kind = kind)
    (hopens : opens? kind = none) (hcloses : closes? kind = none) : Plain token := by
  subst hkind
  exact ⟨hopens, hcloses⟩

namespace Balanced

theorem nil : Balanced [] := fun _ => rfl

/-- Balanced tokens one after the other are balanced. -/
theorem append {first second : List Token} (hfirst : Balanced first)
    (hsecond : Balanced second) : Balanced (first ++ second) := by
  intro opened
  rw [opened?_append, hfirst, Option.bind_some, hsecond]

/-- A token that is no bracket changes nothing. -/
theorem cons {token : Token} {tokens : List Token} (htoken : Plain token)
    (htokens : Balanced tokens) : Balanced (token :: tokens) := by
  intro opened
  have hstep : step? opened token = some opened := by simp [step?, htoken.1, htoken.2]
  rw [opened?_cons, hstep, Option.bind_some, htokens]

/-- A bracket that opens and a bracket of its shape that closes enclose balanced tokens. -/
theorem enclose {shape : Shape} {opener closer : Token} {tokens : List Token}
    (hopener : opener.kind = opening shape) (htokens : Balanced tokens)
    (hcloser : closer.kind = closing shape) : Balanced (opener :: (tokens ++ [closer])) := by
  intro opened
  rw [opened?_cons, step?_of_opening hopener, Option.bind_some, opened?_concat, htokens,
    Option.bind_some, step?_of_closing hcloser]

/-- Balanced tokens pass the check. -/
theorem check_eq_ok {tokens : List Token} (htokens : Balanced tokens) :
    check tokens = .ok () :=
  check_eq_ok_iff.mpr (htokens [])

end Balanced

end PageMarkup.Brackets
