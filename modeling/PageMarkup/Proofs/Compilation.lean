import PageMarkup.Command.Outcome
import PageMarkup.Proofs.Document.Conservation
import PageMarkup.Proofs.Trim

/-!
# The stages of a compilation

A compilation has one of four ends: the source is all white space, its characters are no tokens, its
tokens are no document, or it has a document. A check of the brackets can fail only in the last
case. Everything that is printed is made from a compilation that went well and was checked if need
be.
-/

namespace PageMarkup

/-- How a compilation can end. -/
theorem Compilation.result_cases (source : String) :
    (Source.normalize source = [] ∧ (ofSource source).result = .error .emptySource) ∨
    (∃ stop, Scan.scan (Source.normalize source) = .error stop ∧
      (ofSource source).result = .error (Scan.Fault.diagnostic stop.fault)) ∨
    ∃ scanned, Scan.scan (Source.normalize source) = .ok scanned ∧
      ((∃ fault, Document.ofTokens scanned.tokens = .error fault ∧
        (ofSource source).result = .error (Document.Fault.diagnostic fault)) ∨
      ∃ document, Document.ofTokens scanned.tokens = .ok document ∧
        (ofSource source).result = .ok ⟨scanned.tokens, document.stamped⟩) := by
  cases hnormal : Source.normalize source with
  | nil =>
    left
    rw [ofSource, Source.stream?, hnormal]
    exact ⟨rfl, rfl⟩
  | cons c rest =>
    right
    have hstream : ofSource source = ofStream (c :: rest) := by
      rw [ofSource, Source.stream?, hnormal]
    rw [hstream, ofStream]
    cases Scan.scan (c :: rest) with
    | error stop => exact .inl ⟨stop, rfl, rfl⟩
    | ok scanned =>
      refine .inr ⟨scanned, rfl, ?_⟩
      cases hread : Document.ofTokens scanned.tokens with
      | error fault => exact .inl ⟨fault, rfl, by simp [hread]⟩
      | ok document => exact .inr ⟨document, rfl, by simp [hread]⟩

/-- The compilation of a source, with its brackets checked if that is asked for. -/
def checked (checks : Bool) (source : String) : Except Diagnostic Compiled := do
  let compiled ← (Compilation.ofSource source).result
  if checks then compiled.check
  return compiled

/-- What a run prints is made from the checked compilation. -/
theorem Command.Options.compile_eq (options : Command.Options) (source : String) :
    options.compile source = checked options.checks source >>= options.emit := by
  rw [compile, checked]
  cases (Compilation.ofSource source).result with
  | error diagnostic => rfl
  | ok compiled =>
    cases options.checks with
    | false => rfl
    | true => cases hcheck : compiled.check <;> simp [hcheck, bind, Except.bind, pure, Except.pure]

/-- Why a source fails. -/
theorem checked_cases {checks : Bool} {source : String} {diagnostic : Diagnostic}
    (h : checked checks source = .error diagnostic) :
    (Source.normalize source = [] ∧ diagnostic = .emptySource) ∨
    (∃ stop, Scan.scan (Source.normalize source) = .error stop ∧
      diagnostic = Scan.Fault.diagnostic stop.fault) ∨
    ∃ scanned, Scan.scan (Source.normalize source) = .ok scanned ∧
      ((∃ fault, Document.ofTokens scanned.tokens = .error fault ∧
        diagnostic = Document.Fault.diagnostic fault) ∨
      ∃ fault, Brackets.check scanned.tokens = .error fault ∧
        diagnostic = Brackets.Fault.diagnostic fault) := by
  rw [checked] at h
  rcases Compilation.result_cases source with ⟨hempty, hresult⟩ | ⟨stop, hscan, hresult⟩ |
    ⟨scanned, hscan, ⟨fault, hread, hresult⟩ | ⟨document, hread, hresult⟩⟩
  · rw [hresult] at h
    cases h
    exact .inl ⟨hempty, rfl⟩
  · rw [hresult] at h
    cases h
    exact .inr (.inl ⟨stop, hscan, rfl⟩)
  · rw [hresult] at h
    cases h
    exact .inr (.inr ⟨scanned, hscan, .inl ⟨fault, hread, rfl⟩⟩)
  · refine .inr (.inr ⟨scanned, hscan, .inr ?_⟩)
    rw [hresult] at h
    cases checks with
    | false => cases h
    | true =>
      have hbind : (Compiled.check ⟨scanned.tokens, document.stamped⟩ >>= fun _ =>
        Except.ok (Compiled.mk scanned.tokens document.stamped)) = .error diagnostic := h
      rw [Compiled.check] at hbind
      cases hcheck : Brackets.check scanned.tokens with
      | ok _ =>
        rw [hcheck] at hbind
        cases hbind
      | error fault =>
        rw [hcheck] at hbind
        cases hbind
        exact ⟨fault, rfl, rfl⟩

end PageMarkup
