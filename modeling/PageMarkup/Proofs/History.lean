import PageMarkup.Proofs.Document.Conservation
import PageMarkup.Proofs.Scan.Places
import PageMarkup.Proofs.Scan.Spacing
import PageMarkup.Session

/-!
# Histories of a session

A session answers calls one after the other, and each may fail. However they go, what a session
holds fits together: the results of a stage are there only with those of the stages before it, and
they are the results for the source that is kept. A compilation forgets all calls before it, so the
answers since then are those of a new session.
-/

namespace PageMarkup

/-- A call of a session, with the time that it took. -/
inductive Call where
  | compile (source : String) (elapsed : Elapsed)
  | check
  | generate (target : String) (elapsed : Elapsed)

/-- The answer to a call. -/
inductive Reply where
  | document (result : Except Diagnostic Document)
  | verdict (result : Except Diagnostic Unit)
  | output (result : Except Diagnostic String)

namespace Call

/-- Whether the call compiles a source. -/
def isCompile : Call → Bool
  | compile _ _ => true
  | _ => false

/-- The call without the time that it took. -/
def timeless : Call → Call
  | compile source _ => compile source ⟨0, 0⟩
  | check => check
  | generate target _ => generate target ⟨0, 0⟩

/-- The last compilation and the calls after it, or all calls if nothing was compiled. -/
def sinceCompile : List Call → List Call
  | [] => []
  | call :: rest => if rest.any isCompile then sinceCompile rest else call :: rest

/-- A compilation is all that counts of the calls up to it; any other call counts with those that
counted before. -/
theorem sinceCompile_concat (calls : List Call) (call : Call) :
    sinceCompile (calls ++ [call]) =
      (if call.isCompile then [] else sinceCompile calls) ++ [call] := by
  induction calls with
  | nil => cases call <;> rfl
  | cons first rest ih =>
    have hany : (rest ++ [call]).any isCompile = (rest.any isCompile || call.isCompile) := by
      simp
    rw [List.cons_append, sinceCompile, ih, hany, sinceCompile]
    cases call.isCompile <;> cases rest.any isCompile <;> rfl

/-- Without a compilation all calls count. -/
theorem sinceCompile_of_any_eq_false {calls : List Call} (h : calls.any isCompile = false) :
    sinceCompile calls = calls := by
  cases calls with
  | nil => rfl
  | cons call rest =>
    rw [List.any_cons, Bool.or_eq_false_iff] at h
    rw [sinceCompile, h.2]
    rfl

end Call

/-- A document is the one that was read, and it says what it is and with what it was made. -/
structure Document.Stamped (read document : Document) : Prop where
  /-- The document is a program. -/
  label : document.label = some "Program"
  /-- The version of the compiler and the language are named, in this order and nothing else. -/
  metadata : document.metadata.entries =
    [("languageCompilerVersion", "0.3.0"), ("languageName", "Notescript")]
  /-- The configurations are those that were read. -/
  configurations : document.configurations = read.configurations
  /-- The references are those that were read. -/
  references : document.references = read.references
  /-- The nodes are those that were read. -/
  body : document.body = read.body

/-- A document that was read has no metadata before it is stamped, so the stamp is all it has. -/
theorem Document.stamped_of_ofTokens {tokens : List Token} {read : Document}
    (h : ofTokens tokens = .ok read) : Stamped read read.stamped := by
  obtain ⟨final, -, rfl⟩ := exists_run_of_ofTokens h
  exact ⟨rfl, rfl, rfl, rfl, rfl⟩

namespace Session

/-- A session with the given options before its first call. -/
def fresh (options : HtmlOptions) : Session := { options }

/-- Carries out a call. -/
def perform (session : Session) : Call → Reply × Session
  | .compile source elapsed =>
    let (result, next) := session.compile source elapsed
    (.document result, next)
  | .check => (.verdict session.check, session)
  | .generate target elapsed =>
    let (result, next) := session.generate target elapsed
    (.output result, next)

/-- The session after some calls. -/
def after (session : Session) (calls : List Call) : Session :=
  calls.foldl (fun current call => (current.perform call).2) session

/-- The session without the times that its calls took; that they were taken remains. -/
def timeless (session : Session) : Session :=
  { session with
    compilationTime := session.compilationTime.map fun _ => ⟨0, 0⟩
    generationTime := session.generationTime.map fun _ => ⟨0, 0⟩ }

/-- What is present in a session fits together, and it was made from the source that is kept. -/
structure Coherent (options : HtmlOptions) (session : Session) : Prop where
  /-- The options stay. -/
  options_eq : session.options = options
  /-- Tokens and document are kept together. -/
  tokens_iff : session.tokens.isSome ↔ session.document.isSome
  /-- The time of the compilation is kept with the document. -/
  compilationTime_iff : session.document.isSome ↔ session.compilationTime.isSome
  /-- A document was read from a stream. -/
  stream_of_document : session.document.isSome → session.stream.isSome
  /-- A stream was made from a source. -/
  source_of_stream : session.stream.isSome → session.source.isSome
  /-- Output was generated from a document. -/
  document_of_generationTime : session.generationTime.isSome → session.document.isSome
  /-- Lines are counted if there is a stream. -/
  lineCount_iff : session.lineCount ≠ 0 ↔ session.stream.isSome
  /-- The stream is that of the source. -/
  stream_eq : ∀ {stream}, session.stream = some stream →
    ∃ source, session.source = some source ∧ Source.stream? source = some stream
  /-- The stream can be read, with as many lines as are counted. -/
  lineCount_eq : ∀ {stream}, session.stream = some stream →
    ∃ scanned, Scan.scan stream = .ok scanned ∧ session.lineCount = scanned.lineCount
  /-- The tokens are those of the stream. -/
  tokens_eq : ∀ {tokens}, session.tokens = some tokens →
    ∃ stream scanned, session.stream = some stream ∧ Scan.scan stream = .ok scanned ∧
      tokens = scanned.tokens
  /-- The document is the one that the tokens denote, with its stamp. -/
  document_eq : ∀ {document}, session.document = some document →
    ∃ tokens read, session.tokens = some tokens ∧ Document.ofTokens tokens = .ok read ∧
      Document.Stamped read document

/-- What a compilation leaves behind: the source at most, or also the characters that were read, or
also the tokens and the document. -/
theorem compile_cases (session : Session) (source : String) (elapsed : Elapsed) :
    (∃ kept, (session.compile source elapsed).2 =
      { options := session.options, source := kept }) ∨
    ∃ stream scanned, Source.stream? source = some stream ∧ Scan.scan stream = .ok scanned ∧
      ((session.compile source elapsed).2 =
        { options := session.options
          source := some source
          stream := some stream
          lineCount := scanned.lineCount } ∨
      ∃ read, Document.ofTokens scanned.tokens = .ok read ∧
        (session.compile source elapsed).2 =
          { options := session.options
            source := some source
            stream := some stream
            lineCount := scanned.lineCount
            tokens := some scanned.tokens
            document := some read.stamped
            compilationTime := some elapsed }) := by
  rw [compile]
  split
  · exact .inl ⟨none, rfl⟩
  · rw [Compilation.ofSource]
    cases Source.stream? source with
    | none => exact .inl ⟨some source, rfl⟩
    | some stream =>
      dsimp only
      rw [Compilation.ofStream]
      cases hscan : Scan.scan stream with
      | error stop => exact .inl ⟨some source, rfl⟩
      | ok scanned =>
        refine .inr ⟨stream, scanned, rfl, hscan, ?_⟩
        dsimp only
        cases hread : Document.ofTokens scanned.tokens with
        | error fault => exact .inl rfl
        | ok read => exact .inr ⟨read, rfl, rfl⟩

/-- A generation that fails changes nothing, and one that goes well needs a document and keeps its
time. -/
theorem generate_cases (session : Session) (target : String) (elapsed : Elapsed) :
    (∃ diagnostic, session.generate target elapsed = (.error diagnostic, session)) ∨
    ∃ output, session.document.isSome ∧
      session.generate target elapsed =
        (.ok output, { session with generationTime := some elapsed }) := by
  rw [generate]
  cases session.document with
  | none => exact .inl ⟨_, rfl⟩
  | some document =>
    dsimp only
    cases document.generate session.options target with
    | error fault => exact .inl ⟨_, rfl⟩
    | ok output => exact .inr ⟨output, rfl, rfl⟩

/-- A generation that fails leaves the session as it was. -/
theorem eq_of_generate_error {session : Session} {target : String} {elapsed : Elapsed}
    {diagnostic : Diagnostic}
    (h : (session.perform (.generate target elapsed)).1 = .output (.error diagnostic)) :
    (session.perform (.generate target elapsed)).2 = session := by
  rcases session.generate_cases target elapsed with ⟨_, heq⟩ | ⟨output, -, heq⟩
  · rw [perform, heq]
  · rw [perform, heq] at h
    cases h

/-- A compilation does not depend on what the session holds. -/
theorem perform_of_isCompile {session other : Session} {call : Call}
    (hcall : call.isCompile = true) (hoptions : session.options = other.options) :
    session.perform call = other.perform call := by
  cases call with
  | compile source elapsed => rw [perform, perform, compile, compile, hoptions]
  | check => cases hcall
  | generate target elapsed => cases hcall

/-- No call looks at the times of earlier ones, or depends on its own. -/
theorem perform_timeless (session : Session) (call : Call) :
    session.timeless.perform call.timeless =
      ((session.perform call).1, (session.perform call).2.timeless) := by
  cases call with
  | compile source elapsed =>
    simp only [perform, Call.timeless, compile, timeless]
    split
    · rfl
    · cases (Compilation.ofSource source).result <;> rfl
  | check => rfl
  | generate target elapsed =>
    obtain ⟨options, _, _, _, _, document, _, _⟩ := session
    simp only [perform, Call.timeless, generate, timeless]
    cases document with
    | none => rfl
    | some document =>
      dsimp only
      cases document.generate options target <;> rfl

theorem coherent_fresh (options : HtmlOptions) : Coherent options (fresh options) := by
  constructor <;> simp [fresh]

/-- A compilation makes a session coherent. -/
theorem coherent_compile (session : Session) (source : String) (elapsed : Elapsed) :
    Coherent session.options (session.compile source elapsed).2 := by
  rcases session.compile_cases source elapsed with ⟨kept, hafter⟩ |
    ⟨stream, scanned, hstream, hscan, hrest⟩
  · rw [hafter]
    constructor <;> simp
  · -- A stream has a character, so at least one line is counted.
    have hlines : scanned.lineCount ≠ 0 := by
      rw [Scan.lineCount_of_scan hscan, if_neg (Source.stream?_eq_some hstream).1]
      omega
    rcases hrest with hafter | ⟨read, hread, hafter⟩
    · rw [hafter]
      constructor <;> simp [hlines, hstream, hscan]
    · have hstamped := Document.stamped_of_ofTokens hread
      rw [hafter]
      constructor <;> simp [hlines, hstream, hscan, hread, hstamped]

/-- A generation keeps a session coherent. -/
theorem Coherent.generate {options : HtmlOptions} {session : Session}
    (h : Coherent options session) (target : String) (elapsed : Elapsed) :
    Coherent options (session.generate target elapsed).2 := by
  rcases session.generate_cases target elapsed with ⟨diagnostic, heq⟩ | ⟨output, hdocument, heq⟩
  · rw [heq]
    exact h
  · rw [heq]
    exact { h with document_of_generationTime := fun _ => hdocument }

/-- Every call keeps a session coherent. -/
theorem Coherent.perform {options : HtmlOptions} {session : Session}
    (h : Coherent options session) (call : Call) : Coherent options (session.perform call).2 := by
  cases call with
  | compile source elapsed =>
    have hcoherent := session.coherent_compile source elapsed
    rw [h.options_eq] at hcoherent
    exact hcoherent
  | check => exact h
  | generate target elapsed => exact h.generate target elapsed

/-- Every history keeps a session coherent. -/
theorem Coherent.after {options : HtmlOptions} {session : Session}
    (h : Coherent options session) (calls : List Call) :
    Coherent options (session.after calls) := by
  induction calls generalizing session with
  | nil => exact h
  | cons call rest ih => exact ih (h.perform call)

/-- Whatever the times, the same calls lead to the same session, times aside. -/
theorem after_timeless (session : Session) (calls : List Call) :
    session.timeless.after (calls.map Call.timeless) = (session.after calls).timeless := by
  induction calls generalizing session with
  | nil => rfl
  | cons call rest ih =>
    have hstep := congrArg Prod.snd (session.perform_timeless call)
    rw [List.map_cons, after, List.foldl_cons, hstep]
    exact ih _

/-- The calls before a compilation leave no trace. -/
theorem after_sinceCompile_of_any {options : HtmlOptions} {session other : Session}
    {calls : List Call} (h : calls.any Call.isCompile = true) (hsession : Coherent options session)
    (hother : Coherent options other) :
    other.after (Call.sinceCompile calls) = session.after calls := by
  induction calls generalizing session with
  | nil => cases h
  | cons call rest ih =>
    rw [Call.sinceCompile]
    cases hrest : rest.any Call.isCompile with
    | true => exact ih hrest (hsession.perform call)
    | false =>
      have hcall : call.isCompile = true := by simpa [hrest] using h
      have hoptions := hother.options_eq.trans hsession.options_eq.symm
      have hstep := perform_of_isCompile hcall hoptions
      simp only [Bool.false_eq_true, if_false, after, List.foldl_cons, hstep]

/-- What counts of the calls leads a new session to where all of them lead it. -/
theorem after_sinceCompile (options : HtmlOptions) (calls : List Call) :
    (fresh options).after (Call.sinceCompile calls) = (fresh options).after calls := by
  cases h : calls.any Call.isCompile with
  | true => exact after_sinceCompile_of_any h (coherent_fresh options) (coherent_fresh options)
  | false => rw [Call.sinceCompile_of_any_eq_false h]

/-- Replaying what counts of the calls gives the same answer to the last one and leads to the same
session. -/
theorem perform_after_replay (options : HtmlOptions) (history : List Call) (call : Call) :
    ((fresh options).after
        (if call.isCompile then [] else Call.sinceCompile history)).perform call =
      ((fresh options).after history).perform call := by
  cases hcall : call.isCompile with
  | true =>
    have hhistory := (coherent_fresh options).after history
    exact perform_of_isCompile hcall hhistory.options_eq.symm
  | false =>
    have hreplay := after_sinceCompile options history
    rw [if_neg Bool.false_ne_true, hreplay]

/-- Calls that differ in their times only get the same answer to the last one and lead to the same
session, times aside. -/
theorem perform_after_retimed (session : Session) {calls retimed : List Call} {call last : Call}
    (hcalls : retimed.map Call.timeless = calls.map Call.timeless)
    (hlast : last.timeless = call.timeless) :
    ((session.after retimed).perform last).1 = ((session.after calls).perform call).1 ∧
      ((session.after retimed).perform last).2.timeless =
        ((session.after calls).perform call).2.timeless := by
  have hsession : (session.after retimed).timeless = (session.after calls).timeless := by
    rw [← after_timeless, hcalls, after_timeless]
  have hretimed := (session.after retimed).perform_timeless last
  rw [hsession, hlast, perform_timeless] at hretimed
  exact ⟨(Prod.mk.inj hretimed).1.symm, (Prod.mk.inj hretimed).2.symm⟩

/-- Whatever was called, a session fits together. The answer to a call and the session after it,
times aside, are those of a new session that gets only the last compilation and the calls since
then. A check and a generation that fails change nothing. -/
theorem histories_fit_and_replay (options : HtmlOptions) (history : List Call) (call : Call) :
    Coherent options ((fresh options).after history) ∧
    (∃ replayed, Call.sinceCompile (history ++ [call]) = replayed ++ [call] ∧
      ∀ again last, again.map Call.timeless = replayed.map Call.timeless →
        last.timeless = call.timeless →
        (((fresh options).after again).perform last).1 =
          (((fresh options).after history).perform call).1 ∧
        (((fresh options).after again).perform last).2.timeless =
          (((fresh options).after history).perform call).2.timeless) ∧
    (((fresh options).after history).perform .check).2 = (fresh options).after history ∧
    ∀ target elapsed diagnostic,
      (((fresh options).after history).perform (.generate target elapsed)).1 =
        .output (.error diagnostic) →
      (((fresh options).after history).perform (.generate target elapsed)).2 =
        (fresh options).after history := by
  refine ⟨(coherent_fresh options).after history, ?_, rfl, ?_⟩
  · refine ⟨_, Call.sinceCompile_concat history call, ?_⟩
    intro again last hagain hlast
    have hretimed := (fresh options).perform_after_retimed hagain hlast
    rw [perform_after_replay] at hretimed
    exact hretimed
  · intro target elapsed diagnostic hreply
    exact eq_of_generate_error hreply

/-- A compilation that fails, one that goes well, and a check. -/
def failedThenCompiled : List Call := [.compile "%" ⟨0, 5⟩, .compile "A" ⟨1, 0⟩, .check]

/-- After a compilation that fails and one that goes well, a generation fails for its target. It
leaves the document with its stamp there, and the second compilation alone leads to the same
answer. -/
theorem replay_of_failed_generation :
    (∃ document, ((fresh {}).after failedThenCompiled).document = some document ∧
      document.label = some "Program" ∧
      document.metadata.entries =
        [("languageCompilerVersion", "0.3.0"), ("languageName", "Notescript")] ∧
      document.body =
        [.component ⟨"PageWrapper", "div", [], ∅, ∅⟩ [.component ⟨"A", "div", [], ∅, ∅⟩ []]]) ∧
    (((fresh {}).after failedThenCompiled).perform (.generate "pdf" ⟨0, 7⟩)).1 =
      .output (.error (Target.Fault.diagnostic (.unsupported "pdf"))) ∧
    (((fresh {}).after failedThenCompiled).perform (.generate "pdf" ⟨0, 7⟩)).2 =
      (fresh {}).after failedThenCompiled ∧
    (((fresh {}).after [.compile "A" ⟨0, 2⟩, .check]).perform (.generate "pdf" ⟨3, 0⟩)).1 =
      .output (.error (Target.Fault.diagnostic (.unsupported "pdf"))) := by
  let split : Scan.Split := .next [] ⟨.keyword, ['A']⟩ <| .finish []
  have hscan := Scan.scan_of_spells (show split.Spells ['A'] from ⟨by decide, rfl⟩)
  have hnormal : Source.normalize "A" = ['A'] := by decide +kernel
  have hcompile (session : Session) (elapsed : Elapsed) :
      ∃ document, (session.compile "A" elapsed).2.document = some document ∧
        document.body =
          [.component ⟨"PageWrapper", "div", [], ∅, ∅⟩ [.component ⟨"A", "div", [], ∅, ∅⟩ []]] := by
    unfold compile
    rw [if_neg (by decide +kernel), Compilation.ofSource, Source.stream?, hnormal]
    dsimp only [Compilation.ofStream]
    rw [hscan]
    exact ⟨_, rfl, rfl⟩
  have htarget : Target.ofName "pdf" = .error (.unsupported "pdf") := by
    rw [Target.ofName, if_neg (by decide +kernel), if_neg (by decide +kernel)]
  obtain ⟨document, hdocument, hbody⟩ :=
    hcompile ((fresh {}).perform (.compile "%" ⟨0, 5⟩)).2 ⟨1, 0⟩
  have hkept : ((fresh {}).after failedThenCompiled).document = some document := hdocument
  have hreply : (((fresh {}).after failedThenCompiled).perform (.generate "pdf" ⟨0, 7⟩)).1 =
      .output (.error (Target.Fault.diagnostic (.unsupported "pdf"))) := by
    rw [perform, generate, hkept]
    dsimp only
    rw [Document.generate, htarget]
    rfl
  obtain ⟨hcoherent, ⟨replayed, hreplayed, hagain⟩, -, hunchanged⟩ :=
    histories_fit_and_replay {} failedThenCompiled (.generate "pdf" ⟨0, 7⟩)
  obtain ⟨_, _, -, -, hstamped⟩ := hcoherent.document_eq hkept
  obtain rfl : replayed = [.compile "A" ⟨1, 0⟩, .check] :=
    (List.append_cancel_right hreplayed).symm
  refine ⟨⟨document, hkept, hstamped.label, hstamped.metadata, hbody⟩, hreply,
    hunchanged _ _ _ hreply, ?_⟩
  rw [← hreply]
  exact (hagain [.compile "A" ⟨0, 2⟩, .check] (.generate "pdf" ⟨3, 0⟩) rfl rfl).1

end Session

end PageMarkup
