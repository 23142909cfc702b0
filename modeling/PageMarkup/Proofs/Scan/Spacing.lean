import PageMarkup.Proofs.Scan.Splitting
import PageMarkup.Proofs.Trim

/-!
# Other blanks between the same lexemes

The lexemes of a source can be written with other blanks around them. Between two lexemes at least
one blank is needed, since some of them only end at a blank; any blank will do, as every lexeme
allows one behind it. At the ends of a source blanks are cut off with all other white space, and
nothing else is cut off: a lexeme that begins or ends a source does so with no white space.
-/

namespace PageMarkup

/-- Only the white space around a text is cut off. -/
theorem Text.trim_append {lead text tail : List Char} (hlead : lead.all isBlank = true)
    (htail : tail.all isBlank = true) (htext : text ≠ [])
    (hfirst : text.head?.all (!isBlank ·) = true) (hlast : text.getLast?.all (!isBlank ·) = true) :
    trim (lead ++ (text ++ tail)) = text := by
  have hrest : (text ++ tail).head?.all (!isBlank ·) = true := by
    obtain ⟨c, more, rfl⟩ := List.exists_cons_of_ne_nil htext
    exact hfirst
  have hreverse : (text ++ tail).reverse.dropWhile isBlank = text.reverse := by
    rw [List.reverse_append]
    refine dropWhile_run ?_ ?_
    · rwa [List.all_reverse]
    · rwa [List.head?_reverse]
  rw [trim, dropWhile_run hlead hrest, hreverse, List.reverse_reverse]

/-- What is read of a source begins and ends with no white space and has no carriage returns. -/
theorem Source.stream?_eq_some {source : String} {stream : List Char}
    (h : stream? source = some stream) :
    stream ≠ [] ∧ '\r' ∉ stream ∧ stream.head?.all (!Text.isBlank ·) = true ∧
      stream.getLast?.all (!Text.isBlank ·) = true := by
  have hstream : stream = normalize source ∧ stream ≠ [] := by
    unfold stream? at h
    split at h
    · cases h
    · next c rest heq =>
      cases h
      exact ⟨heq.symm, List.cons_ne_nil c rest⟩
  obtain ⟨-, -, -, -, -, hfirst, hlast⟩ := Text.exists_eq_append_trim source.toList
  -- The outer characters are no white space, so no carriage returns.
  have hkeeps : ∀ c, Text.isBlank c = false → (c != '\r') = true := by
    intro c hc
    by_cases hreturn : c = '\r'
    · subst hreturn
      cases hc
    · simpa using hreturn
  refine ⟨hstream.2, ?_, ?_, ?_⟩
  · rw [hstream.1, normalize]
    simp
  · rw [hstream.1, normalize, List.head?_filter]
    cases htrim : Text.trim source.toList with
    | nil => rfl
    | cons c more =>
      have hc : Text.isBlank c = false := by simpa [htrim] using hfirst
      simp [hkeeps c hc, hc]
  · rw [hstream.1, normalize, ← List.head?_reverse, ← List.filter_reverse, List.head?_filter]
    rw [← List.head?_reverse] at hlast
    cases htrim : (Text.trim source.toList).reverse with
    | nil => rfl
    | cons c more =>
      have hc : Text.isBlank c = false := by simpa [htrim] using hlast
      simp [hkeeps c hc, hc]

/-- A source is read as it stands without the white space around it, if this has no carriage
returns. -/
theorem Source.stream?_of_trim {source : String} {text : List Char}
    (htrim : Text.trim source.toList = text) (htext : text ≠ []) (hreturns : '\r' ∉ text) :
    stream? source = some text := by
  have hnormal : normalize source = text := by
    rw [normalize, htrim, List.filter_eq_self]
    intro c hc
    simpa using fun heq : c = '\r' => hreturns (heq ▸ hc)
  obtain ⟨c, rest, rfl⟩ := List.exists_cons_of_ne_nil htext
  rw [stream?, hnormal]

namespace Scan

/-- The blanks between tokens are white space. -/
theorem isBlank_of_isGap {c : Char} (h : isGap c = true) : Text.isBlank c = true := by
  simp only [isGap, Bool.or_eq_true, beq_iff_eq] at h
  obtain (rfl | rfl) | rfl := h <;> decide

/-- Gaps are white space. -/
theorem all_isBlank_of_all_isGap {gap : List Char} (h : gap.all isGap = true) :
    gap.all Text.isBlank = true :=
  List.all_eq_true.mpr fun c hc => isBlank_of_isGap (List.all_eq_true.mp h c hc)

/-- A text that begins with no white space begins with no gap. -/
theorem gap_eq_nil {gap rest : List Char} (hgap : gap.all isGap = true)
    (hfirst : (gap ++ rest).head?.all (!Text.isBlank ·) = true) : gap = [] := by
  cases gap with
  | nil => rfl
  | cons c more =>
    have hc := (Bool.and_eq_true_iff.mp hgap).1
    simp [isBlank_of_isGap hc] at hfirst

/-- A blank may follow every lexeme, and so may the end. -/
theorem Lexeme.allows_of_isGap (lexeme : Lexeme) {next : Option Char}
    (hnext : next.all isGap = true) : lexeme.allows next = true := by
  cases next with
  | none => exact lexeme.allows_none
  | some c =>
    have hgap : isGap c = true := hnext
    have hdigit : c.isDigit = false := by
      simp only [isGap, Bool.or_eq_true, beq_iff_eq] at hgap
      obtain (rfl | rfl) | rfl := hgap <;> decide
    unfold allows
    split <;> simp [endsWord, endsConstant, hgap, hdigit]

namespace Split

/-- Whether the gaps hold blanks only, and those before lexemes hold some. -/
def parted : Split → Bool
  | finish gap => gap.all isGap
  | next gap _ rest => !gap.isEmpty && gap.all isGap && rest.parted

/-- Whether the gaps hold blanks only, and those between two lexemes hold some. -/
def separated : Split → Bool
  | finish gap => gap.all isGap
  | next gap _ rest => gap.all isGap && rest.parted

/-- What follows a lexeme in such a split begins with a blank. -/
theorem all_head?_of_parted {split : Split} (h : split.parted = true) :
    split.text.head?.all isGap = true := by
  cases split with
  | finish gap =>
    rw [parted] at h
    cases gap with
    | nil => rfl
    | cons c more => exact (Bool.and_eq_true_iff.mp h).1
  | next gap lexeme rest =>
    simp only [parted, Bool.and_eq_true] at h
    cases gap with
    | nil => cases h.1.1
    | cons c more => exact (Bool.and_eq_true_iff.mp h.1.2).1

/-- Well-formed lexemes with blanks between them are a valid split. -/
theorem valid_of_parted {split : Split} (h : split.parted = true)
    (hforms : ∀ lexeme ∈ split.lexemes, lexeme.wellFormed = true) : split.valid = true := by
  induction split with
  | finish gap => exact h
  | next gap lexeme rest ih =>
    simp only [parted, Bool.and_eq_true] at h
    rw [lexemes, List.forall_mem_cons] at hforms
    have hallows := lexeme.allows_of_isGap (all_head?_of_parted h.2)
    simp [valid, h.1.2, hforms.1, hallows, ih h.2 hforms.2]

/-- The lexemes of a valid split are well formed. -/
theorem wellFormed_of_valid {split : Split} (h : split.valid = true) :
    ∀ lexeme ∈ split.lexemes, lexeme.wellFormed = true := by
  induction split with
  | finish gap => exact List.forall_mem_nil _
  | next gap lexeme rest ih =>
    simp only [valid, Bool.and_eq_true] at h
    exact List.forall_mem_cons.mpr ⟨h.1.1.2, ih h.2⟩

/-- The blanks before the first lexeme. -/
def firstGap : Split → List Char
  | finish gap => gap
  | next gap _ _ => gap

/-- The blanks behind the last lexeme. -/
def lastGap : Split → List Char
  | finish gap => gap
  | next _ _ rest => rest.lastGap

/-- The split without the blanks behind the last lexeme. -/
def flush : Split → Split
  | finish _ => finish []
  | next gap lexeme rest => next gap lexeme rest.flush

/-- The blanks behind the last lexeme end the text. -/
theorem text_eq_flush (split : Split) : split.text = split.flush.text ++ split.lastGap := by
  induction split with
  | finish gap => rfl
  | next gap lexeme rest ih => simp [text, flush, lastGap, ih]

theorem lexemes_flush (split : Split) : split.flush.lexemes = split.lexemes := by
  induction split with
  | finish gap => rfl
  | next gap lexeme rest ih => simp [flush, lexemes, ih]

theorem lastGap_flush (split : Split) : split.flush.lastGap = [] := by
  induction split with
  | finish gap => rfl
  | next gap lexeme rest ih => exact ih

/-- Without its last blanks a split is separated as before. -/
theorem parted_flush {split : Split} (h : split.parted = true) : split.flush.parted = true := by
  induction split with
  | finish gap => rfl
  | next gap lexeme rest ih =>
    simp only [parted, Bool.and_eq_true] at h
    simp [flush, parted, h.1, ih h.2]

/-- The split without the blanks around all lexemes. -/
def trimmed : Split → Split
  | finish _ => finish []
  | next _ lexeme rest => next [] lexeme rest.flush

theorem lexemes_trimmed (split : Split) : split.trimmed.lexemes = split.lexemes := by
  cases split with
  | finish gap => rfl
  | next gap lexeme rest => simp [trimmed, lexemes, rest.lexemes_flush]

/-- The blanks around all lexemes stand around the text of the other ones. -/
theorem text_eq_trimmed {split : Split} (h : split.lexemes ≠ []) :
    split.text = split.firstGap ++ (split.trimmed.text ++ split.lastGap) := by
  cases split with
  | finish gap => exact absurd rfl h
  | next gap lexeme rest => simp [text, firstGap, trimmed, lastGap, rest.text_eq_flush]

/-- Well-formed lexemes with blanks between them are a valid split without the blanks around
them. -/
theorem valid_trimmed {split : Split} (h : split.separated = true)
    (hforms : ∀ lexeme ∈ split.lexemes, lexeme.wellFormed = true) : split.trimmed.valid = true := by
  cases split with
  | finish gap => rfl
  | next gap lexeme rest =>
    simp only [separated, Bool.and_eq_true] at h
    rw [lexemes, List.forall_mem_cons] at hforms
    have hflush := parted_flush h.2
    have hallows := lexeme.allows_of_isGap (all_head?_of_parted hflush)
    have hrest := valid_of_parted hflush (by simpa [rest.lexemes_flush] using hforms.2)
    simp [trimmed, valid, hforms.1, hallows, hrest]

/-- The blanks around the lexemes of a separated split are blanks. -/
theorem all_gaps_of_separated {split : Split} (h : split.separated = true) :
    split.firstGap.all isGap = true ∧ split.lastGap.all isGap = true := by
  have hparted : ∀ split : Split, split.parted = true → split.lastGap.all isGap = true := by
    intro split
    induction split with
    | finish gap => exact id
    | next gap lexeme rest ih =>
      intro h
      simp only [parted, Bool.and_eq_true] at h
      exact ih h.2
  cases split with
  | finish gap => exact ⟨h, h⟩
  | next gap lexeme rest =>
    simp only [separated, Bool.and_eq_true] at h
    exact ⟨h.1, hparted rest h.2⟩

/-- The blanks around the lexemes of a valid split are blanks. -/
theorem all_gaps_of_valid {split : Split} (h : split.valid = true) :
    split.firstGap.all isGap = true ∧ split.lastGap.all isGap = true := by
  induction split with
  | finish gap => exact ⟨h, h⟩
  | next gap lexeme rest ih =>
    simp only [valid, Bool.and_eq_true] at h
    exact ⟨h.1.1.1, (ih h.2).2⟩

/-- The characters of lexemes are characters of the text. -/
theorem mem_text_of_mem_spelling {split : Split} {c : Char}
    (h : c ∈ split.lexemes.flatMap Lexeme.spelling) : c ∈ split.text := by
  induction split with
  | finish gap => cases h
  | next gap lexeme rest ih =>
    rw [lexemes, List.flatMap_cons, List.mem_append] at h
    rw [text, List.mem_append, List.mem_append]
    exact .inr (h.imp_right ih)

/-- The characters of a text are blanks or characters of lexemes. -/
theorem mem_spelling_of_mem_text {split : Split} (hvalid : split.valid = true) {c : Char}
    (h : c ∈ split.text) : isGap c = true ∨ c ∈ split.lexemes.flatMap Lexeme.spelling := by
  induction split with
  | finish gap => exact .inl (List.all_eq_true.mp hvalid c h)
  | next gap lexeme rest ih =>
    simp only [valid, Bool.and_eq_true] at hvalid
    rw [text, List.mem_append, List.mem_append] at h
    rw [lexemes, List.flatMap_cons, List.mem_append]
    rcases h with hgap | hspelling | hrest
    · exact .inl (List.all_eq_true.mp hvalid.1.1.1 c hgap)
    · exact .inr (.inl hspelling)
    · exact (ih hvalid.2 hrest).imp_right .inr

/-- A split with no blanks around all lexemes. -/
structure Tight (split : Split) : Prop where
  first : split.firstGap = []
  last : split.lastGap = []

namespace Tight

variable {split : Split}

theorem trimmed (split : Split) : split.trimmed.Tight := by
  cases split with
  | finish gap => exact ⟨rfl, rfl⟩
  | next gap lexeme rest => exact ⟨rfl, rest.lastGap_flush⟩

/-- A text that begins and ends with no white space begins and ends with a lexeme. -/
theorem of_text (hvalid : split.valid = true)
    (hfirst : split.text.head?.all (!Text.isBlank ·) = true)
    (hlast : split.text.getLast?.all (!Text.isBlank ·) = true) : split.Tight := by
  obtain ⟨hgap, htail⟩ := all_gaps_of_valid hvalid
  constructor
  · cases split with
    | finish gap =>
      rw [text, ← List.append_nil gap] at hfirst
      exact gap_eq_nil hgap hfirst
    | next gap lexeme rest => exact gap_eq_nil hgap hfirst
  · rw [split.text_eq_flush, List.getLast?_append] at hlast
    cases hend : split.lastGap.getLast? with
    | none => exact List.getLast?_eq_none_iff.mp hend
    | some c =>
      have hc := List.all_eq_true.mp htail c (List.mem_of_getLast? hend)
      simp [hend, isBlank_of_isGap hc] at hlast

/-- The first lexeme begins the text. -/
theorem head?_text (h : split.Tight)
    (hforms : ∀ lexeme ∈ split.lexemes, lexeme.wellFormed = true) :
    split.text.head? = (split.lexemes.flatMap Lexeme.spelling).head? := by
  obtain ⟨hfirst, -⟩ := h
  cases split with
  | finish gap =>
    rw [firstGap] at hfirst
    rw [text, hfirst]
    rfl
  | next gap lexeme rest =>
    rw [firstGap] at hfirst
    rw [lexemes, List.forall_mem_cons] at hforms
    obtain ⟨c, more, hspelling, -⟩ := Lexeme.exists_spelling_eq_cons hforms.1
    rw [text, hfirst, lexemes, List.flatMap_cons, hspelling]
    rfl

/-- The last lexeme ends the text. -/
theorem getLast?_text (h : split.Tight)
    (hforms : ∀ lexeme ∈ split.lexemes, lexeme.wellFormed = true) :
    split.text.getLast? = (split.lexemes.flatMap Lexeme.spelling).getLast? := by
  obtain ⟨-, hlast⟩ := h
  induction split with
  | finish gap =>
    rw [lastGap] at hlast
    rw [text, hlast]
    rfl
  | next gap lexeme rest ih =>
    rw [lexemes, List.forall_mem_cons] at hforms
    obtain ⟨c, more, hspelling, -⟩ := Lexeme.exists_spelling_eq_cons hforms.1
    have hsome : (lexeme.spelling ++ rest.text).getLast?.isSome = true := by simp [hspelling]
    rw [text, lexemes, List.flatMap_cons, List.getLast?_append, Option.or_of_isSome hsome,
      List.getLast?_append, List.getLast?_append, ih hforms.2 hlast]

end Tight

end Split

/-- A source with the lexemes of another one that is read, and blanks between them, is read with
these lexemes. -/
theorem exists_stream_of_separated {source : String} {stream : List Char} {scanned : Scanned}
    {split : Split} (hstream : Source.stream? source = some stream)
    (hscan : scan stream = .ok scanned) (hseparated : split.separated = true)
    (hlexemes : split.lexemes = scanned.tokens.map Token.lexeme) :
    ∃ respaced : Split, Source.stream? (String.ofList split.text) = some respaced.text ∧
      respaced.valid = true ∧ respaced.lexemes = split.lexemes := by
  obtain ⟨hnonempty, hreturns, hfirst, hlast⟩ := Source.stream?_eq_some hstream
  obtain ⟨written, hvalid, rfl⟩ := exists_spells_of_scan hscan
  have hsame : split.lexemes = written.lexemes := by
    rw [scan_of_spells ⟨hvalid, rfl⟩] at hscan
    cases hscan
    rw [hlexemes, written.map_lexeme_tokens]
  have hforms := Split.wellFormed_of_valid hvalid
  have htight := Split.Tight.of_text hvalid hfirst hlast
  have hrespaced : split.trimmed.valid = true := Split.valid_trimmed hseparated (hsame ▸ hforms)
  have htrimmed : split.trimmed.lexemes = written.lexemes := by
    rw [split.lexemes_trimmed, hsame]
  refine ⟨split.trimmed, ?_, hrespaced, split.lexemes_trimmed⟩
  -- The same lexemes begin and end both texts, so only blanks are cut off.
  have hhead : split.trimmed.text.head? = written.text.head? := by
    rw [(Split.Tight.trimmed split).head?_text (htrimmed ▸ hforms), htrimmed,
      htight.head?_text hforms]
  have hend : split.trimmed.text.getLast? = written.text.getLast? := by
    rw [(Split.Tight.trimmed split).getLast?_text (htrimmed ▸ hforms), htrimmed,
      htight.getLast?_text hforms]
  have htext : split.trimmed.text ≠ [] := by
    intro hempty
    rw [hempty, List.head?_nil, eq_comm, List.head?_eq_none_iff] at hhead
    exact hnonempty hhead
  have hsome : split.lexemes ≠ [] := by
    rintro hnone
    rw [htight.head?_text hforms, ← hsame, hnone, List.flatMap_nil] at hhead
    exact htext (List.head?_eq_none_iff.mp hhead)
  obtain ⟨hlead, htail⟩ := Split.all_gaps_of_separated hseparated
  refine Source.stream?_of_trim ?_ htext ?_
  · rw [String.toList_ofList, Split.text_eq_trimmed hsome]
    exact Text.trim_append (all_isBlank_of_all_isGap hlead) (all_isBlank_of_all_isGap htail) htext
      (hhead ▸ hfirst) (hend ▸ hlast)
  · intro hreturn
    rcases Split.mem_spelling_of_mem_text hrespaced hreturn with hblank | hspelling
    · exact absurd hblank (by decide)
    · rw [htrimmed] at hspelling
      exact hreturns (Split.mem_text_of_mem_spelling hspelling)

end Scan

end PageMarkup
