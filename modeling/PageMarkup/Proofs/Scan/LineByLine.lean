import PageMarkup.Proofs.Scan.Places
import PageMarkup.Proofs.Scan.Spacing

/-!
# Texts below each other

A line end behind a text ends the last token, as the end of the text does, and it leaves nothing
behind that the scanner remembers. So two texts with a line end between them are read like each of
them alone: the splits are put together, or the fault of the second one is found behind the split of
the first one. All that changes is how many lines stand above the second text.
-/

namespace PageMarkup

/-- The position the given number of lines further down. -/
def Position.lowered (lines : Nat) (position : Position) : Position :=
  ⟨position.line + lines, position.column⟩

/-- The token the given number of lines further down. -/
def Token.lowered (lines : Nat) (token : Token) : Token :=
  { token with position := token.position.lowered lines }

namespace Position

/-- A character moves every line alike. -/
theorem next_lowered (lines : Nat) (position : Position) (c : Char) :
    (position.lowered lines).next c = (position.next c).lowered lines := by
  unfold next
  split
  · simp [lowered, Nat.add_right_comm]
  · rfl

/-- A text moves every line alike. -/
theorem after_lowered (lines : Nat) (position : Position) (text : List Char) :
    (position.lowered lines).after text = (position.after text).lowered lines := by
  induction text generalizing position with
  | nil => rfl
  | cons c rest ih => rw [after_cons, after_cons, next_lowered, ih]

/-- Below a text and a line end the first position is as many lines further down. -/
theorem after_line (text : List Char) :
    first.after (text ++ ['\n']) = first.lowered (1 + text.count '\n') := by
  have hlead := after_lead (.inr ⟨text, rfl⟩ : text ++ ['\n'] = [] ∨ _)
  have hline : text.count '\n' + 1 + 1 = 1 + (1 + text.count '\n') := by omega
  rw [hlead, List.count_append, List.count_singleton_self, hline]
  rfl

end Position

namespace Scan

/-- A line end may follow every lexeme that the text may end with. -/
theorem Lexeme.allows_above {lexeme : Lexeme} {text : List Char}
    (h : lexeme.allows text.head? = true) (other : List Char) :
    lexeme.allows (text ++ '\n' :: other).head? = true := by
  cases text with
  | nil => exact lexeme.allows_of_isGap rfl
  | cons c rest => exact h

namespace Split

/-- The split with blanks in front of it. -/
def indented (gap : List Char) : Split → Split
  | finish own => finish (gap ++ own)
  | next own lexeme rest => next (gap ++ own) lexeme rest

/-- A split with another one below it, behind a line end. -/
def above : Split → Split → Split
  | finish gap, other => other.indented (gap ++ ['\n'])
  | next gap lexeme rest, other => next gap lexeme (rest.above other)

/-- Blanks in front of a split stand in front of its text. -/
theorem text_indented (gap : List Char) (split : Split) :
    (split.indented gap).text = gap ++ split.text := by
  cases split with
  | finish own => rfl
  | next own lexeme rest => simp [indented, text]

/-- The text of two splits below each other has a line end between theirs. -/
theorem text_above (split other : Split) :
    (split.above other).text = split.text ++ '\n' :: other.text := by
  induction split with
  | finish gap => simp [above, text_indented, text]
  | next gap lexeme rest ih => simp [above, text, ih]

/-- Blanks may stand in front of every split. -/
theorem valid_indented {gap : List Char} (hgap : gap.all isGap = true) {split : Split}
    (h : split.valid = true) : (split.indented gap).valid = true := by
  cases split with
  | finish own => simpa [indented, valid, hgap] using h
  | next own lexeme rest => simpa [indented, valid, hgap] using h

/-- Two splits below each other are a split. -/
theorem valid_above {split other : Split} (h : split.valid = true) (hother : other.valid = true) :
    (split.above other).valid = true := by
  induction split with
  | finish gap =>
    have hgap : gap.all isGap = true := h
    exact valid_indented (by simp [hgap, isGap]) hother
  | next gap lexeme rest ih =>
    simp only [valid, Bool.and_eq_true] at h
    obtain ⟨⟨⟨hgap, hform⟩, hallows⟩, hrest⟩ := h
    have hnext : lexeme.allows (rest.above other).text.head? = true := by
      rw [text_above]
      exact Lexeme.allows_above hallows _
    simp [above, valid, hgap, hform, hnext, ih hrest]

/-- Blanks in front of a split move its tokens. -/
theorem tokens_indented (gap : List Char) (split : Split) (position : Position) :
    (split.indented gap).tokens position = split.tokens (position.after gap) := by
  cases split with
  | finish own => rfl
  | next own lexeme rest => simp [indented, tokens, Position.after_append]

/-- The tokens of two splits below each other are those of the first one and those of the second one
behind its text and the line end. -/
theorem tokens_above (split other : Split) (position : Position) :
    (split.above other).tokens position =
      split.tokens position ++ other.tokens (position.after (split.text ++ ['\n'])) := by
  induction split generalizing position with
  | finish gap => exact tokens_indented _ other position
  | next gap lexeme rest ih => simp [above, tokens, text, ih, Position.after_append]

/-- The tokens of a split further down are its tokens, each as many lines further down. -/
theorem tokens_lowered (lines : Nat) (split : Split) (position : Position) :
    split.tokens (position.lowered lines) =
      (split.tokens position).map (Token.lowered lines) := by
  induction split generalizing position with
  | finish gap => rfl
  | next gap lexeme rest ih =>
    simp only [tokens, Position.after_lowered, ih, List.map_cons]
    rfl

end Split

namespace Stops

variable {text before : List Char} {fault : Fault}

/-- Blanks in front of a text stand before its fault. -/
theorem indented {gap : List Char} (hgap : gap.all isGap = true) (h : Stops text before fault) :
    Stops (gap ++ text) (gap ++ before) fault := by
  induction gap with
  | nil => exact h
  | cons c gap ih =>
    rw [List.all_cons, Bool.and_eq_true] at hgap
    exact (ih hgap.2).gap hgap.1

/-- Below a text with a split the fault is the same, and all of the text stands before it. -/
theorem lowered {split : Split} (hvalid : split.valid = true) (h : Stops text before fault) :
    Stops (split.text ++ '\n' :: text) (split.text ++ '\n' :: before) fault := by
  induction split with
  | finish gap => exact (h.gap rfl).indented hvalid
  | next gap lexeme rest ih =>
    simp only [Split.valid, Bool.and_eq_true] at hvalid
    obtain ⟨⟨⟨hgap, hform⟩, hallows⟩, hrest⟩ := hvalid
    have hstops := (ih hrest).lexeme hform (Lexeme.allows_above hallows text)
    simpa [Split.text] using hstops.indented hgap

end Stops

/-- A text that is read can stand above every other one. If the other one is read, its tokens follow
those of the first one, and if it has a fault, this is the fault of the whole, with the same wording
and in the same column; either way everything is lower by the lines of the first text. -/
theorem texts_are_read_line_by_line {text : List Char} {scanned : Scanned}
    (h : scan text = .ok scanned) (other : List Char) :
    (∀ below, scan other = .ok below →
      scan (text ++ '\n' :: other) =
        .ok ⟨scanned.tokens ++ below.tokens.map (Token.lowered (1 + text.count '\n')),
          1 + text.count '\n' + (1 + other.count '\n')⟩) ∧
    ∀ stop, scan other = .error stop →
      ∃ found, scan (text ++ '\n' :: other) = .error found ∧
        found.fault.value.message = stop.fault.value.message ∧
        found.fault.position.column = stop.fault.position.column ∧
        found.fault.position.line = stop.fault.position.line + (1 + text.count '\n') := by
  obtain ⟨split, hsplit⟩ := exists_spells_of_scan h
  rw [scan_of_spells hsplit] at h
  cases h
  obtain ⟨hvalid, rfl⟩ := hsplit
  constructor
  · intro below hbelow
    obtain ⟨next, hnext⟩ := exists_spells_of_scan hbelow
    rw [scan_of_spells hnext] at hbelow
    cases hbelow
    obtain ⟨hnext, rfl⟩ := hnext
    have hlines : (Position.first.after (split.text ++ '\n' :: next.text)).line =
        1 + split.text.count '\n' + (1 + next.text.count '\n') := by
      rw [← List.singleton_append, ← List.append_assoc, Position.after_append, Position.line_after,
        Position.after_line]
      change 1 + (1 + split.text.count '\n') + next.text.count '\n' = _
      omega
    rw [scan_of_spells ⟨Split.valid_above hvalid hnext, split.text_above next⟩, if_neg (by simp),
      Split.tokens_above, Position.after_line, Split.tokens_lowered, hlines]
  · intro stop hstop
    obtain ⟨before, fault, hstops, hfault⟩ := exists_stops_of_scan hstop
    obtain ⟨tokens, hscan⟩ := scan_of_stops (hstops.lowered hvalid)
    have hposition : Position.first.after (split.text ++ '\n' :: before) =
        (Position.first.after before).lowered (1 + split.text.count '\n') := by
      rw [← Position.after_lowered, ← Position.after_line, ← Position.after_append,
        List.append_assoc, List.singleton_append]
    rw [hfault]
    refine ⟨_, hscan, rfl, ?_, ?_⟩
    · rw [hposition]
      rfl
    · rw [hposition]
      rfl

/-- Below a bracket that waits for its follower, a quoted text with a line end in it and a refused
character are found where they stand, two lines further down. -/
theorem texts_below_open_bracket :
    scan ['A', '\n', '('] = .ok ⟨[⟨.keyword, "A", ⟨1, 1⟩⟩, ⟨.roundOpen, "(", ⟨2, 1⟩⟩], 2⟩ ∧
    scan ['A', '\n', '(', '\n', '"', '\n', '"', '$', 'b'] =
      .ok ⟨[⟨.keyword, "A", ⟨1, 1⟩⟩, ⟨.roundOpen, "(", ⟨2, 1⟩⟩, ⟨.string, "\n", ⟨3, 1⟩⟩,
        ⟨.constant, "b", ⟨4, 2⟩⟩], 4⟩ ∧
    ∃ found, scan ['A', '\n', '(', '\n', '$', 'b', ':'] = .error found ∧
      found.fault.value.message = (Fault.unexpected ':').message ∧
      found.fault.position.column = 3 ∧ found.fault.position.line = 3 := by
  let split : Split := .next [] ⟨.keyword, ['A']⟩ <| .next ['\n'] ⟨.roundOpen, ['(']⟩ <| .finish []
  let below : Split := .next [] ⟨.string, ['\n']⟩ <| .next [] ⟨.constant, ['b']⟩ <| .finish []
  have hscan := scan_of_spells (show split.Spells ['A', '\n', '('] from ⟨by decide, rfl⟩)
  have hbelow := scan_of_spells
    (show below.Spells ['"', '\n', '"', '$', 'b'] from ⟨by decide, rfl⟩)
  have hform : Lexeme.wellFormed ⟨.constant, ['b']⟩ = true := rfl
  have hstops : Stops ['$', 'b', ':'] ['$', 'b'] (.unexpected ':') :=
    .here (.follower (.inr (.inr rfl)) hform rfl rfl [])
  obtain ⟨tokens, hstop⟩ := scan_of_stops hstops
  exact ⟨hscan, (texts_are_read_line_by_line hscan _).1 _ hbelow,
    (texts_are_read_line_by_line hscan _).2 _ hstop⟩

end Scan

end PageMarkup
