import PageMarkup.Proofs.Lines
import PageMarkup.Proofs.Scan.Splitting

/-!
# Where tokens stand

A token that is read from a text is spelled in it at an offset, and its position is that of the
offset: the line counts the line ends before it, and the column the characters behind the last of
them. The spellings stand one behind the other, so the positions grow from token to token, also
across tokens that hold line ends themselves.
-/

namespace PageMarkup

namespace Position

/-- The order of reading: by lines, and within a line by columns. -/
def Before (position other : Position) : Prop :=
  position.line < other.line ∨ position.line = other.line ∧ position.column < other.column

theorem Before.trans {first second third : Position} (h : first.Before second)
    (h' : second.Before third) : first.Before third := by
  unfold Before at *
  omega

/-- A character moves the position on. -/
theorem before_next (position : Position) (c : Char) : position.Before (position.next c) := by
  unfold next
  split
  · exact .inl (Nat.lt_succ_self _)
  · exact .inr ⟨rfl, Nat.lt_succ_self _⟩

/-- A text that is not empty moves the position on. -/
theorem before_after (position : Position) {text : List Char} (h : text ≠ []) :
    position.Before (position.after text) := by
  induction text generalizing position with
  | nil => exact absurd rfl h
  | cons c rest ih =>
    rw [after_cons]
    cases rest with
    | nil => exact position.before_next c
    | cons d more => exact (position.before_next c).trans (ih _ (List.cons_ne_nil d more))

/-- The characters behind the last line end of a text, or all of them if there is none. -/
def lastLine (text : List Char) : List Char := (text.reverse.takeWhile (· != '\n')).reverse

/-- Whole lines before a text leave its last line as it is. -/
theorem lastLine_append {lead part : List Char} (hpart : '\n' ∉ part)
    (hlead : lead = [] ∨ ∃ more, lead = more ++ ['\n']) : lastLine (lead ++ part) = part := by
  have hrun : part.reverse.all (· != '\n') = true := by
    rw [List.all_reverse, List.all_eq_true]
    intro c hc
    simpa using fun heq : c = '\n' => hpart (heq ▸ hc)
  have hrest : lead.reverse.head?.all (!(· != '\n') ·) = true := by
    rcases hlead with rfl | ⟨more, rfl⟩
    · rfl
    · simp
  rw [lastLine, List.reverse_append, takeWhile_run hrun hrest, List.reverse_reverse]

/-- The position behind a text counts its line ends and the characters of its last line. -/
theorem first_after (text : List Char) :
    first.after text = ⟨1 + text.count '\n', 1 + (lastLine text).length⟩ := by
  obtain ⟨lead, part, rfl, hpart, hlead⟩ := exists_lead text
  have hcount : (lead ++ part).count '\n' = lead.count '\n' := by
    rw [List.count_append, List.count_eq_zero.mpr hpart, Nat.add_zero]
  rw [after_append, after_lead hlead, after_of_not_mem hpart, lastLine_append hpart hlead, hcount,
    Nat.add_comm (lead.count '\n')]

end Position

namespace Scan

/-- A token that stands at an offset of a text: it is spelled there, and its position is that of the
offset. -/
structure StandsAt (text : List Char) (offset : Nat) (token : Token) : Prop where
  /-- The text of the token belongs to its kind. -/
  wellFormed : token.lexeme.wellFormed = true
  /-- The token is spelled at the offset. -/
  spelled : token.lexeme.spelling <+: text.drop offset
  /-- The line counts the line ends before the offset. -/
  line : token.position.line = 1 + (text.take offset).count '\n'
  /-- The column counts the characters behind the last line end before the offset. -/
  column : token.position.column = 1 + (Position.lastLine (text.take offset)).length

namespace StandsAt

variable {text : List Char} {offset : Nat} {token : Token}

/-- Where a token stands, the text has a character. -/
theorem offset_lt (h : StandsAt text offset token) : offset < text.length := by
  obtain ⟨c, rest, hspelling, -⟩ := Lexeme.exists_spelling_eq_cons h.wellFormed
  have hlength := h.spelled.length_le
  rw [hspelling, List.length_cons, List.length_drop] at hlength
  omega

/-- The position of a token is reached by reading what stands before it. -/
theorem position_eq (h : StandsAt text offset token) :
    token.position = Position.first.after (text.take offset) := by
  rw [Position.first_after, ← h.line, ← h.column]

/-- Of two tokens the one with the smaller offset has the earlier position. -/
theorem before {later : Nat} {other : Token} (h : StandsAt text offset token)
    (hother : StandsAt text later other) (hlt : offset < later) :
    token.position.Before other.position := by
  have hlater := hother.offset_lt
  have hbetween := List.take_append_drop offset (text.take later)
  rw [List.take_take, Nat.min_eq_left (Nat.le_of_lt hlt)] at hbetween
  have hne : (text.take later).drop offset ≠ [] := by
    rw [ne_eq, List.drop_eq_nil_iff, List.length_take]
    omega
  rw [h.position_eq, hother.position_eq, ← hbetween, Position.after_append]
  exact Position.before_after _ hne

end StandsAt

namespace Split

/-- The tokens of a split with their offsets, for a split that stands behind the given text. -/
def places : Split → List Char → List (Nat × Token)
  | finish _, _ => []
  | next gap lexeme rest, before =>
    ((before ++ gap).length,
      ⟨lexeme.kind, String.ofList lexeme.text, Position.first.after (before ++ gap)⟩) ::
        rest.places (before ++ gap ++ lexeme.spelling)

/-- The places of a split are those of its tokens. -/
theorem map_snd_places (split : Split) (before : List Char) :
    (split.places before).map Prod.snd = split.tokens (Position.first.after before) := by
  induction split generalizing before with
  | finish gap => rfl
  | next gap lexeme rest ih => simp [places, tokens, ih, Position.after_append]

/-- Each token of a split stands at its offset. -/
theorem standsAt_places {split : Split} (hvalid : split.valid = true) {before : List Char}
    {place : Nat × Token} (hplace : place ∈ split.places before) :
    StandsAt (before ++ split.text) place.1 place.2 := by
  induction split generalizing before with
  | finish gap => cases hplace
  | next gap lexeme rest ih =>
    simp only [valid, Bool.and_eq_true] at hvalid
    have htext : before ++ (next gap lexeme rest).text =
        before ++ gap ++ (lexeme.spelling ++ rest.text) := by
      simp [text]
    rcases List.mem_cons.mp hplace with rfl | hrest
    · have hposition := Position.first_after (before ++ gap)
      rw [htext]
      refine ⟨?_, ?_, ?_, ?_⟩
      · simpa [Token.lexeme] using hvalid.1.1.2
      · rw [List.drop_left]
        exact ⟨rest.text, by simp [Token.lexeme]⟩
      · rw [List.take_left, hposition]
      · rw [List.take_left, hposition]
    · rw [htext, ← List.append_assoc]
      exact ih hvalid.2 hrest

/-- The tokens of a split stand behind the given text. -/
theorem length_le_of_mem_places {split : Split} {before : List Char} {place : Nat × Token}
    (hplace : place ∈ split.places before) : before.length ≤ place.1 := by
  induction split generalizing before with
  | finish gap => cases hplace
  | next gap lexeme rest ih =>
    rcases List.mem_cons.mp hplace with rfl | hrest
    · simp
    · have hle := ih hrest
      simp only [List.length_append] at hle
      omega

/-- The spelling of each token of a split ends before the next one begins. -/
theorem pairwise_places (split : Split) (before : List Char) :
    (split.places before).Pairwise fun place later =>
      place.1 + place.2.lexeme.spelling.length ≤ later.1 := by
  induction split generalizing before with
  | finish gap => exact .nil
  | next gap lexeme rest ih =>
    refine .cons ?_ (ih _)
    intro later hlater
    have hle := length_le_of_mem_places hlater
    rw [List.length_append] at hle
    simpa [Token.lexeme] using hle

end Split

/-- The number of lines is one more than that of the line ends, unless the text is empty. -/
theorem lineCount_of_scan {text : List Char} {scanned : Scanned} (h : scan text = .ok scanned) :
    scanned.lineCount = if text = [] then 0 else 1 + text.count '\n' := by
  obtain ⟨split, hsplit⟩ := exists_spells_of_scan h
  rw [scan_of_spells hsplit, Position.first_after] at h
  cases h
  rfl

/-- The tokens of a text stand at offsets of it, one for each token: there each is spelled, and its
position is that of the offset. The offsets grow, the spellings do not overlap, the positions grow
in the order of reading, and the lines are counted. -/
theorem tokens_stand_in_order {text : List Char} {scanned : Scanned}
    (h : scan text = .ok scanned) :
    (∃ places : List (Nat × Token), places.map Prod.snd = scanned.tokens ∧
      (∀ place ∈ places, StandsAt text place.1 place.2) ∧
      places.Pairwise fun place later =>
        place.1 < later.1 ∧ place.1 + place.2.lexeme.spelling.length ≤ later.1) ∧
    scanned.tokens.Pairwise (fun token later => token.position.Before later.position) ∧
    scanned.lineCount = if text = [] then 0 else 1 + text.count '\n' := by
  have hlines := lineCount_of_scan h
  obtain ⟨split, hvalid, rfl⟩ := exists_spells_of_scan h
  have htokens : (split.places []).map Prod.snd = scanned.tokens := by
    rw [scan_of_spells ⟨hvalid, rfl⟩] at h
    cases h
    exact split.map_snd_places []
  have hstands : ∀ place ∈ split.places [], StandsAt split.text place.1 place.2 :=
    fun place hplace => Split.standsAt_places hvalid hplace
  have horder : (split.places []).Pairwise fun place later =>
      place.1 < later.1 ∧ place.1 + place.2.lexeme.spelling.length ≤ later.1 := by
    refine (split.pairwise_places []).imp_of_mem fun {place later} hplace _ hle => ⟨?_, hle⟩
    obtain ⟨c, rest, hspelling, -⟩ :=
      Lexeme.exists_spelling_eq_cons (hstands place hplace).wellFormed
    rw [hspelling, List.length_cons] at hle
    omega
  refine ⟨⟨split.places [], htokens, hstands, horder⟩, ?_, hlines⟩
  rw [← htokens, List.pairwise_map]
  exact horder.imp_of_mem fun hplace hlater hlt =>
    (hstands _ hplace).before (hstands _ hlater) hlt.1

/-- A text with a line end in it moves the token behind it to the second line. -/
theorem tokens_around_line_end :
    scan ['"', '\n', '"', ' ', 'x'] =
      .ok ⟨[⟨.string, "\n", ⟨1, 1⟩⟩, ⟨.identifier, "x", ⟨2, 3⟩⟩], 2⟩ ∧
    ∃ places : List (Nat × Token),
      places.map Prod.snd = [⟨.string, "\n", ⟨1, 1⟩⟩, ⟨.identifier, "x", ⟨2, 3⟩⟩] ∧
      ∀ place ∈ places, StandsAt ['"', '\n', '"', ' ', 'x'] place.1 place.2 := by
  let split : Split :=
    .next [] ⟨.string, ['\n']⟩ <| .next [' '] ⟨.identifier, ['x']⟩ <| .finish []
  have hsplit : split.Spells ['"', '\n', '"', ' ', 'x'] := ⟨by decide, rfl⟩
  have hscan : scan ['"', '\n', '"', ' ', 'x'] =
      .ok ⟨[⟨.string, "\n", ⟨1, 1⟩⟩, ⟨.identifier, "x", ⟨2, 3⟩⟩], 2⟩ := scan_of_spells hsplit
  obtain ⟨⟨places, htokens, hstands, -⟩, -, -⟩ := tokens_stand_in_order hscan
  exact ⟨hscan, places, htokens, hstands⟩

end Scan

end PageMarkup
