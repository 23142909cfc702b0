import PageMarkup.Proofs.Span
import PageMarkup.Report

/-!
# Lines and the characters in them

A line of a text is a part between line ends, and its number is one more than the number of line
ends before it. Every character but a line end stands in a line, and the position that is counted
while the text is read names this line and the place of the character in it. The lines that a report
looks up are the same, except for an empty one at the end, and the caret stands below the character.
-/

namespace PageMarkup

/-- The line of a text with the given number, counted from one: it has no line end in it, and it has
one before it and one behind it, unless the text begins or ends there. -/
structure IsLine (text : List Char) (number : Nat) (line : List Char) : Prop where
  /-- There is no line end in the line. -/
  whole : '\n' ∉ line
  /-- The line stands between line ends. -/
  between : ∃ before after, text = before ++ line ++ after ∧ number = before.count '\n' + 1 ∧
    (before = [] ∨ ∃ lead, before = lead ++ ['\n']) ∧ (after = [] ∨ ∃ rest, after = '\n' :: rest)

/-- What stands before a place in a text consists of whole lines and the beginning of one. -/
theorem exists_lead (before : List Char) :
    ∃ lead part, before = lead ++ part ∧ '\n' ∉ part ∧
      (lead = [] ∨ ∃ more, lead = more ++ ['\n']) := by
  induction before with
  | nil => exact ⟨[], [], rfl, List.not_mem_nil, .inl rfl⟩
  | cons c rest ih =>
    obtain ⟨lead, part, rfl, hpart, rfl | ⟨more, rfl⟩⟩ := ih
    · by_cases hend : c = '\n'
      · exact ⟨[c], part, rfl, hpart, .inr ⟨[], by simp [hend]⟩⟩
      · exact ⟨[], c :: part, rfl, by simp [hpart, Ne.symm hend], .inl rfl⟩
    · exact ⟨c :: more ++ ['\n'], part, rfl, hpart, .inr ⟨c :: more, rfl⟩⟩

/-- What stands behind a place in a text is the end of a line and whole lines. -/
theorem exists_rest (after : List Char) :
    ∃ part rest, after = part ++ rest ∧ '\n' ∉ part ∧
      (rest = [] ∨ ∃ more, rest = '\n' :: more) := by
  refine ⟨after.takeWhile (· != '\n'), after.dropWhile (· != '\n'),
    List.takeWhile_append_dropWhile.symm, ?_, ?_⟩
  · intro hmem
    have hall : (after.takeWhile (· != '\n')).all (· != '\n') = true := List.all_takeWhile
    simpa using List.all_eq_true.mp hall '\n' hmem
  · cases hrest : after.dropWhile (· != '\n') with
    | nil => exact .inl rfl
    | cons c more =>
      obtain rfl : c = '\n' := by simpa [hrest] using all_head?_dropWhile (· != '\n') after
      exact .inr ⟨more, rfl⟩

namespace Position

/-- Within a line the column counts the characters. -/
theorem after_of_not_mem {text : List Char} (h : '\n' ∉ text) (position : Position) :
    position.after text = ⟨position.line, position.column + text.length⟩ := by
  induction text generalizing position with
  | nil => rfl
  | cons c rest ih =>
    rw [List.mem_cons, not_or] at h
    rw [after_cons, ih h.2, next, if_neg (Ne.symm h.1)]
    simp [Nat.add_right_comm, Nat.add_assoc]

/-- The line counts the line ends. -/
theorem line_after (position : Position) (text : List Char) :
    (position.after text).line = position.line + text.count '\n' := by
  induction text generalizing position with
  | nil => rfl
  | cons c rest ih =>
    rw [after_cons, ih, next]
    split
    · next hend => simp [hend, Nat.add_right_comm, Nat.add_assoc]
    · next hend => simp [hend]

/-- Whole lines are followed by the first column of the next line. -/
theorem after_lead {lead : List Char} (h : lead = [] ∨ ∃ more, lead = more ++ ['\n']) :
    first.after lead = ⟨lead.count '\n' + 1, 1⟩ := by
  rcases h with rfl | ⟨more, rfl⟩
  · rfl
  · rw [after_append]
    simp [next, line_after, first, Nat.add_comm]

end Position

namespace Report

/-- There is always a part between line ends. -/
theorem segments_ne_nil (text : List Char) : segments text ≠ [] := by
  cases text with
  | nil => simp [segments]
  | cons c rest =>
    rw [segments]
    split
    · simp
    · split <;> simp

/-- A line end separates parts. -/
theorem segments_append (first second : List Char) :
    segments (first ++ '\n' :: second) = segments first ++ segments second := by
  induction first with
  | nil => simp [segments]
  | cons c rest ih =>
    rw [List.cons_append, segments, segments, ih]
    split
    · rfl
    · obtain ⟨segment, others, hrest⟩ := List.exists_cons_of_ne_nil (segments_ne_nil rest)
      rw [hrest]
      rfl

/-- A text without line ends is one part. -/
theorem segments_of_not_mem {line : List Char} (h : '\n' ∉ line) : segments line = [line] := by
  induction line with
  | nil => rfl
  | cons c rest ih =>
    rw [List.mem_cons, not_or] at h
    rw [segments, if_neg (Ne.symm h.1), ih h.2]

/-- There is one more part than there are line ends. -/
theorem length_segments (text : List Char) : (segments text).length = text.count '\n' + 1 := by
  induction text with
  | nil => rfl
  | cons c rest ih =>
    rw [segments]
    split
    · next hend => simp [hend, ih]
    · next hend =>
      obtain ⟨segment, others, hrest⟩ := List.exists_cons_of_ne_nil (segments_ne_nil rest)
      rw [hrest] at ih ⊢
      simpa [hend] using ih

/-- A line is the part with its number. -/
theorem getElem?_segments {text line : List Char} {number : Nat} (h : IsLine text number line) :
    (segments text)[number - 1]? = some line := by
  obtain ⟨before, after, rfl, rfl, hbefore, hafter⟩ := h.between
  have hline : (segments (line ++ after))[0]? = some line := by
    rcases hafter with rfl | ⟨rest, rfl⟩
    · rw [List.append_nil, segments_of_not_mem h.whole]
      rfl
    · rw [segments_append, segments_of_not_mem h.whole]
      rfl
  rw [Nat.add_sub_cancel, List.append_assoc]
  rcases hbefore with rfl | ⟨lead, rfl⟩
  · exact hline
  · have hcount : (lead ++ ['\n']).count '\n' = (segments lead).length := by
      simp [length_segments]
    rw [List.append_assoc, List.singleton_append, segments_append, hcount,
      List.getElem?_append_right (Nat.le_refl _), Nat.sub_self]
    exact hline

/-- Only an empty part at the end is no line of a report. -/
theorem getElem?_lines {text line : List Char} {index : Nat}
    (h : (segments text)[index]? = some line) (hline : line ≠ []) :
    (lines text)[index]? = some line := by
  unfold lines
  split
  · next hlast =>
    rw [List.getElem?_dropLast, if_pos, h]
    -- The last part is empty, so the line is not the last one.
    obtain ⟨hindex, -⟩ := List.getElem?_eq_some_iff.mp h
    rw [List.getLast?_eq_getElem?] at hlast
    have hne : index ≠ (segments text).length - 1 := by
      rintro rfl
      rw [hlast] at h
      exact hline (Option.some.inj h).symm
    omega
  · exact h

/-- A position names a character of a text: the line is one that a report finds, and the character
stands in it at the column. -/
structure PointsAt (text : List Char) (position : Position) (line : List Char) (c : Char) :
    Prop where
  /-- The report finds the line. -/
  found : (lines text)[position.line - 1]? = some line
  /-- It is the line of the text with this number. -/
  isLine : IsLine text position.line line
  /-- Columns are counted from one. -/
  column_pos : 1 ≤ position.column
  /-- The column lies in the line. -/
  column_le : position.column ≤ line.length
  /-- The character stands there. -/
  character : (line)[position.column - 1]? = some c

/-- The position behind what stands before a character names this character. -/
theorem exists_pointsAt (before : List Char) {c : Char} (hc : c ≠ '\n') (after : List Char) :
    ∃ line, PointsAt (before ++ c :: after) (Position.first.after before) line c := by
  obtain ⟨lead, start, rfl, hstart, hlead⟩ := exists_lead before
  obtain ⟨ending, rest, rfl, hending, hrest⟩ := exists_rest after
  have hposition : Position.first.after (lead ++ start) =
      ⟨lead.count '\n' + 1, start.length + 1⟩ := by
    rw [Position.after_append, Position.after_lead hlead, Position.after_of_not_mem hstart,
      Nat.add_comm 1]
  have hline : IsLine (lead ++ start ++ c :: (ending ++ rest)) (lead.count '\n' + 1)
      (start ++ c :: ending) :=
    ⟨by simp [hstart, hending, Ne.symm hc], lead, rest, by simp, rfl, hlead, hrest⟩
  rw [hposition]
  exact
    ⟨start ++ c :: ending,
      { found := getElem?_lines (getElem?_segments hline) (by simp)
        isLine := hline
        column_pos := Nat.le_add_left 1 _
        column_le := by simp
        character := by simp }⟩

/-- A line with a caret at the given column, below another line: it reaches to the caret, and before
the caret it has a tab where the other line has one, and else spaces. -/
structure CaretBelow (line : List Char) (column : Nat) (below : List Char) : Prop where
  length_eq : below.length = column
  last : below.getLast? = some '^'
  blanks : ∀ index, index + 1 < column →
    below[index]? = some (if (line)[index]? = some '\t' then '\t' else ' ')

/-- The caret line puts a caret below any column of a line. -/
theorem caretBelow_caretLine {line : List Char} {column : Nat} (hpos : 1 ≤ column)
    (hle : column ≤ line.length) : CaretBelow line column (caretLine line column) := by
  have hblanks : (line.take (column - 1)).length = column - 1 := by
    rw [List.length_take]
    omega
  have hline : caretLine line column =
      (line.take (column - 1)).map (fun c => if c = '\t' then '\t' else ' ') ++ ['^'] := by
    rw [caretLine, List.length_map, hblanks, Nat.sub_self, List.replicate_zero, List.append_nil]
  rw [hline]
  refine ⟨?_, by simp, ?_⟩
  · rw [List.length_append, List.length_map, hblanks, List.length_singleton]
    omega
  · intro index hindex
    have hshort : index < column - 1 := by omega
    have hlong : index < line.length := by omega
    rw [List.getElem?_append_left (by rw [List.length_map, hblanks]; exact hshort),
      List.getElem?_map, List.getElem?_take_of_lt hshort, List.getElem?_eq_getElem hlong]
    simp

end Report

end PageMarkup
