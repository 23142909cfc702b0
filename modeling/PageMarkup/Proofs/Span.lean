/-!
# Runs of a class of characters

The longest run of characters of a class at the beginning of a text is cut off by taking and
dropping them. What is left begins with no such character, and conversely a run with such a rest
behind it is the one that is cut off.
-/

namespace PageMarkup

variable {p : Char → Bool} {run rest : List Char}

/-- What is left behind a run does not begin with a character of the class. -/
theorem all_head?_dropWhile (p : Char → Bool) (text : List Char) :
    (text.dropWhile p).head?.all (!p ·) = true := by
  have hhead := List.head?_dropWhile_not p text
  cases hrest : (text.dropWhile p).head? with
  | none => rfl
  | some c => simpa [hrest] using hhead

/-- A run with no further character of the class behind it is the longest one. -/
theorem takeWhile_run (hrun : run.all p = true) (hrest : rest.head?.all (!p ·) = true) :
    (run ++ rest).takeWhile p = run := by
  rw [List.takeWhile_append_of_pos (List.all_eq_true.mp hrun)]
  cases rest with
  | nil => simp
  | cons c more =>
    have hc : p c = false := by simpa using hrest
    simp [hc]

/-- Dropping the longest run leaves what stands behind it. -/
theorem dropWhile_run (hrun : run.all p = true) (hrest : rest.head?.all (!p ·) = true) :
    (run ++ rest).dropWhile p = rest := by
  rw [List.dropWhile_append_of_pos (List.all_eq_true.mp hrun)]
  cases rest with
  | nil => simp
  | cons c more =>
    have hc : p c = false := by simpa using hrest
    simp [hc]

end PageMarkup
