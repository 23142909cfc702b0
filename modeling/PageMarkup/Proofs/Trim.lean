import PageMarkup.Proofs.Span
import PageMarkup.Source

/-!
# White space around a text

Cutting off the white space around a text leaves what begins and ends with no white space, and only
white space is cut off. So nothing is left exactly if the text is all white space, and everything is
left if it begins and ends with none. As a carriage return is white space too, a source that is
normalised is empty exactly if it was all white space.
-/

namespace PageMarkup

namespace Text

/-- Only white space is cut off, and what is left begins and ends with none. -/
theorem exists_eq_append_trim (text : List Char) :
    ∃ lead tail, text = lead ++ (trim text ++ tail) ∧ lead.all isBlank = true ∧
      tail.all isBlank = true ∧ (trim text).head?.all (!isBlank ·) = true ∧
      (trim text).getLast?.all (!isBlank ·) = true := by
  let rest := text.dropWhile isBlank
  have hrest : trim text ++ (rest.reverse.takeWhile isBlank).reverse = rest := by
    rw [trim, ← List.reverse_append, List.takeWhile_append_dropWhile, List.reverse_reverse]
  refine ⟨text.takeWhile isBlank, (rest.reverse.takeWhile isBlank).reverse, ?_, List.all_takeWhile,
    ?_, ?_, ?_⟩
  · rw [hrest, List.takeWhile_append_dropWhile]
  · rw [List.all_reverse, List.all_takeWhile]
  · have hfirst : rest.head?.all (!isBlank ·) = true := all_head?_dropWhile isBlank text
    rw [← hrest] at hfirst
    cases htrim : trim text with
    | nil => rfl
    | cons c more => simpa [htrim] using hfirst
  · rw [trim, List.getLast?_reverse]
    exact all_head?_dropWhile isBlank rest.reverse

/-- Nothing is left of white space only. -/
theorem trim_eq_nil_iff {text : List Char} : trim text = [] ↔ ∀ c ∈ text, isBlank c = true := by
  obtain ⟨lead, tail, htext, hlead, htail, hfirst, -⟩ := exists_eq_append_trim text
  constructor
  · intro htrim
    rw [htrim, List.nil_append] at htext
    rw [htext, ← List.all_eq_true, List.all_append, hlead, htail]
    rfl
  · intro hblank
    cases htrim : trim text with
    | nil => rfl
    | cons c more =>
      have hc : isBlank c = true := hblank c (by rw [htext, htrim]; simp)
      simp [htrim, hc] at hfirst

/-- A text that begins and ends with no white space is left as it is. -/
theorem trim_eq_self {text : List Char} (hfirst : text.head?.all (!isBlank ·) = true)
    (hlast : text.getLast?.all (!isBlank ·) = true) : trim text = text := by
  have hleft : text.dropWhile isBlank = text := dropWhile_run List.all_nil hfirst
  have hright : text.reverse.dropWhile isBlank = text.reverse := by
    rw [← List.head?_reverse] at hlast
    exact dropWhile_run List.all_nil hlast
  rw [trim, hleft, hright, List.reverse_reverse]

end Text

/-- Nothing is left to read exactly if a source is all white space. -/
theorem Source.normalize_eq_nil_iff {source : String} :
    normalize source = [] ↔ ∀ c ∈ source.toList, Text.isBlank c = true := by
  rw [← Text.trim_eq_nil_iff, normalize, List.filter_eq_nil_iff]
  constructor
  · intro hreturns
    obtain ⟨-, -, -, -, -, hfirst, -⟩ := Text.exists_eq_append_trim source.toList
    cases htrim : Text.trim source.toList with
    | nil => rfl
    | cons c more =>
      -- The first character left would be a carriage return, which is white space.
      obtain rfl : c = '\r' := by simpa using hreturns c (by simp [htrim])
      rw [htrim, List.head?_cons] at hfirst
      exact absurd hfirst (by decide)
  · intro hempty
    simp [hempty]

end PageMarkup
