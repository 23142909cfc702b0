import PageMarkup.Json
import PageMarkup.Proofs.Json.Grammar

/-!
# What is written denotes what was meant

A value in writing is written by the rules of the grammar, in either style and at every level. The
characters of a text are escaped where they have to be, a number has no leading zeros, and the
layout of a style consists of blanks alone.
-/

namespace PageMarkup.Json

mutual

/-- A value among all values of the format. -/
def value : Json → Value
  | text value => .text value
  | number value => .number value 0
  | array items => .array (valueAll items)
  | object fields => .object (valueFields fields)

/-- Values among all values of the format. -/
def valueAll : List Json → List Value
  | [] => []
  | item :: rest => item.value :: valueAll rest

/-- The fields of an object among all values of the format. -/
def valueFields : List (String × Json) → List (String × Value)
  | [] => []
  | (key, item) :: rest => (key, item.value) :: valueFields rest

end

/-- The space of a style is blank. -/
theorem Style.all_isBlank_space (style : Style) : style.space.toList.all Value.isBlank = true := by
  cases style with
  | compact => rfl
  | pretty => rfl

/-- A new line of a style is blank. -/
theorem Style.all_isBlank_newline (style : Style) (level : Nat) :
    (style.newline level).toList.all Value.isBlank = true := by
  cases style with
  | compact => rfl
  | pretty =>
    have hspaces : (List.replicate (2 * level) ' ').all Value.isBlank = true := by
      simp [Value.isBlank]
    have hbreak : Value.isBlank '\n' = true := by decide
    simp [newline, hspaces, hbreak]

/-- The code units of control characters are written with two zeros and two more digits. -/
theorem codeUnit?_control {unit : Nat} (h : unit < 0x20) :
    Value.codeUnit? '0' '0' (Nat.digitChar (unit / 16)) (Nat.digitChar (unit % 16)) =
      some unit := by
  revert unit
  decide

/-- A character is escaped by the rules. -/
theorem spellsChar_escaped (c : Char) : Value.SpellsChar (escaped c) c := by
  unfold escaped
  -- The seven characters with a letter of their own come first.
  iterate 7
    split
    · next h =>
      subst h
      exact .short rfl
  split
  · next hcontrol =>
    have hhigh : Value.isHighSurrogate c.toNat = false := by
      simp only [Value.isHighSurrogate, Bool.and_eq_false_iff, decide_eq_false_iff_not]
      omega
    have hlow : Value.isLowSurrogate c.toNat = false := by
      simp only [Value.isLowSurrogate, Bool.and_eq_false_iff, decide_eq_false_iff_not]
      omega
    have hspells := Value.SpellsChar.unit (codeUnit?_control hcontrol) hhigh hlow
    rwa [Char.ofNat_toNat] at hspells
  · next hquote hbackslash _ _ _ _ _ hcontrol =>
    exact .plain hquote hbackslash (by omega)

/-- The characters of a text are escaped by the rules. -/
theorem spellsChars_flatMap_escaped (text : List Char) :
    Value.SpellsChars (text.flatMap escaped) text := by
  induction text with
  | nil => exact .nil
  | cons c rest ih => exact .cons (spellsChar_escaped c) ih

/-- A text is quoted by the rules. -/
theorem spellsText_quote (text : String) : Value.SpellsText (quote text).toList text := by
  have hspells := Value.SpellsText.quoted (spellsChars_flatMap_escaped text.toList)
  rw [String.ofList_toList] at hspells
  simpa [quote] using hspells

/-- The digits of a number other than zero begin with no zero. -/
theorem head?_toDigits {number : Nat} (h : number ≠ 0) :
    (Nat.toDigits 10 number).head? ≠ some '0' := by
  induction number using Nat.strongRecOn with
  | ind number ih =>
    rw [Nat.toDigits_eq_if (by decide)]
    split
    · next hlt => simpa using h
    · next hle =>
      have hne : Nat.toDigits 10 (number / 10) ≠ [] :=
        List.ne_nil_of_length_pos Nat.length_toDigits_pos
      obtain ⟨first, rest, hdigits⟩ := List.exists_cons_of_ne_nil hne
      have hhead := ih (number / 10) (by omega) (by omega)
      rw [hdigits] at hhead ⊢
      exact hhead

/-- A number is written by the rules. -/
theorem spells_number (number : Nat) :
    Value.Spells (toString number).toList (.number number 0) := by
  let numeral : Value.Numeral := ⟨false, Nat.toDigits 10 number, none, none⟩
  have hdigits : Value.areDigits (Nat.toDigits 10 number) = true := by
    have hne : Nat.toDigits 10 number ≠ [] := List.ne_nil_of_length_pos Nat.length_toDigits_pos
    have hall : ∀ c ∈ Nat.toDigits 10 number, c.isDigit = true :=
      fun c hc => Nat.isDigit_of_mem_toDigits (by decide) (by decide) hc
    simp [Value.areDigits, hne, List.all_eq_true.mpr hall]
  have hzero : Nat.toDigits 10 number = ['0'] ∨ (Nat.toDigits 10 number).head? ≠ some '0' := by
    by_cases h : number = 0
    · subst h
      exact .inl rfl
    · exact .inr (head?_toDigits h)
  have hform : numeral.wellFormed = true := by
    simp [numeral, Value.Numeral.wellFormed, hdigits, hzero]
  have hspelling : numeral.spelling = (toString number).toList := by
    simp [numeral, Value.Numeral.spelling, Nat.repr_eq_ofList_toDigits]
  have hvalue : numeral.value = .number number 0 := by
    simp [numeral, Value.Numeral.value, Value.Numeral.mantissa, Value.Numeral.exponent,
      Value.ofDigits, Nat.ofDigitChars_ten_toDigits]
  rw [← hspelling, ← hvalue]
  exact .number hform

/-- No blanks are blank. -/
theorem all_isBlank_nil : ([] : List Char).all Value.isBlank = true := rfl

mutual

/-- A value in writing is written by the rules, at every level. -/
theorem spells_write (style : Style) :
    (json : Json) → ∀ level, Value.Spells (json.write style level).toList json.value
  | text value, _ => .text (spellsText_quote value)
  | number value, _ => spells_number value
  | array [], level => by
    have hspells : Value.Spells ('[' :: ([] ++ [']'])) (.array []) := .emptyArray rfl
    simpa [write, writeItems, value, valueAll] using hspells
  | array (item :: rest), level => by
    rw [write, value]
    split
    · have hitems := spellsItems_writeItems style (item :: rest) (List.cons_ne_nil item rest) level
        style.all_isBlank_space all_isBlank_nil all_isBlank_nil
      simpa using Value.Spells.array hitems
    · have hitems := spellsItems_writeItems style (item :: rest) (List.cons_ne_nil item rest)
        (level + 1) (style.all_isBlank_newline (level + 1)) (style.all_isBlank_newline (level + 1))
        (style.all_isBlank_newline level)
      simpa using Value.Spells.array hitems
  | object [], level => by
    have hspells : Value.Spells ('\x7b' :: ([] ++ ['\x7d'])) (.object []) := .emptyObject rfl
    simpa [write, value, valueFields] using hspells
  | object (field :: rest), level => by
    have hfields := spellsFields_writeFields style (field :: rest) (List.cons_ne_nil field rest)
      (level + 1) (style.all_isBlank_newline (level + 1)) (style.all_isBlank_newline level)
    simpa [write, value] using Value.Spells.object hfields

/-- Items in writing are written by the rules if their separator is a comma with blanks. -/
theorem spellsItems_writeItems (style : Style) :
    (items : List Json) → items ≠ [] → ∀ level {gap : String},
      gap.toList.all Value.isBlank = true → ∀ {before after : List Char},
        before.all Value.isBlank = true → after.all Value.isBlank = true →
          Value.SpellsItems
            (before ++ ((writeItems style level ("," ++ gap) items).toList ++ after))
            (valueAll items)
  | [], hitems, _, _, _, _, _, _, _ => absurd rfl hitems
  | [item], _, level, _, _, _, _, hbefore, hafter =>
    .last hbefore (spells_write style item level) hafter
  | item :: next :: rest, _, level, _, hgap, _, _, hbefore, hafter => by
    have hothers := spellsItems_writeItems style (next :: rest) (List.cons_ne_nil next rest) level
      hgap hgap hafter
    have hspells := Value.SpellsItems.next hbefore (spells_write style item level)
      all_isBlank_nil hothers
    simpa [writeItems, valueAll] using hspells

/-- Fields in writing are written by the rules. -/
theorem spellsFields_writeFields (style : Style) :
    (fields : List (String × Json)) → fields ≠ [] → ∀ level {before after : List Char},
      before.all Value.isBlank = true → after.all Value.isBlank = true →
        Value.SpellsFields (before ++ ((writeFields style level fields).toList ++ after))
          (valueFields fields)
  | [], hfields, _, _, _, _, _ => absurd rfl hfields
  | [(key, item)], _, level, _, _, hbefore, hafter => by
    have hspells := Value.SpellsFields.last hbefore (spellsText_quote key) all_isBlank_nil
      style.all_isBlank_space (spells_write style item level) hafter
    simpa [writeFields, valueFields] using hspells
  | (key, item) :: next :: rest, _, level, _, _, hbefore, hafter => by
    have hothers := spellsFields_writeFields style (next :: rest) (List.cons_ne_nil next rest)
      level (style.all_isBlank_newline level) hafter
    have hspells := Value.SpellsFields.next hbefore (spellsText_quote key) all_isBlank_nil
      style.all_isBlank_space (spells_write style item level) all_isBlank_nil hothers
    simpa [writeFields, valueFields] using hspells

end

/-- A whole value in writing denotes the value. -/
theorem denotes_render (style : Style) (json : Json) :
    Value.Denotes (json.render style).toList json.value := by
  have hdenotes := Value.Denotes.intro all_isBlank_nil (spells_write style json 0) all_isBlank_nil
  simpa [render] using hdenotes

end PageMarkup.Json
