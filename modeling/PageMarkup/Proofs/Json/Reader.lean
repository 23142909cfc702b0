import Mathlib.Data.List.Infix
import PageMarkup.Proofs.Json.Number
import PageMarkup.Proofs.Json.Text

/-!
# A reader for JSON

The reader goes through a text once, from left to right, and gives the value that the text denotes.
It reads exactly what the grammar allows: whatever the grammar derives it reads, with the value that
the grammar gives, and whatever it reads the grammar derives. So a text denotes at most one value.

Nested values are read with an allowance for the depth, which the length of the text bounds.
-/

namespace PageMarkup.Json.Value

/-- The text without the blanks that it begins with. -/
def skip (text : List Char) : List Char := text.dropWhile isBlank

/-- Reads a value that holds no other values, by its first character. -/
def readAtom (first : Char) (text : List Char) : Option (Value × List Char) :=
  if first = '"' then (readText text).map fun read => (.text read.1, read.2)
  else if first = 'n' then (['n', 'u', 'l', 'l'].isPrefixOf? text).map fun rest => (.null, rest)
  else if first = 't' then
    (['t', 'r', 'u', 'e'].isPrefixOf? text).map fun rest => (.boolean true, rest)
  else if first = 'f' then
    (['f', 'a', 'l', 's', 'e'].isPrefixOf? text).map fun rest => (.boolean false, rest)
  else (readNumeral text).map fun read => (read.1.value, read.2)

mutual

/-- Reads a value and the blanks before it. -/
def readValue : Nat → List Char → Option (Value × List Char)
  | 0, _ => none
  | depth + 1, input =>
    match skip input with
    | [] => none
    | first :: rest =>
      if first = '[' then
        if (skip rest).head? = some ']' then some (.array [], (skip rest).tail)
        else (readItems depth rest).map fun read => (.array read.1, read.2)
      else if first = '\x7b' then
        if (skip rest).head? = some '\x7d' then some (.object [], (skip rest).tail)
        else (readFields depth rest).map fun read => (.object read.1, read.2)
      else readAtom first (first :: rest)

/-- Reads the items of an array up to the closing bracket, which is used up. -/
def readItems : Nat → List Char → Option (List Value × List Char)
  | 0, _ => none
  | depth + 1, input =>
    (readValue depth input).bind fun item =>
      match skip item.2 with
      | ',' :: rest => (readItems depth rest).map fun read => (item.1 :: read.1, read.2)
      | ']' :: rest => some ([item.1], rest)
      | _ => none

/-- Reads the fields of an object up to the closing brace, which is used up. -/
def readFields : Nat → List Char → Option (List (String × Value) × List Char)
  | 0, _ => none
  | depth + 1, input =>
    (readText (skip input)).bind fun key =>
      match skip key.2 with
      | ':' :: inner =>
        (readValue depth inner).bind fun item =>
          match skip item.2 with
          | ',' :: rest =>
            (readFields depth rest).map fun read => ((key.1, item.1) :: read.1, read.2)
          | '\x7d' :: rest => some ([(key.1, item.1)], rest)
          | _ => none
      | _ => none

end

/-- The value that a text denotes. -/
def read? (text : List Char) : Option Value :=
  (readValue (2 * text.length + 1) text).bind fun read =>
    if skip read.2 = [] then some read.1 else none

/-- Behind the blanks at the beginning stands the rest of the text. -/
theorem exists_blanks (text : List Char) :
    ∃ blanks, blanks.all isBlank = true ∧ text = blanks ++ skip text :=
  ⟨text.takeWhile isBlank, List.all_takeWhile, List.takeWhile_append_dropWhile.symm⟩

/-- Blanks are skipped up to the first other character. -/
theorem skip_append {blanks : List Char} (hblanks : blanks.all isBlank = true) {c : Char}
    (hc : isBlank c = false) (rest : List Char) : skip (blanks ++ c :: rest) = c :: rest :=
  dropWhile_run hblanks (by simp [hc])

/-- Blanks alone are skipped altogether. -/
theorem skip_eq_nil_iff {text : List Char} : skip text = [] ↔ text.all isBlank = true := by
  constructor
  · intro h
    obtain ⟨blanks, hblanks, htext⟩ := exists_blanks text
    rw [htext, h, List.append_nil]
    exact hblanks
  · intro h
    have hdrop : (text ++ []).dropWhile isBlank = [] := dropWhile_run h rfl
    rwa [List.append_nil] at hdrop

/-- A number begins with a minus sign or a digit. -/
theorem Numeral.exists_cons {numeral : Numeral} (hform : numeral.wellFormed = true) :
    ∃ first rest, numeral.spelling = first :: rest ∧ (first = '-' ∨ first.isDigit = true) := by
  obtain ⟨negative, whole, fraction, power⟩ := numeral
  simp only [wellFormed, Bool.and_eq_true] at hform
  cases negative with
  | true => exact ⟨_, _, rfl, .inl rfl⟩
  | false =>
    obtain _ | ⟨c, more⟩ := whole
    · cases hform.1.1.1
    have hdigit : c.isDigit = true := by simp_all [areDigits]
    exact ⟨_, _, rfl, .inr hdigit⟩

/-- What begins a number begins nothing else, and is no blank. -/
theorem ne_of_begins_numeral {first : Char} (h : first = '-' ∨ first.isDigit = true) {c : Char}
    (hminus : c ≠ '-') (hdigit : c.isDigit = false) : first ≠ c := by
  rintro rfl
  rcases h with rfl | h
  · exact hminus rfl
  · simp [hdigit] at h

/-- A value begins with a character that is neither a blank nor a closing bracket. -/
theorem Spells.exists_cons {spelling : List Char} {value : Value} (h : Spells spelling value) :
    ∃ first rest, spelling = first :: rest ∧ isBlank first = false ∧ first ≠ ']' := by
  cases h with
  | number hform =>
    obtain ⟨first, rest, hspelling, hbegins⟩ := Numeral.exists_cons hform
    refine ⟨first, rest, hspelling, ?_, ne_of_begins_numeral hbegins (by decide) (by decide)⟩
    simp [isBlank, ne_of_begins_numeral hbegins]
  | text hspells =>
    cases hspells with
    | quoted hinside => exact ⟨_, _, rfl, by decide, by decide⟩
  | null | isTrue | isFalse | emptyArray hblanks | array hitems | emptyObject hblanks
  | object hfields => exact ⟨_, _, rfl, by decide, by decide⟩

/-- Blanks and then something that can stand behind a value can stand behind a value. -/
theorem all_endsValue_append {blanks : List Char} (hblanks : blanks.all isBlank = true) {c : Char}
    (hc : endsValue c = true) (rest : List Char) :
    (blanks ++ c :: rest).head?.all endsValue = true := by
  cases blanks with
  | nil => simpa using hc
  | cons d more =>
    have hd : isBlank d = true := by simp_all
    simp [endsValue, hd]

/-- A number is read as a value that holds no others. -/
theorem readAtom_numeral {numeral : Numeral} (hform : numeral.wellFormed = true)
    {first : Char} (hbegins : first = '-' ∨ first.isDigit = true) {rest : List Char}
    (hrest : rest.head?.all endsValue = true) :
    readAtom first (numeral.spelling ++ rest) = some (numeral.value, rest) := by
  rw [readAtom, if_neg (ne_of_begins_numeral hbegins (by decide) (by decide)),
    if_neg (ne_of_begins_numeral hbegins (by decide) (by decide)),
    if_neg (ne_of_begins_numeral hbegins (by decide) (by decide)),
    if_neg (ne_of_begins_numeral hbegins (by decide) (by decide)),
    readNumeral_append hform hrest]
  rfl

/-- A text is read as a value that holds no others. -/
theorem readAtom_text {spelling : List Char} {text : String} (h : SpellsText spelling text)
    (rest : List Char) : readAtom '"' (spelling ++ rest) = some (.text text, rest) := by
  have hread : readText (spelling ++ rest) = some (text, rest) :=
    readText_eq_some_iff.mpr ⟨spelling, rfl, h⟩
  rw [readAtom, if_pos rfl, hread]
  rfl

/-- Where a value begins, the blanks before it have been skipped. -/
theorem readValue_append {before : List Char} (hbefore : before.all isBlank = true) {first : Char}
    (hfirst : isBlank first = false) (depth : Nat) (rest : List Char) :
    readValue (depth + 1) (before ++ first :: rest) =
      if first = '[' then
        if (skip rest).head? = some ']' then some (.array [], (skip rest).tail)
        else (readItems depth rest).map fun read => (.array read.1, read.2)
      else if first = '\x7b' then
        if (skip rest).head? = some '\x7d' then some (.object [], (skip rest).tail)
        else (readFields depth rest).map fun read => (.object read.1, read.2)
      else readAtom first (first :: rest) := by
  rw [readValue, skip_append hbefore hfirst]

/-- Items begin with no closing bracket. -/
theorem SpellsItems.head?_skip {inside : List Char} {items : List Value}
    (h : SpellsItems inside items) (rest : List Char) :
    (skip (inside ++ rest)).head? ≠ some ']' := by
  cases h with
  | last hbefore hitem hafter =>
    obtain ⟨first, more, rfl, hblank, hbracket⟩ := hitem.exists_cons
    simp [skip_append hbefore hblank, hbracket]
  | next hbefore hitem hafter hrest =>
    obtain ⟨first, more, rfl, hblank, hbracket⟩ := hitem.exists_cons
    simp [skip_append hbefore hblank, hbracket]

/-- A written text begins with a quotation mark. -/
theorem SpellsText.exists_cons {spelling : List Char} {text : String}
    (h : SpellsText spelling text) : ∃ rest, spelling = '"' :: rest := by
  cases h with
  | quoted hinside => exact ⟨_, rfl⟩

/-- Fields begin with no closing brace. -/
theorem SpellsFields.head?_skip {inside : List Char} {fields : List (String × Value)}
    (h : SpellsFields inside fields) (rest : List Char) :
    (skip (inside ++ rest)).head? ≠ some '\x7d' := by
  have hquote : isBlank '"' = false := by decide
  cases h with
  | last hbefore hkey hgap hinner hitem hafter =>
    obtain ⟨more, rfl⟩ := hkey.exists_cons
    simp [skip_append hbefore hquote]
  | next hbefore hkey hgap hinner hitem hafter hrest =>
    obtain ⟨more, rfl⟩ := hkey.exists_cons
    simp [skip_append hbefore hquote]

/-- A value that holds no others is read by its first character. -/
theorem readValue_atom {before : List Char} (hbefore : before.all isBlank = true) {first : Char}
    (hfirst : isBlank first = false) (hbracket : first ≠ '[') (hbrace : first ≠ '\x7b')
    (depth : Nat) (rest : List Char) :
    readValue (depth + 1) (before ++ first :: rest) = readAtom first (first :: rest) := by
  rw [readValue_append hbefore hfirst, if_neg hbracket, if_neg hbrace]

/-- An array is read if its items are. -/
theorem readValue_array {before inside rest : List Char} (hbefore : before.all isBlank = true)
    {items : List Value} (hitems : SpellsItems inside items) {depth : Nat}
    (hread : readItems depth (inside ++ ']' :: rest) = some (items, rest)) :
    readValue (depth + 1) (before ++ ('[' :: (inside ++ [']']) ++ rest)) =
      some (.array items, rest) := by
  rw [List.cons_append, List.append_assoc, readValue_append hbefore (by decide), if_pos rfl,
    if_neg (hitems.head?_skip _)]
  exact congrArg (Option.map _) hread

/-- An object is read if its fields are. -/
theorem readValue_object {before inside rest : List Char} (hbefore : before.all isBlank = true)
    {fields : List (String × Value)} (hfields : SpellsFields inside fields) {depth : Nat}
    (hread : readFields depth (inside ++ '\x7d' :: rest) = some (fields, rest)) :
    readValue (depth + 1) (before ++ ('\x7b' :: (inside ++ ['\x7d']) ++ rest)) =
      some (.object fields, rest) := by
  rw [List.cons_append, List.append_assoc, readValue_append hbefore (by decide),
    if_neg (by decide), if_pos rfl, if_neg (hfields.head?_skip _)]
  exact congrArg (Option.map _) hread

/-- An array without items is read. -/
theorem readValue_emptyArray {before blanks : List Char} (hbefore : before.all isBlank = true)
    (hblanks : blanks.all isBlank = true) (depth : Nat) (rest : List Char) :
    readValue (depth + 1) (before ++ ('[' :: (blanks ++ [']']) ++ rest)) =
      some (.array [], rest) := by
  have hskip : skip (blanks ++ ([']'] ++ rest)) = ']' :: rest :=
    skip_append hblanks (by decide) rest
  rw [List.cons_append, List.append_assoc, readValue_append hbefore (by decide), if_pos rfl, hskip]
  rfl

/-- An object without fields is read. -/
theorem readValue_emptyObject {before blanks : List Char} (hbefore : before.all isBlank = true)
    (hblanks : blanks.all isBlank = true) (depth : Nat) (rest : List Char) :
    readValue (depth + 1) (before ++ ('\x7b' :: (blanks ++ ['\x7d']) ++ rest)) =
      some (.object [], rest) := by
  have hskip : skip (blanks ++ (['\x7d'] ++ rest)) = '\x7d' :: rest :=
    skip_append hblanks (by decide) rest
  rw [List.cons_append, List.append_assoc, readValue_append hbefore (by decide),
    if_neg (by decide), if_pos rfl, hskip]
  rfl

/-- The last item is followed by the closing bracket. -/
theorem readItems_last {depth : Nat} {text after rest : List Char} {value : Value}
    (hread : readValue depth text = some (value, after ++ ']' :: rest))
    (hafter : after.all isBlank = true) : readItems (depth + 1) text = some ([value], rest) := by
  rw [readItems, hread, Option.bind_some, skip_append hafter (by decide)]
  rfl

/-- Any other item is followed by a comma. -/
theorem readItems_next {depth : Nat} {text after others rest : List Char} {value : Value}
    {values : List Value} (hread : readValue depth text = some (value, after ++ ',' :: others))
    (hafter : after.all isBlank = true) (hothers : readItems depth others = some (values, rest)) :
    readItems (depth + 1) text = some (value :: values, rest) := by
  rw [readItems, hread, Option.bind_some, skip_append hafter (by decide)]
  simp only [hothers]
  rfl

/-- A field is read by its key, and then its value. -/
theorem readFields_key {before key gap : List Char} {name : String}
    (hbefore : before.all isBlank = true) (hkey : SpellsText key name)
    (hgap : gap.all isBlank = true) (depth : Nat) (inner : List Char) :
    readFields (depth + 1) (before ++ (key ++ (gap ++ ':' :: inner))) =
      (readValue depth inner).bind fun item =>
        match skip item.2 with
        | ',' :: rest => (readFields depth rest).map fun read => ((name, item.1) :: read.1, read.2)
        | '\x7d' :: rest => some ([(name, item.1)], rest)
        | _ => none := by
  obtain ⟨more, rfl⟩ := hkey.exists_cons
  have hread : readText ('"' :: (more ++ (gap ++ ':' :: inner))) =
      some (name, gap ++ ':' :: inner) :=
    readText_eq_some_iff.mpr ⟨'"' :: more, rfl, hkey⟩
  rw [readFields, List.cons_append, skip_append hbefore (by decide), hread, Option.bind_some,
    skip_append hgap (by decide)]
  rfl

mutual

/-- Every way to write a value is read, with blanks before it. -/
theorem readValue_of_spells {spelling : List Char} {value : Value} (h : Spells spelling value)
    {depth : Nat} (hdepth : 2 * spelling.length < depth) {before rest : List Char}
    (hbefore : before.all isBlank = true) (hrest : rest.head?.all endsValue = true) :
    readValue depth (before ++ (spelling ++ rest)) = some (value, rest) := by
  obtain _ | depth := depth
  · omega
  match h with
  | .null => exact readValue_atom hbefore (by decide) (by decide) (by decide) depth _
  | .isTrue => exact readValue_atom hbefore (by decide) (by decide) (by decide) depth _
  | .isFalse => exact readValue_atom hbefore (by decide) (by decide) (by decide) depth _
  | .number hform =>
    obtain ⟨first, more, hspelling, hbegins⟩ := Numeral.exists_cons hform
    have hblank : isBlank first = false := by simp [isBlank, ne_of_begins_numeral hbegins]
    have hatom := readAtom_numeral hform hbegins hrest
    rw [hspelling] at hatom ⊢
    rw [← hatom]
    exact readValue_atom hbefore hblank (ne_of_begins_numeral hbegins (by decide) (by decide))
      (ne_of_begins_numeral hbegins (by decide) (by decide)) depth _
  | .text hspells =>
    have hatom := readAtom_text hspells rest
    obtain ⟨more, rfl⟩ := hspells.exists_cons
    rw [← hatom]
    exact readValue_atom hbefore (by decide) (by decide) (by decide) depth _
  | .emptyArray hblanks => exact readValue_emptyArray hbefore hblanks depth rest
  | .array hitems =>
    simp only [List.length_cons, List.length_append, List.length_nil] at hdepth
    exact readValue_array hbefore hitems (readItems_of_spells hitems (by omega) rest)
  | .emptyObject hblanks => exact readValue_emptyObject hbefore hblanks depth rest
  | .object hfields =>
    simp only [List.length_cons, List.length_append, List.length_nil] at hdepth
    exact readValue_object hbefore hfields (readFields_of_spells hfields (by omega) rest)

/-- Every way to write items is read. -/
theorem readItems_of_spells {inside : List Char} {items : List Value}
    (h : SpellsItems inside items) {depth : Nat} (hdepth : 2 * inside.length + 1 < depth)
    (rest : List Char) : readItems depth (inside ++ ']' :: rest) = some (items, rest) := by
  obtain _ | depth := depth
  · omega
  match h with
  | @SpellsItems.last before item after value hbefore hitem hafter =>
    simp only [List.length_append] at hdepth
    have hread : readValue depth (before ++ (item ++ (after ++ ']' :: rest))) =
        some (value, after ++ ']' :: rest) :=
      readValue_of_spells hitem (by omega) hbefore (all_endsValue_append hafter (by decide) rest)
    simp only [List.append_assoc]
    exact readItems_last hread hafter
  | @SpellsItems.next before item after others value values hbefore hitem hafter hothers =>
    simp only [List.length_append, List.length_cons] at hdepth
    have hread : readValue depth (before ++ (item ++ (after ++ ',' :: (others ++ ']' :: rest)))) =
        some (value, after ++ ',' :: (others ++ ']' :: rest)) :=
      readValue_of_spells hitem (by omega) hbefore (all_endsValue_append hafter (by decide) _)
    simp only [List.append_assoc, List.cons_append]
    exact readItems_next hread hafter (readItems_of_spells hothers (by omega) rest)

/-- Every way to write fields is read. -/
theorem readFields_of_spells {inside : List Char} {fields : List (String × Value)}
    (h : SpellsFields inside fields) {depth : Nat} (hdepth : 2 * inside.length + 1 < depth)
    (rest : List Char) : readFields depth (inside ++ '\x7d' :: rest) = some (fields, rest) := by
  obtain _ | depth := depth
  · omega
  match h with
  | @SpellsFields.last before key gap inner item after name value hbefore hkey hgap hinner hitem
      hafter =>
    simp only [List.length_append, List.length_cons] at hdepth
    have hread : readValue depth (inner ++ (item ++ (after ++ '\x7d' :: rest))) =
        some (value, after ++ '\x7d' :: rest) :=
      readValue_of_spells hitem (by omega) hinner (all_endsValue_append hafter (by decide) rest)
    simp only [List.append_assoc, List.cons_append]
    rw [readFields_key hbefore hkey hgap, hread, Option.bind_some, skip_append hafter (by decide)]
    rfl
  | @SpellsFields.next before key gap inner item after others name value fields hbefore hkey hgap
      hinner hitem hafter hothers =>
    simp only [List.length_append, List.length_cons] at hdepth
    have hread :
        readValue depth (inner ++ (item ++ (after ++ ',' :: (others ++ '\x7d' :: rest)))) =
          some (value, after ++ ',' :: (others ++ '\x7d' :: rest)) :=
      readValue_of_spells hitem (by omega) hinner (all_endsValue_append hafter (by decide) _)
    have hreadOthers : readFields depth (others ++ '\x7d' :: rest) = some (fields, rest) :=
      readFields_of_spells hothers (by omega) rest
    simp only [List.append_assoc, List.cons_append]
    rw [readFields_key hbefore hkey hgap, hread, Option.bind_some, skip_append hafter (by decide)]
    simp only [hreadOthers]
    rfl

end

/-- What is read as a value that holds no others is written by the rules. -/
theorem exists_of_readAtom {first : Char} {text rest : List Char} {value : Value}
    (h : readAtom first text = some (value, rest)) :
    ∃ spelling, text = spelling ++ rest ∧ Spells spelling value := by
  unfold readAtom at h
  split at h
  · obtain ⟨⟨read, left⟩, hread, hresult⟩ := Option.map_eq_some_iff.mp h
    obtain ⟨spelling, htext, hspells⟩ := readText_eq_some_iff.mp hread
    cases hresult
    exact ⟨spelling, htext, .text hspells⟩
  split at h
  · obtain ⟨left, hread, hresult⟩ := Option.map_eq_some_iff.mp h
    cases hresult
    exact ⟨_, (List.isPrefixOf?_eq_some_iff_append_eq.mp hread).symm, .null⟩
  split at h
  · obtain ⟨left, hread, hresult⟩ := Option.map_eq_some_iff.mp h
    cases hresult
    exact ⟨_, (List.isPrefixOf?_eq_some_iff_append_eq.mp hread).symm, .isTrue⟩
  split at h
  · obtain ⟨left, hread, hresult⟩ := Option.map_eq_some_iff.mp h
    cases hresult
    exact ⟨_, (List.isPrefixOf?_eq_some_iff_append_eq.mp hread).symm, .isFalse⟩
  · obtain ⟨⟨numeral, left⟩, hread, hresult⟩ := Option.map_eq_some_iff.mp h
    obtain ⟨htext, hform⟩ := eq_of_readNumeral hread
    cases hresult
    exact ⟨_, htext, .number hform⟩

/-- What is read with the given allowance is written by the rules. -/
structure ReadsWritten (depth : Nat) : Prop where
  /-- Values, with the blanks before them. -/
  value : ∀ {text rest : List Char} {value : Value}, readValue depth text = some (value, rest) →
    ∃ before spelling, text = before ++ (spelling ++ rest) ∧ before.all isBlank = true ∧
      Spells spelling value
  /-- Items, up to the closing bracket. -/
  items : ∀ {text rest : List Char} {items : List Value},
    readItems depth text = some (items, rest) →
      ∃ inside, text = inside ++ ']' :: rest ∧ SpellsItems inside items
  /-- Fields, up to the closing brace. -/
  fields : ∀ {text rest : List Char} {fields : List (String × Value)},
    readFields depth text = some (fields, rest) →
      ∃ inside, text = inside ++ '\x7d' :: rest ∧ SpellsFields inside fields

namespace ReadsWritten

variable {depth : Nat} {text rest : List Char}

/-- A value is written by the rules if what it holds is. -/
theorem value_succ (h : ReadsWritten depth) {value : Value}
    (hread : readValue (depth + 1) text = some (value, rest)) :
    ∃ before spelling, text = before ++ (spelling ++ rest) ∧ before.all isBlank = true ∧
      Spells spelling value := by
  obtain ⟨before, hbefore, htext⟩ := exists_blanks text
  rw [readValue] at hread
  split at hread
  · cases hread
  · next first inside hskip =>
    rw [hskip] at htext
    split at hread
    · next hbracket =>
      subst hbracket
      split at hread
      · next hclose =>
        obtain ⟨blanks, hblanks, hinside⟩ := exists_blanks inside
        obtain ⟨left, hleft⟩ := List.head?_eq_some_iff.mp hclose
        rw [hleft] at hread hinside
        cases hread
        refine ⟨before, '[' :: (blanks ++ [']']), ?_, hbefore, .emptyArray hblanks⟩
        simp [htext, hinside]
      · obtain ⟨⟨items, left⟩, hitems, hresult⟩ := Option.map_eq_some_iff.mp hread
        obtain ⟨written, hwritten, hspells⟩ := h.items hitems
        cases hresult
        refine ⟨before, '[' :: (written ++ [']']), ?_, hbefore, .array hspells⟩
        simp [htext, hwritten]
    · split at hread
      · next hbrace =>
        subst hbrace
        split at hread
        · next hclose =>
          obtain ⟨blanks, hblanks, hinside⟩ := exists_blanks inside
          obtain ⟨left, hleft⟩ := List.head?_eq_some_iff.mp hclose
          rw [hleft] at hread hinside
          cases hread
          refine ⟨before, '\x7b' :: (blanks ++ ['\x7d']), ?_, hbefore, .emptyObject hblanks⟩
          simp [htext, hinside]
        · obtain ⟨⟨fields, left⟩, hfields, hresult⟩ := Option.map_eq_some_iff.mp hread
          obtain ⟨written, hwritten, hspells⟩ := h.fields hfields
          cases hresult
          refine ⟨before, '\x7b' :: (written ++ ['\x7d']), ?_, hbefore, .object hspells⟩
          simp [htext, hwritten]
      · obtain ⟨spelling, hspelling, hspells⟩ := exists_of_readAtom hread
        exact ⟨before, spelling, by rw [htext, hspelling], hbefore, hspells⟩

/-- Items are written by the rules if the first one and the others are. -/
theorem items_succ (h : ReadsWritten depth) {items : List Value}
    (hread : readItems (depth + 1) text = some (items, rest)) :
    ∃ inside, text = inside ++ ']' :: rest ∧ SpellsItems inside items := by
  rw [readItems] at hread
  obtain ⟨⟨value, behind⟩, hvalue, hread⟩ := Option.bind_eq_some_iff.mp hread
  obtain ⟨before, spelling, htext, hbefore, hspells⟩ := h.value hvalue
  obtain ⟨after, hafter, hbehind⟩ := exists_blanks behind
  dsimp only at hread
  split at hread
  · next others hskip =>
    obtain ⟨⟨values, left⟩, hothers, hresult⟩ := Option.map_eq_some_iff.mp hread
    obtain ⟨written, hwritten, hspellsOthers⟩ := h.items hothers
    cases hresult
    refine ⟨before ++ (spelling ++ (after ++ ',' :: written)), ?_,
      .next hbefore hspells hafter hspellsOthers⟩
    rw [htext, hbehind, hskip, hwritten]
    simp
  · next left hskip =>
    cases hread
    refine ⟨before ++ (spelling ++ after), ?_, .last hbefore hspells hafter⟩
    rw [htext, hbehind, hskip]
    simp
  · cases hread

/-- Fields are written by the rules if the first one and the others are. -/
theorem fields_succ (h : ReadsWritten depth) {fields : List (String × Value)}
    (hread : readFields (depth + 1) text = some (fields, rest)) :
    ∃ inside, text = inside ++ '\x7d' :: rest ∧ SpellsFields inside fields := by
  rw [readFields] at hread
  obtain ⟨before, hbefore, htext⟩ := exists_blanks text
  obtain ⟨⟨name, behindKey⟩, hname, hread⟩ := Option.bind_eq_some_iff.mp hread
  obtain ⟨key, hkeyText, hkey⟩ := readText_eq_some_iff.mp hname
  obtain ⟨gap, hgap, hbehindKey⟩ := exists_blanks behindKey
  dsimp only at hread
  split at hread
  · next behindColon hcolon =>
    obtain ⟨⟨value, behind⟩, hvalue, hread⟩ := Option.bind_eq_some_iff.mp hread
    obtain ⟨inner, spelling, hinnerText, hinner, hspells⟩ := h.value hvalue
    obtain ⟨after, hafter, hbehind⟩ := exists_blanks behind
    dsimp only at hread
    split at hread
    · next others hskip =>
      obtain ⟨⟨more, left⟩, hothers, hresult⟩ := Option.map_eq_some_iff.mp hread
      obtain ⟨written, hwritten, hspellsOthers⟩ := h.fields hothers
      cases hresult
      refine ⟨before ++ (key ++ (gap ++ ':' :: (inner ++ (spelling ++ (after ++ ',' :: written))))),
        ?_, .next hbefore hkey hgap hinner hspells hafter hspellsOthers⟩
      rw [htext, hkeyText, hbehindKey, hcolon, hinnerText, hbehind, hskip, hwritten]
      simp
    · next left hskip =>
      cases hread
      refine ⟨before ++ (key ++ (gap ++ ':' :: (inner ++ (spelling ++ after)))), ?_,
        .last hbefore hkey hgap hinner hspells hafter⟩
      rw [htext, hkeyText, hbehindKey, hcolon, hinnerText, hbehind, hskip]
      simp
    · cases hread
  · cases hread

end ReadsWritten

/-- Whatever is read is written by the rules, with any allowance for the depth. -/
theorem readsWritten (depth : Nat) : ReadsWritten depth := by
  induction depth with
  | zero =>
    refine ⟨?_, ?_, ?_⟩
    · intro text rest value h
      simp [readValue] at h
    · intro text rest items h
      simp [readItems] at h
    · intro text rest fields h
      simp [readFields] at h
  | succ depth ih => exact ⟨ih.value_succ, ih.items_succ, ih.fields_succ⟩

/-- The reader reads exactly what the grammar allows, with the value that the grammar gives. -/
theorem read?_eq_some_iff {text : List Char} {value : Value} :
    read? text = some value ↔ Denotes text value := by
  constructor
  · intro h
    rw [read?] at h
    obtain ⟨⟨read, rest⟩, hread, hresult⟩ := Option.bind_eq_some_iff.mp h
    dsimp only at hresult
    split at hresult
    · next hskip =>
      cases hresult
      obtain ⟨before, spelling, rfl, hbefore, hspells⟩ := (readsWritten _).value hread
      exact .intro hbefore hspells (skip_eq_nil_iff.mp hskip)
    · cases hresult
  · intro h
    cases h with
    | @intro before spelling after value hbefore hspells hafter =>
      have hbehind : after.head?.all endsValue = true := by
        cases after with
        | nil => rfl
        | cons c more => simp_all [endsValue]
      have hread : readValue (2 * (before ++ (spelling ++ after)).length + 1)
          (before ++ (spelling ++ after)) = some (value, after) := by
        refine readValue_of_spells hspells ?_ hbefore hbehind
        simp only [List.length_append]
        omega
      rw [read?, hread, Option.bind_some, if_pos (skip_eq_nil_iff.mpr hafter)]

/-- A text denotes at most one value. -/
theorem Denotes.unique {text : List Char} {first second : Value} (hfirst : Denotes text first)
    (hsecond : Denotes text second) : first = second := by
  rw [← read?_eq_some_iff] at hfirst hsecond
  rw [hfirst] at hsecond
  exact Option.some.inj hsecond

end PageMarkup.Json.Value
