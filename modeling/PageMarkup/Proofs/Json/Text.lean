import PageMarkup.Proofs.Json.Grammar

/-!
# Reading texts

A text between quotation marks is read character by character, where an escape counts as the
character that it stands for. Every way to write a text that the grammar knows is read, and what is
read is written in one of these ways.
-/

namespace PageMarkup.Json.Value

/-- Reads the second half of a pair of code units. -/
def readLow (high : Nat) : List Char → Option (Char × List Char)
  | '\\' :: 'u' :: first :: second :: third :: fourth :: rest =>
    (codeUnit? first second third fourth).bind fun low =>
      if isLowSurrogate low then some (paired high low, rest) else none
  | _ => none

/-- Reads a character given by its code units, behind the first letter. -/
def readUnit : List Char → Option (Char × List Char)
  | first :: second :: third :: fourth :: rest =>
    (codeUnit? first second third fourth).bind fun unit =>
      if isHighSurrogate unit then readLow unit rest
      else if isLowSurrogate unit then none
      else some (Char.ofNat unit, rest)
  | _ => none

/-- Reads a character after a backslash. -/
def readEscape : List Char → Option (Char × List Char)
  | [] => none
  | letter :: rest =>
    if letter = 'u' then readUnit rest else (shortEscape? letter).map fun c => (c, rest)

/-- Reads a character inside quotation marks. -/
def readChar : List Char → Option (Char × List Char)
  | [] => none
  | c :: rest =>
    if c = '\\' then readEscape rest
    else if c = '"' ∨ c.toNat < 0x20 then none
    else some (c, rest)

/-- What is read as the second half of a pair is written as such. -/
theorem exists_of_readLow {high : Nat} {text rest : List Char} {c : Char}
    (h : readLow high text = some (c, rest)) :
    ∃ first second third fourth low,
      text = '\\' :: 'u' :: first :: second :: third :: fourth :: rest ∧
        codeUnit? first second third fourth = some low ∧ isLowSurrogate low = true ∧
          c = paired high low := by
  unfold readLow at h
  split at h
  · next first second third fourth more =>
    obtain ⟨low, hlow, hresult⟩ := Option.bind_eq_some_iff.mp h
    split at hresult
    · next hisLow =>
      simp only [Option.some.injEq, Prod.mk.injEq] at hresult
      obtain ⟨hc, hrest⟩ := hresult
      exact ⟨first, second, third, fourth, low, by rw [hrest], hlow, hisLow, hc.symm⟩
    · cases hresult
  · cases h

/-- What is read by code units is written by code units. -/
theorem exists_of_readUnit {text rest : List Char} {c : Char}
    (h : readUnit text = some (c, rest)) :
    ∃ spelling, text = spelling ++ rest ∧ SpellsChar ('\\' :: 'u' :: spelling) c := by
  unfold readUnit at h
  split at h
  · next first second third fourth more =>
    obtain ⟨unit, hunit, hresult⟩ := Option.bind_eq_some_iff.mp h
    split at hresult
    · next hhigh =>
      obtain ⟨fifth, sixth, seventh, eighth, low, hmore, hlow, hisLow, hc⟩ :=
        exists_of_readLow hresult
      refine ⟨[first, second, third, fourth, '\\', 'u', fifth, sixth, seventh, eighth], ?_, ?_⟩
      · rw [hmore]
        rfl
      · rw [hc]
        exact .pair hunit hlow hhigh hisLow
    · next hhigh =>
      split at hresult
      · cases hresult
      · next hlow =>
        cases hresult
        exact ⟨[first, second, third, fourth], rfl,
          .unit hunit (Bool.eq_false_iff.mpr hhigh) (Bool.eq_false_iff.mpr hlow)⟩
  · cases h

/-- What is read after a backslash is written as an escape. -/
theorem exists_of_readEscape {text rest : List Char} {c : Char}
    (h : readEscape text = some (c, rest)) :
    ∃ spelling, text = spelling ++ rest ∧ SpellsChar ('\\' :: spelling) c := by
  unfold readEscape at h
  split at h
  · cases h
  · next letter more =>
    split at h
    · next hletter =>
      obtain ⟨spelling, rfl, hspells⟩ := exists_of_readUnit h
      exact ⟨letter :: spelling, rfl, hletter ▸ hspells⟩
    · obtain ⟨escaped, hescaped, hresult⟩ := Option.map_eq_some_iff.mp h
      cases hresult
      exact ⟨[letter], rfl, .short hescaped⟩

/-- A character is read by one of the ways to write it. -/
theorem exists_of_readChar {text rest : List Char} {c : Char}
    (h : readChar text = some (c, rest)) :
    ∃ spelling, text = spelling ++ rest ∧ SpellsChar spelling c := by
  unfold readChar at h
  split at h
  · cases h
  · next d more =>
    split at h
    · next hbackslash =>
      obtain ⟨spelling, rfl, hspells⟩ := exists_of_readEscape h
      exact ⟨d :: spelling, rfl, hbackslash ▸ hspells⟩
    · next hbackslash =>
      split at h
      · cases h
      · next hplain =>
        rw [not_or] at hplain
        cases h
        exact ⟨[_], rfl, .plain hplain.1 hbackslash (by omega)⟩

/-- Every way to write a character is read. -/
theorem readChar_of_spellsChar {spelling : List Char} {c : Char} (h : SpellsChar spelling c)
    (rest : List Char) : readChar (spelling ++ rest) = some (c, rest) := by
  cases h with
  | plain hquote hbackslash hcontrol =>
    simp only [List.cons_append, List.nil_append, readChar, if_neg hbackslash]
    rw [if_neg]
    rintro (rfl | hlt)
    · exact hquote rfl
    · omega
  | @short letter _ hletter =>
    have hunit : letter ≠ 'u' := by
      rintro rfl
      cases hletter
    simp [readChar, readEscape, hunit, hletter]
  | unit hunit hhigh hlow =>
    simp [readChar, readEscape, readUnit, hunit, hhigh, hlow]
  | pair hhigh hlow hisHigh hisLow =>
    simp [readChar, readEscape, readUnit, readLow, hhigh, hlow, hisHigh, hisLow]

/-- A written character begins with no quotation mark. -/
theorem SpellsChar.exists_cons {spelling : List Char} {c : Char} (h : SpellsChar spelling c) :
    ∃ first rest, spelling = first :: rest ∧ first ≠ '"' := by
  cases h with
  | plain hquote hbackslash hcontrol => exact ⟨_, _, rfl, hquote⟩
  | short hletter => exact ⟨_, _, rfl, by decide⟩
  | unit hunit hhigh hlow => exact ⟨_, _, rfl, by decide⟩
  | pair hhigh hlow hisHigh hisLow => exact ⟨_, _, rfl, by decide⟩

/-- Reading a character makes the text shorter. -/
theorem length_lt_of_readChar {text rest : List Char} {c : Char}
    (h : readChar text = some (c, rest)) : rest.length < text.length := by
  obtain ⟨spelling, rfl, hspells⟩ := exists_of_readChar h
  obtain ⟨first, more, rfl, -⟩ := hspells.exists_cons
  simp only [List.cons_append, List.length_cons, List.length_append]
  omega

/-- Reads characters up to the closing quotation mark, which is used up. -/
def readChars (text : List Char) : Option (List Char × List Char) :=
  if text.head? = some '"' then some ([], text.tail)
  else
    match _hread : readChar text with
    | none => none
    | some (c, rest) => (readChars rest).map fun read => (c :: read.1, read.2)
termination_by text.length
decreasing_by exact length_lt_of_readChar _hread

/-- Every way to write characters is read. -/
theorem readChars_of_spellsChars {inside text : List Char} (h : SpellsChars inside text)
    (rest : List Char) : readChars (inside ++ '"' :: rest) = some (text, rest) := by
  induction h with
  | nil =>
    rw [readChars]
    rfl
  | @cons first more text c hfirst hmore ih =>
    have hread : readChar (first ++ (more ++ '"' :: rest)) = some (c, more ++ '"' :: rest) :=
      readChar_of_spellsChar hfirst _
    have hhead : (first ++ (more ++ '"' :: rest)).head? ≠ some '"' := by
      obtain ⟨d, others, rfl, hquote⟩ := hfirst.exists_cons
      simpa using hquote
    rw [List.append_assoc, readChars, if_neg hhead]
    split
    · next hnone => simp [hread] at hnone
    · next d others hsome =>
      rw [hread] at hsome
      cases hsome
      rw [ih]
      rfl

/-- What is read up to a quotation mark is written by the rules. -/
theorem exists_of_readChars {text rest read : List Char} (h : readChars text = some (read, rest)) :
    ∃ inside, text = inside ++ '"' :: rest ∧ SpellsChars inside read := by
  fun_induction readChars text generalizing read with
  | case1 text hhead =>
    obtain ⟨more, rfl⟩ := List.head?_eq_some_iff.mp hhead
    cases h
    exact ⟨[], rfl, .nil⟩
  | case2 text hhead hnone => cases h
  | case3 text hhead c more hread ih =>
    obtain ⟨⟨others, left⟩, hothers, hresult⟩ := Option.map_eq_some_iff.mp h
    cases hresult
    obtain ⟨spelling, rfl, hspells⟩ := exists_of_readChar hread
    obtain ⟨inside, rfl, hinside⟩ := ih hothers
    exact ⟨spelling ++ inside, by simp, .cons hspells hinside⟩

/-- Reads a text with its quotation marks. -/
def readText : List Char → Option (String × List Char)
  | [] => none
  | c :: rest =>
    if c = '"' then (readChars rest).map fun read => (String.ofList read.1, read.2) else none

/-- A text is read exactly if it is written by the rules. -/
theorem readText_eq_some_iff {text rest : List Char} {value : String} :
    readText text = some (value, rest) ↔
      ∃ spelling, text = spelling ++ rest ∧ SpellsText spelling value := by
  constructor
  · intro h
    unfold readText at h
    split at h
    · cases h
    · split at h
      · next hquote =>
        obtain ⟨⟨read, left⟩, hread, hresult⟩ := Option.map_eq_some_iff.mp h
        cases hresult
        obtain ⟨inside, rfl, hinside⟩ := exists_of_readChars hread
        exact ⟨'"' :: (inside ++ ['"']), by simp [hquote], .quoted hinside⟩
      · cases h
  · rintro ⟨spelling, rfl, hspells⟩
    cases hspells with
    | quoted hinside => simp [readText, readChars_of_spellsChars hinside]

end PageMarkup.Json.Value
