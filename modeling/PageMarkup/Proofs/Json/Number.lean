import PageMarkup.Proofs.Json.Grammar
import PageMarkup.Proofs.Span

/-!
# Reading numbers

A number is read part by part: a sign, the whole part, a fraction and a power of ten. Digits are
read as far as they reach, so a number is read in full if something follows that belongs to no
number.
-/

namespace PageMarkup.Json.Value

/-- The characters that can stand behind a value. -/
def endsValue (c : Char) : Bool := isBlank c || c == ',' || c == ']' || c == '\x7d'

/-- Reads digits as far as they reach. -/
def readDigits (text : List Char) : Option (List Char × List Char) :=
  if (text.takeWhile Char.isDigit).isEmpty then none
  else some (text.takeWhile Char.isDigit, text.dropWhile Char.isDigit)

/-- Digits are read exactly if they stand there and no digit follows them. -/
theorem readDigits_eq_some_iff {text digits rest : List Char} :
    readDigits text = some (digits, rest) ↔
      text = digits ++ rest ∧ areDigits digits = true ∧ rest.head?.all (!·.isDigit) = true := by
  constructor
  · intro h
    unfold readDigits at h
    split at h
    · cases h
    · next hempty =>
      cases h
      refine ⟨List.takeWhile_append_dropWhile.symm, ?_, all_head?_dropWhile _ _⟩
      simp only [areDigits, List.all_takeWhile, Bool.and_true, Bool.not_eq_true']
      exact Bool.eq_false_iff.mpr hempty
  · rintro ⟨rfl, hdigits, hrest⟩
    rw [areDigits, Bool.and_eq_true, Bool.not_eq_true'] at hdigits
    rw [readDigits, takeWhile_run hdigits.2 hrest, dropWhile_run hdigits.2 hrest, hdigits.1]
    rfl

/-- Reads the fraction of a number, if there is one. -/
def readFraction (text : List Char) : Option (Option (List Char) × List Char) :=
  if text.head? = some '.' then
    (readDigits text.tail).map fun read => (some read.1, read.2)
  else some (none, text)

/-- A fraction that is read is written with a point. -/
theorem eq_of_readFraction {text rest : List Char} {fraction : Option (List Char)}
    (h : readFraction text = some (fraction, rest)) :
    text = fraction.elim [] ('.' :: ·) ++ rest ∧ fraction.all areDigits = true := by
  unfold readFraction at h
  split at h
  · next hpoint =>
    obtain ⟨more, rfl⟩ := List.head?_eq_some_iff.mp hpoint
    obtain ⟨⟨digits, left⟩, hread, hresult⟩ := Option.map_eq_some_iff.mp h
    obtain ⟨htext, hdigits, -⟩ := readDigits_eq_some_iff.mp hread
    cases hresult
    exact ⟨congrArg ('.' :: ·) htext, hdigits⟩
  · cases h
    exact ⟨rfl, rfl⟩

/-- A fraction is read if neither a point nor a digit follows it. -/
theorem readFraction_append {fraction : Option (List Char)} {rest : List Char}
    (hfraction : fraction.all areDigits = true) (hpoint : rest.head? ≠ some '.')
    (hdigit : rest.head?.all (!·.isDigit) = true) :
    readFraction (fraction.elim [] ('.' :: ·) ++ rest) = some (fraction, rest) := by
  cases fraction with
  | none => simp [readFraction, hpoint]
  | some digits =>
    have hread : readDigits (digits ++ rest) = some (digits, rest) :=
      readDigits_eq_some_iff.mpr ⟨rfl, hfraction, hdigit⟩
    simp [readFraction, hread]

/-- Reads the sign of a power, if there is one. -/
def readSign (text : List Char) : Option Char × List Char :=
  if text.head? = some '+' ∨ text.head? = some '-' then (text.head?, text.tail) else (none, text)

/-- A sign that is read is written. -/
theorem eq_of_readSign (text : List Char) :
    text = (readSign text).1.toList ++ (readSign text).2 ∧
      (readSign text).1.all (fun c => c == '+' || c == '-') = true := by
  unfold readSign
  split
  · next hsign =>
    rcases hsign with hsign | hsign
    · obtain ⟨more, rfl⟩ := List.head?_eq_some_iff.mp hsign
      exact ⟨rfl, rfl⟩
    · obtain ⟨more, rfl⟩ := List.head?_eq_some_iff.mp hsign
      exact ⟨rfl, rfl⟩
  · exact ⟨rfl, rfl⟩

/-- A sign is read if digits follow it. -/
theorem readSign_append {sign : Option Char} {digits : List Char}
    (hsign : sign.all (fun c => c == '+' || c == '-') = true) (hdigits : areDigits digits = true)
    (rest : List Char) :
    readSign (sign.toList ++ (digits ++ rest)) = (sign, digits ++ rest) := by
  cases sign with
  | none =>
    obtain _ | ⟨c, more⟩ := digits
    · cases hdigits
    have hdigit : c.isDigit = true := by simp_all [areDigits]
    have hplus : c ≠ '+' := by
      rintro rfl
      exact absurd hdigit (by decide)
    have hminus : c ≠ '-' := by
      rintro rfl
      exact absurd hdigit (by decide)
    simp [readSign, hplus, hminus]
  | some c =>
    have hc : c = '+' ∨ c = '-' := by simpa using hsign
    simp [readSign, hc]

/-- Reads the power of ten of a number, if there is one. -/
def readPower : List Char → Option (Option Power × List Char)
  | [] => some (none, [])
  | c :: rest =>
    if c = 'e' ∨ c = 'E' then
      (readDigits (readSign rest).2).map fun read =>
        (some ⟨c, (readSign rest).1, read.1⟩, read.2)
    else some (none, c :: rest)

/-- A power that is read is written by the rules. -/
theorem eq_of_readPower {text rest : List Char} {power : Option Power}
    (h : readPower text = some (power, rest)) :
    text = power.elim [] Power.spelling ++ rest ∧ power.all Power.wellFormed = true := by
  unfold readPower at h
  split at h
  · cases h
    exact ⟨rfl, rfl⟩
  · next c more =>
    split at h
    · next hletter =>
      obtain ⟨⟨digits, left⟩, hread, hresult⟩ := Option.map_eq_some_iff.mp h
      obtain ⟨htext, hdigits, -⟩ := readDigits_eq_some_iff.mp hread
      obtain ⟨hsigned, hsign⟩ := eq_of_readSign more
      cases hresult
      refine ⟨?_, ?_⟩
      · simp only [Option.elim_some, Power.spelling, List.cons_append, List.append_assoc]
        rw [← htext, ← hsigned]
      · simp [Power.wellFormed, hletter, hsign, hdigits]
    · cases h
      exact ⟨rfl, rfl⟩

/-- A power is read if neither its letter nor a digit follows it. -/
theorem readPower_append {power : Option Power} {rest : List Char}
    (hpower : power.all Power.wellFormed = true)
    (hletter : rest.head? ≠ some 'e' ∧ rest.head? ≠ some 'E')
    (hdigit : rest.head?.all (!·.isDigit) = true) :
    readPower (power.elim [] Power.spelling ++ rest) = some (power, rest) := by
  cases power with
  | none =>
    cases rest with
    | nil => rfl
    | cons c more => simp_all [readPower]
  | some power =>
    obtain ⟨letter, sign, digits⟩ := power
    simp only [Option.all_some, Power.wellFormed, Bool.and_eq_true, Bool.or_eq_true,
      beq_iff_eq] at hpower
    obtain ⟨⟨hform, hsign⟩, hdigits⟩ := hpower
    have hread : readDigits (digits ++ rest) = some (digits, rest) :=
      readDigits_eq_some_iff.mpr ⟨rfl, hdigits, hdigit⟩
    simp only [Option.elim_some, Power.spelling, List.cons_append, List.append_assoc, readPower,
      if_pos hform, readSign_append hsign hdigits, hread]
    rfl

/-- Reads the minus sign of a number, if there is one. -/
def readMinus (text : List Char) : Bool × List Char :=
  if text.head? = some '-' then (true, text.tail) else (false, text)

/-- Reads a number. -/
def readNumeral (text : List Char) : Option (Numeral × List Char) := do
  let (whole, rest) ← readDigits (readMinus text).2
  if whole = ['0'] ∨ whole.head? ≠ some '0' then
    let (fraction, rest) ← readFraction rest
    let (power, rest) ← readPower rest
    return (⟨(readMinus text).1, whole, fraction, power⟩, rest)
  else none

/-- The characters that can stand behind the digits of a number. -/
def endsDigits (c : Char) : Bool := endsValue c || c == 'e' || c == 'E' || c == '.'

/-- What can stand behind digits is no digit. -/
theorem isDigit_eq_false_of_endsDigits {c : Char} (h : endsDigits c = true) :
    c.isDigit = false := by
  simp only [endsDigits, endsValue, isBlank, Bool.or_eq_true, beq_iff_eq, or_assoc] at h
  rcases h with rfl | rfl | rfl | rfl | rfl | rfl | rfl | rfl | rfl | rfl
  all_goals decide

/-- No digit follows where only the end of digits can follow. -/
theorem all_not_isDigit {next : Option Char} (h : next.all endsDigits = true) :
    next.all (!·.isDigit) = true := by
  cases next with
  | none => rfl
  | some c =>
    rw [Option.all_some] at h
    simp [isDigit_eq_false_of_endsDigits h]

/-- What can stand behind a value can stand behind digits. -/
theorem all_endsDigits {next : Option Char} (h : next.all endsValue = true) :
    next.all endsDigits = true := by
  cases next with
  | none => rfl
  | some c =>
    rw [Option.all_some] at h
    simp [endsDigits, h]

/-- A power, or what can stand behind a value, can stand behind digits, and is no fraction. -/
theorem head?_power_append {power : Option Power} (hpower : power.all Power.wellFormed = true)
    {rest : List Char} (hrest : rest.head?.all endsValue = true) :
    (power.elim [] Power.spelling ++ rest).head?.all endsDigits = true ∧
      (power.elim [] Power.spelling ++ rest).head? ≠ some '.' := by
  cases power with
  | none =>
    refine ⟨all_endsDigits hrest, ?_⟩
    intro hpoint
    have hhead : rest.head? = some '.' := hpoint
    rw [hhead] at hrest
    exact absurd hrest (by decide)
  | some power =>
    have hletter : power.letter = 'e' ∨ power.letter = 'E' := by
      simp only [Option.all_some, Power.wellFormed, Bool.and_eq_true, Bool.or_eq_true,
        beq_iff_eq] at hpower
      exact hpower.1.1
    rcases hletter with hletter | hletter
    · simp [Power.spelling, hletter, endsDigits]
    · simp [Power.spelling, hletter, endsDigits]

/-- A fraction, or what can stand behind one, can stand behind digits. -/
theorem head?_fraction_append (fraction : Option (List Char)) {rest : List Char}
    (hrest : rest.head?.all endsDigits = true) :
    (fraction.elim [] ('.' :: ·) ++ rest).head?.all endsDigits = true := by
  cases fraction with
  | none => exact hrest
  | some digits => rfl

/-- A minus sign that is read is written. -/
theorem eq_of_readMinus (text : List Char) :
    text = (if (readMinus text).1 then ['-'] else []) ++ (readMinus text).2 := by
  unfold readMinus
  split
  · next hminus =>
    obtain ⟨more, rfl⟩ := List.head?_eq_some_iff.mp hminus
    rfl
  · rfl

/-- A minus sign is read before digits. -/
theorem readMinus_append (negative : Bool) {digits : List Char} (hdigits : areDigits digits = true)
    (rest : List Char) :
    readMinus ((if negative then ['-'] else []) ++ (digits ++ rest)) =
      (negative, digits ++ rest) := by
  cases negative with
  | true => rfl
  | false =>
    obtain _ | ⟨c, more⟩ := digits
    · cases hdigits
    have hdigit : c.isDigit = true := by simp_all [areDigits]
    have hminus : c ≠ '-' := by
      rintro rfl
      exact absurd hdigit (by decide)
    simp [readMinus, hminus]

/-- A number that is read is written by the rules. -/
theorem eq_of_readNumeral {text rest : List Char} {numeral : Numeral}
    (h : readNumeral text = some (numeral, rest)) :
    text = numeral.spelling ++ rest ∧ numeral.wellFormed = true := by
  unfold readNumeral at h
  obtain ⟨⟨whole, behindWhole⟩, hwhole, h⟩ := Option.bind_eq_some_iff.mp h
  obtain ⟨htext, hdigits, -⟩ := readDigits_eq_some_iff.mp hwhole
  dsimp only at h
  split at h
  · next hzero =>
    obtain ⟨⟨fraction, behindFraction⟩, hfraction, h⟩ := Option.bind_eq_some_iff.mp h
    dsimp only at h
    obtain ⟨⟨power, behindPower⟩, hpower, h⟩ := Option.bind_eq_some_iff.mp h
    dsimp only at h
    obtain ⟨hfractionText, hfractionForm⟩ := eq_of_readFraction hfraction
    obtain ⟨hpowerText, hpowerForm⟩ := eq_of_readPower hpower
    cases h
    refine ⟨?_, ?_⟩
    · have hminus := eq_of_readMinus text
      rw [htext, hfractionText, hpowerText] at hminus
      simpa [Numeral.spelling] using hminus
    · simp [Numeral.wellFormed, hdigits, hfractionForm, hpowerForm, hzero]
  · cases h

/-- A number is read if something follows that can stand behind a value. -/
theorem readNumeral_append {numeral : Numeral} (hform : numeral.wellFormed = true)
    {rest : List Char} (hrest : rest.head?.all endsValue = true) :
    readNumeral (numeral.spelling ++ rest) = some (numeral, rest) := by
  obtain ⟨negative, whole, fraction, power⟩ := numeral
  simp only [Numeral.wellFormed, Bool.and_eq_true, Bool.or_eq_true, beq_iff_eq, bne_iff_ne] at hform
  obtain ⟨⟨⟨hdigits, hzero⟩, hfraction⟩, hpower⟩ := hform
  obtain ⟨hbehindFraction, hpoint⟩ := head?_power_append hpower hrest
  have hbehindWhole := head?_fraction_append fraction hbehindFraction
  have hletter : rest.head? ≠ some 'e' ∧ rest.head? ≠ some 'E' := by
    constructor
    · intro hhead
      rw [hhead] at hrest
      exact absurd hrest (by decide)
    · intro hhead
      rw [hhead] at hrest
      exact absurd hrest (by decide)
  have hreadWhole := readDigits_eq_some_iff.mpr ⟨rfl, hdigits, all_not_isDigit hbehindWhole⟩
  simp only [Numeral.spelling, List.append_assoc, readNumeral, readMinus_append negative hdigits,
    hreadWhole, Option.bind_eq_bind, Option.bind_some, if_pos hzero,
    readFraction_append hfraction hpoint (all_not_isDigit hbehindFraction),
    readPower_append hpower hletter (all_not_isDigit (all_endsDigits hrest))]
  rfl

end PageMarkup.Json.Value
