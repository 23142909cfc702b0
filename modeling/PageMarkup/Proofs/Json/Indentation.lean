import PageMarkup.Proofs.Json.Listing

/-!
# Indented values

The two styles write the same characters, apart from spaces and line ends outside of the texts
between quotation marks. A line that begins there is indented by two spaces for each brace or
bracket that is still open, not counting the one that the line closes, if it begins with a closing
one.

Both facts are read off one relation between a text over several lines and the same text on one
line, which goes along the two texts and keeps count of the braces and brackets that are open.
-/

namespace PageMarkup.Json

/-- Where a place in a text lies with respect to the texts between quotation marks. -/
inductive Quotation where
  /-- Not between quotation marks. -/
  | outside
  /-- Between quotation marks. -/
  | inside
  /-- Between quotation marks, behind a backslash. -/
  | escaped
deriving DecidableEq, Repr

/-- The characters that lay a text out. -/
def isLayout (c : Char) : Bool := c == ' ' || c == '\n'

namespace Quotation

/-- The place behind a character. -/
def next : Quotation → Char → Quotation
  | outside, c => if c = '"' then inside else outside
  | inside, c => if c = '"' then outside else if c = '\\' then escaped else inside
  | escaped, _ => inside

/-- The place behind a text. -/
def after (place : Quotation) (text : List Char) : Quotation := text.foldl next place

/-- The text without the spaces and line ends that are not between quotation marks. -/
def stripped : Quotation → List Char → List Char
  | _, [] => []
  | place, c :: rest =>
    if place = outside ∧ isLayout c = true then stripped place rest
    else c :: stripped (place.next c) rest

/-- How many characters of a class are not between quotation marks. -/
def count (isMark : Char → Bool) : Quotation → List Char → Nat
  | _, [] => 0
  | place, c :: rest =>
    (if place = outside ∧ isMark c = true then 1 else 0) + count isMark (place.next c) rest

end Quotation

/-- The characters that open an object or an array. -/
def isOpener (c : Char) : Bool := c == '\x7b' || c == '['

/-- The characters that close an object or an array. -/
def isCloser (c : Char) : Bool := c == '\x7d' || c == ']'

/-- How many braces and brackets a text opens. -/
def openers (text : List Char) : Nat := Quotation.outside.count isOpener text

/-- How many braces and brackets a text closes. -/
def closers (text : List Char) : Nat := Quotation.outside.count isCloser text

/-- A text without its layout. -/
def withoutLayout (text : String) : String :=
  String.ofList (Quotation.outside.stripped text.toList)

/-- A text whose line ends are not between quotation marks, and whose lines are indented by two
spaces for each brace or bracket that is still open, less one if the line begins with a closing one.
The given number of them are open before the text. -/
def Indented (opened : Nat) (text : List Char) : Prop :=
  ∀ before after, text = before ++ '\n' :: after →
    Quotation.outside.after before = .outside ∧
    ∃ depth c rest, after = List.replicate (2 * depth) ' ' ++ c :: rest ∧ isLayout c = false ∧
      opened + openers before = closers before + (depth + if isCloser c then 1 else 0)

/-- The characters outside of quotation marks that neither open nor close anything and are no
layout. -/
def isPlain (c : Char) : Bool := !(isLayout c || c == '"' || isOpener c || isCloser c)

/-- A text over several lines and the same text on one line, both from a place on where the given
number of braces and brackets are open. -/
inductive Spread : Nat → List Char → List Char → Prop
  | nil {opened : Nat} : Spread opened [] []
  /-- A text between quotation marks is the same in both. -/
  | text {opened : Nat} {spread line : List Char} (value : String) (h : Spread opened spread line) :
    Spread opened ((quote value).toList ++ spread) ((quote value).toList ++ line)
  | opener {opened : Nat} {c : Char} {spread line : List Char} (hc : isOpener c = true)
    (h : Spread (opened + 1) spread line) : Spread opened (c :: spread) (c :: line)
  | closer {opened : Nat} {c : Char} {spread line : List Char} (hc : isCloser c = true)
    (h : Spread opened spread line) : Spread (opened + 1) (c :: spread) (c :: line)
  | plain {opened : Nat} {c : Char} {spread line : List Char} (hc : isPlain c = true)
    (h : Spread opened spread line) : Spread opened (c :: spread) (c :: line)
  /-- A space stands only in the text over several lines. -/
  | space {opened : Nat} {spread line : List Char} (h : Spread opened spread line) :
    Spread opened (' ' :: spread) line
  /-- A line end and the indentation behind it stand only in the text over several lines. -/
  | newline {opened depth : Nat} {c : Char} {spread line : List Char} (hc : isLayout c = false)
    (hdepth : opened = depth + if isCloser c then 1 else 0)
    (h : Spread opened (c :: spread) line) :
    Spread opened ('\n' :: (List.replicate (2 * depth) ' ' ++ c :: spread)) line

namespace Quotation

/-- Two texts one behind the other are passed one after the other. -/
theorem after_append (place : Quotation) (first second : List Char) :
    place.after (first ++ second) = (place.after first).after second :=
  List.foldl_append

/-- Two texts one behind the other are counted one after the other. -/
theorem count_append (isMark : Char → Bool) (place : Quotation) (first second : List Char) :
    place.count isMark (first ++ second) =
      place.count isMark first + (place.after first).count isMark second := by
  induction first generalizing place with
  | nil => simp [count, after]
  | cons c rest ih => simp [count, after, ih, Nat.add_assoc]

/-- A text that stays between quotation marks, so that nothing in it is layout or counted. -/
structure Stays (text : List Char) : Prop where
  /-- The text does not leave the quotation marks. -/
  after_eq : inside.after text = inside
  /-- Nothing in the text is stripped. -/
  stripped_append : ∀ rest, inside.stripped (text ++ rest) = text ++ inside.stripped rest
  /-- Nothing in the text is counted. -/
  count_eq : ∀ isMark, inside.count isMark text = 0
  /-- There is no line end in the text. -/
  newline : '\n' ∉ text

namespace Stays

theorem nil : Stays [] := ⟨rfl, fun _ => rfl, fun _ => rfl, List.not_mem_nil⟩

theorem append {first second : List Char} (hfirst : Stays first) (hsecond : Stays second) :
    Stays (first ++ second) where
  after_eq := by rw [after_append, hfirst.after_eq, hsecond.after_eq]
  stripped_append rest := by
    rw [List.append_assoc, hfirst.stripped_append, hsecond.stripped_append, List.append_assoc]
  count_eq isMark := by
    rw [count_append, hfirst.count_eq, hfirst.after_eq, hsecond.count_eq]
  newline hmem := (List.mem_append.mp hmem).elim hfirst.newline hsecond.newline

/-- A character that is neither a quotation mark nor a backslash stays between quotation marks. -/
theorem char {c : Char} (hquote : c ≠ '"') (hbackslash : c ≠ '\\') (hnewline : c ≠ '\n') :
    Stays [c] where
  after_eq := by simp [after, next, hquote, hbackslash]
  stripped_append rest := by simp [stripped, next, hquote, hbackslash]
  count_eq isMark := by simp [count]
  newline hmem := hnewline (List.mem_singleton.mp hmem).symm

/-- A backslash and the character behind it stay between quotation marks. -/
theorem escape {c : Char} (hnewline : c ≠ '\n') : Stays ['\\', c] where
  after_eq := by simp [after, next]
  stripped_append rest := by simp [stripped, next]
  count_eq isMark := by simp [count, next]
  newline hmem := by simp [Ne.symm hnewline] at hmem

end Stays

end Quotation

/-- A digit is no quotation mark, no backslash and no line end. -/
theorem stays_digitChar {digit : Nat} (h : digit < 16) : Quotation.Stays [Nat.digitChar digit] := by
  have hdigits : ∀ digit < 16, Nat.digitChar digit ≠ '"' ∧ Nat.digitChar digit ≠ '\\' ∧
      Nat.digitChar digit ≠ '\n' := by decide
  obtain ⟨hquote, hbackslash, hnewline⟩ := hdigits digit h
  exact .char hquote hbackslash hnewline

/-- What a character is written with stays between quotation marks. -/
theorem stays_escaped (c : Char) : Quotation.Stays (escaped c) := by
  unfold escaped
  -- The seven characters with a letter of their own come first.
  iterate 7
    split
    · exact .escape (by decide)
  split
  · next hcontrol =>
    have hzero : Quotation.Stays ['0'] := .char (by decide) (by decide) (by decide)
    exact (((Quotation.Stays.escape (by decide)).append hzero).append hzero).append
      ((stays_digitChar (by omega)).append (stays_digitChar (by omega)))
  · next hquote hbackslash hnewline _ _ _ _ _ => exact .char hquote hbackslash hnewline

/-- What a text is written with stays between quotation marks. -/
theorem stays_flatMap_escaped (text : List Char) : Quotation.Stays (text.flatMap escaped) := by
  induction text with
  | nil => exact .nil
  | cons c rest ih => exact (stays_escaped c).append ih

/-- Between its two quotation marks a text stays between quotation marks. -/
theorem exists_toList_quote (value : String) :
    ∃ inner, (quote value).toList = '"' :: (inner ++ ['"']) ∧ Quotation.Stays inner :=
  ⟨value.toList.flatMap escaped, by simp [quote], stays_flatMap_escaped value.toList⟩

/-- A text with its quotation marks leads outside of them again. -/
theorem after_quote (value : String) :
    Quotation.outside.after (quote value).toList = .outside := by
  obtain ⟨inner, hquote, hstays⟩ := exists_toList_quote value
  have hopen : Quotation.outside.after ('"' :: (inner ++ ['"'])) =
      Quotation.inside.after (inner ++ ['"']) := rfl
  rw [hquote, hopen, Quotation.after_append, hstays.after_eq]
  rfl

/-- Nothing in a text with its quotation marks is layout. -/
theorem stripped_quote (value : String) (rest : List Char) :
    Quotation.outside.stripped ((quote value).toList ++ rest) =
      (quote value).toList ++ Quotation.outside.stripped rest := by
  obtain ⟨inner, hquote, hstays⟩ := exists_toList_quote value
  have hopen : Quotation.outside.stripped ('"' :: (inner ++ '"' :: rest)) =
      '"' :: Quotation.inside.stripped (inner ++ '"' :: rest) := rfl
  have hclose : Quotation.inside.stripped ('"' :: rest) =
      '"' :: Quotation.outside.stripped rest := rfl
  rw [hquote]
  simp [hopen, hstays.stripped_append, hclose]

/-- Nothing in a text with its quotation marks opens or closes anything. -/
theorem count_quote {isMark : Char → Bool} (hmark : isMark '"' = false) (value : String) :
    Quotation.outside.count isMark (quote value).toList = 0 := by
  obtain ⟨inner, hquote, hstays⟩ := exists_toList_quote value
  have hopen : Quotation.outside.count isMark ('"' :: (inner ++ ['"'])) =
      0 + Quotation.inside.count isMark (inner ++ ['"']) := by
    simp [Quotation.count, Quotation.next, hmark]
  rw [hquote, hopen, Quotation.count_append, hstays.count_eq, hstays.after_eq]
  simp [Quotation.count]

/-- There is no line end in a text with its quotation marks. -/
theorem newline_not_mem_quote (value : String) : '\n' ∉ (quote value).toList := by
  obtain ⟨inner, hquote, hstays⟩ := exists_toList_quote value
  simp [hquote, hstays.newline]

/-- What opens something is no layout, no quotation mark and does not close anything. -/
theorem of_isOpener {c : Char} (h : isOpener c = true) :
    isLayout c = false ∧ c ≠ '"' ∧ isCloser c = false := by
  simp only [isOpener, Bool.or_eq_true, beq_iff_eq] at h
  rcases h with rfl | rfl
  · decide
  · decide

/-- What closes something is no layout, no quotation mark and does not open anything. -/
theorem of_isCloser {c : Char} (h : isCloser c = true) :
    isLayout c = false ∧ c ≠ '"' ∧ isOpener c = false := by
  simp only [isCloser, Bool.or_eq_true, beq_iff_eq] at h
  rcases h with rfl | rfl
  · decide
  · decide

/-- A plain character is no layout and no quotation mark, and opens and closes nothing. -/
theorem of_isPlain {c : Char} (h : isPlain c = true) :
    isLayout c = false ∧ c ≠ '"' ∧ isOpener c = false ∧ isCloser c = false := by
  simpa [isPlain, and_assoc] using h

/-- A line end is layout. -/
theorem ne_newline_of_isLayout {c : Char} (h : isLayout c = false) : c ≠ '\n' := by
  rintro rfl
  exact absurd h (by decide)

/-- A character other than layout and quotation marks is kept. -/
theorem stripped_cons {c : Char} (hlayout : isLayout c = false) (hquote : c ≠ '"')
    (rest : List Char) :
    Quotation.outside.stripped (c :: rest) = c :: Quotation.outside.stripped rest := by
  simp [Quotation.stripped, Quotation.next, hlayout, hquote]

/-- Spaces are dropped. -/
theorem stripped_replicate_append (count : Nat) (rest : List Char) :
    Quotation.outside.stripped (List.replicate count ' ' ++ rest) =
      Quotation.outside.stripped rest := by
  induction count with
  | zero => rfl
  | succ count ih => simpa [List.replicate_succ, Quotation.stripped, isLayout] using ih

/-- A text over several lines without its layout is the text on one line. -/
theorem Spread.stripped_eq {opened : Nat} {spread line : List Char}
    (h : Spread opened spread line) : Quotation.outside.stripped spread = line := by
  induction h with
  | nil => rfl
  | text value _ ih => rw [stripped_quote, ih]
  | opener hc _ ih => rw [stripped_cons (of_isOpener hc).1 (of_isOpener hc).2.1, ih]
  | closer hc _ ih => rw [stripped_cons (of_isCloser hc).1 (of_isCloser hc).2.1, ih]
  | plain hc _ ih => rw [stripped_cons (of_isPlain hc).1 (of_isPlain hc).2.1, ih]
  | space _ ih => exact (stripped_replicate_append 1 _).trans ih
  | newline _ _ _ ih => exact (stripped_replicate_append _ _).trans ih

/-- A line end that is not in the first of two texts is in the second. -/
theorem exists_of_append_eq_newline {first second before after : List Char} (hfirst : '\n' ∉ first)
    (h : first ++ second = before ++ '\n' :: after) :
    ∃ rest, before = first ++ rest ∧ second = rest ++ '\n' :: after := by
  rcases List.append_eq_append_iff.mp h with ⟨rest, hbefore, hsecond⟩ | ⟨rest, hbefore, hsecond⟩
  · exact ⟨rest, hbefore, hsecond⟩
  · cases rest with
    | nil => exact ⟨[], by simpa using hbefore.symm, by simpa using hsecond.symm⟩
    | cons c rest =>
      have hnewline : c = '\n' := (List.cons.inj hsecond).1.symm
      exact absurd (by simp [hbefore, hnewline]) hfirst

namespace Indented

/-- A text without line ends can stand before an indented text. -/
theorem append {opened reached : Nat} {first second : List Char} (hnewline : '\n' ∉ first)
    (hafter : Quotation.outside.after first = .outside)
    (hreached : opened + openers first = closers first + reached)
    (h : Indented reached second) : Indented opened (first ++ second) := by
  intro before after hsplit
  -- The line end is one of the second text, so what stands before it is counted in two parts.
  obtain ⟨rest, rfl, hsecond⟩ := exists_of_append_eq_newline hnewline hsplit
  obtain ⟨hplace, depth, c, behind, hbehind, hc, hdepth⟩ := h rest after hsecond
  refine ⟨by rw [Quotation.after_append, hafter, hplace], depth, c, behind, hbehind, hc, ?_⟩
  have hopeners : openers (first ++ rest) = openers first + openers rest := by
    rw [openers, Quotation.count_append, hafter]
    rfl
  have hclosers : closers (first ++ rest) = closers first + closers rest := by
    rw [closers, Quotation.count_append, hafter]
    rfl
  omega

/-- A character other than a line end and a quotation mark can stand before an indented text. -/
theorem cons {opened reached : Nat} {c : Char} {text : List Char} (hnewline : c ≠ '\n')
    (hquote : c ≠ '"')
    (hreached : opened + (if isOpener c then 1 else 0) = (if isCloser c then 1 else 0) + reached)
    (h : Indented reached text) : Indented opened (c :: text) := by
  change Indented opened ([c] ++ text)
  refine append ?_ ?_ ?_ h
  · simpa using Ne.symm hnewline
  · simp [Quotation.after, Quotation.next, hquote]
  · simpa [openers, closers, Quotation.count] using hreached

/-- Spaces can stand before an indented text. -/
theorem spaces {opened : Nat} {text : List Char} (count : Nat) (h : Indented opened text) :
    Indented opened (List.replicate count ' ' ++ text) := by
  induction count with
  | zero => exact h
  | succ count ih => exact cons (by decide) (by decide) (Nat.add_comm _ _) ih

/-- A line end can stand before a text that is indented by its depth. -/
theorem newline {opened depth : Nat} {c : Char} {text : List Char} (hc : isLayout c = false)
    (hdepth : opened = depth + if isCloser c then 1 else 0) (h : Indented opened (c :: text)) :
    Indented opened ('\n' :: (List.replicate (2 * depth) ' ' ++ c :: text)) := by
  intro before after hsplit
  cases before with
  | nil =>
    have hafter := (List.cons.inj hsplit).2.symm
    refine ⟨rfl, depth, c, text, hafter, hc, ?_⟩
    rw [hdepth]
    exact (Nat.zero_add _).symm
  | cons d before =>
    -- A later line end is one of the indented text, which the first one does not touch.
    obtain ⟨rfl, hrest⟩ := List.cons.inj hsplit
    have hplace : Quotation.outside.after ('\n' :: before) = Quotation.outside.after before := rfl
    have hopeners : openers ('\n' :: before) = openers before := Nat.zero_add _
    have hclosers : closers ('\n' :: before) = closers before := Nat.zero_add _
    rw [hplace, hopeners, hclosers]
    exact spaces (2 * depth) h before after hrest

end Indented

/-- The lines of a text over several lines are indented. -/
theorem Spread.indented {opened : Nat} {spread line : List Char} (h : Spread opened spread line) :
    Indented opened spread := by
  induction h with
  | nil =>
    intro before after hsplit
    simp at hsplit
  | text value _ ih =>
    refine ih.append (newline_not_mem_quote value) (after_quote value) ?_
    rw [openers, closers, count_quote (by decide), count_quote (by decide), Nat.add_comm]
  | opener hc _ ih =>
    obtain ⟨hlayout, hquote, hcloser⟩ := of_isOpener hc
    refine ih.cons (ne_newline_of_isLayout hlayout) hquote ?_
    simp [hc, hcloser]
  | closer hc _ ih =>
    obtain ⟨hlayout, hquote, hopener⟩ := of_isCloser hc
    refine ih.cons (ne_newline_of_isLayout hlayout) hquote ?_
    simp [hc, hopener, Nat.add_comm]
  | plain hc _ ih =>
    obtain ⟨hlayout, hquote, hopener, hcloser⟩ := of_isPlain hc
    refine ih.cons (ne_newline_of_isLayout hlayout) hquote ?_
    simp [hopener, hcloser]
  | space _ ih => exact ih.spaces 1
  | newline hc hdepth _ ih => exact ih.newline hc hdepth

/-- A text over several lines that can stand wherever the same text on one line can stand, if the
given number of braces and brackets are open. -/
def Spreads (opened : Nat) (spread line : String) : Prop :=
  ∀ ⦃behind behindLine : List Char⦄, Spread opened behind behindLine →
    Spread opened (spread.toList ++ behind) (line.toList ++ behindLine)

/-- A text that a line can begin with. -/
def Begins (text : String) : Prop :=
  ∃ c rest, text.toList = c :: rest ∧ isLayout c = false ∧ isCloser c = false

/-- Layout that can stand before anything a line can begin with. -/
def IsGap (opened : Nat) (gap : String) : Prop :=
  ∀ ⦃spread line : String⦄, Begins spread → Spreads opened spread line →
    Spreads opened (gap ++ spread) line

/-- A text that a line can begin with still is one if something follows. -/
theorem Begins.append {first : String} (h : Begins first) (second : String) :
    Begins (first ++ second) := by
  obtain ⟨c, rest, hfirst, hc⟩ := h
  exact ⟨c, rest ++ second.toList, by rw [String.toList_append, hfirst, List.cons_append], hc⟩

/-- A line can begin with a text between quotation marks. -/
theorem begins_quote (value : String) : Begins (quote value) := by
  obtain ⟨inner, hquote, _⟩ := exists_toList_quote value
  exact ⟨'"', inner ++ ['"'], hquote, by decide⟩

namespace Spreads

variable {opened level : Nat} {style : Style}

theorem append {first firstLine second secondLine : String}
    (hfirst : Spreads opened first firstLine) (hsecond : Spreads opened second secondLine) :
    Spreads opened (first ++ second) (firstLine ++ secondLine) := by
  intro behind behindLine h
  rw [String.toList_append, String.toList_append, List.append_assoc, List.append_assoc]
  exact hfirst (hsecond h)

theorem quote (value : String) : Spreads opened (quote value) (quote value) :=
  fun _ _ h => h.text value

/-- Plain characters are the same over several lines. -/
theorem plain {text : String} (htext : text.toList.all isPlain = true) :
    Spreads opened text text := by
  intro behind behindLine h
  generalize text.toList = chars at htext
  induction chars with
  | nil => exact h
  | cons c rest ih =>
    rw [List.all_cons, Bool.and_eq_true] at htext
    exact .plain htext.1 (ih htext.2)

/-- A comma is the same over several lines. -/
theorem comma : Spreads opened "," "," := plain rfl

/-- A space of a style is layout. -/
theorem space (style : Style) : Spreads opened style.space "" := by
  intro behind behindLine h
  cases style with
  | compact => exact h
  | pretty => exact .space h

/-- What stands between an opening and a closing character is one level deeper, and the closing
one may stand on a line of its own. -/
theorem enclosed {opener closer : Char} (hopener : isOpener opener = true)
    (hcloser : isCloser closer = true) (hlevel : style = .pretty → opened = level)
    {spread line : String} (h : Spreads (opened + 1) spread line) :
    Spreads opened
      (String.singleton opener ++ spread ++ style.newline level ++ String.singleton closer)
      (String.singleton opener ++ line ++ String.singleton closer) := by
  intro behind behindLine hbehind
  have hclosed : Spread (opened + 1) (closer :: behind) (closer :: behindLine) :=
    .closer hcloser hbehind
  have hline : Spread (opened + 1) ((style.newline level).toList ++ closer :: behind)
      (closer :: behindLine) := by
    cases style with
    | compact => exact hclosed
    | pretty =>
      have hdepth : opened + 1 = level + if isCloser closer then 1 else 0 := by
        rw [hlevel rfl, if_pos hcloser]
      simpa [Style.newline] using hclosed.newline (of_isCloser hcloser).1 hdepth
  simpa using Spread.opener hopener (h hline)

/-- An array is one level deeper inside. -/
theorem brackets (hlevel : style = .pretty → opened = level) {spread line : String}
    (h : Spreads (opened + 1) spread line) :
    Spreads opened ("[" ++ spread ++ style.newline level ++ "]") ("[" ++ line ++ "]") :=
  enclosed (by decide : isOpener '[' = true) (by decide : isCloser ']' = true) hlevel h

/-- An object is one level deeper inside. -/
theorem braces (hlevel : style = .pretty → opened = level) {spread line : String}
    (h : Spreads (opened + 1) spread line) :
    Spreads opened ("\x7b" ++ spread ++ style.newline level ++ "\x7d")
      ("\x7b" ++ line ++ "\x7d") :=
  enclosed (by decide : isOpener '\x7b' = true) (by decide : isCloser '\x7d' = true) hlevel h

end Spreads

/-- A space can stand before anything. -/
theorem isGap_space {opened : Nat} (style : Style) : IsGap opened style.space := by
  intro spread line _ h
  simpa using (Spreads.space style).append h

/-- A new line at the level of what is open can stand before anything. -/
theorem isGap_newline {opened level : Nat} {style : Style}
    (hlevel : style = .pretty → opened = level) : IsGap opened (style.newline level) := by
  intro spread line hbegins h behind behindLine hbehind
  obtain ⟨c, rest, hspread, hlayout, hcloser⟩ := hbegins
  have hstart := h hbehind
  rw [hspread, List.cons_append] at hstart
  rw [String.toList_append, hspread, List.append_assoc, List.cons_append]
  cases style with
  | compact => exact hstart
  | pretty =>
    have hdepth : opened = level + if isCloser c then 1 else 0 := by
      rw [hlevel rfl, hcloser]
      rfl
    simpa [Style.newline] using hstart.newline hlayout hdepth

/-- Digits are plain. -/
theorem isPlain_of_isDigit {c : Char} (h : c.isDigit = true) : isPlain c = true := by
  simp only [isPlain, isLayout, isOpener, isCloser, Bool.not_eq_true', Bool.or_eq_false_iff,
    beq_eq_false_iff_ne]
  refine ⟨⟨⟨⟨?_, ?_⟩, ?_⟩, ?_, ?_⟩, ?_, ?_⟩
  all_goals
    rintro rfl
    exact absurd h (by decide)

/-- A number is written with digits alone. -/
theorem all_isPlain_number (number : Nat) : (toString number).toList.all isPlain = true := by
  have hdigits : (toString number).toList = Nat.toDigits 10 number := by
    simp [Nat.repr_eq_ofList_toDigits]
  rw [hdigits, List.all_eq_true]
  intro c hc
  exact isPlain_of_isDigit (Nat.isDigit_of_mem_toDigits (by decide) (by decide) hc)

/-- A line can begin with a number. -/
theorem begins_number (number : Nat) : Begins (toString number) := by
  have hne : (toString number).toList ≠ [] := by simp
  obtain ⟨c, rest, hnumber⟩ := List.exists_cons_of_ne_nil hne
  have hmem : c ∈ (toString number).toList := hnumber ▸ List.mem_cons_self
  have hplain := List.all_eq_true.mp (all_isPlain_number number) c hmem
  exact ⟨c, rest, hnumber, (of_isPlain hplain).1, (of_isPlain hplain).2.2.2⟩

/-- A line can begin with an opening character. -/
theorem begins_opener {c : Char} (hc : isOpener c = true) (rest : String) :
    Begins (String.singleton c ++ rest) :=
  ⟨c, rest.toList, by simp, (of_isOpener hc).1, (of_isOpener hc).2.2⟩

/-- A line can begin with a value. -/
theorem begins_write (style : Style) (level : Nat) (json : Json) :
    Begins (json.write style level) := by
  cases json with
  | text value => exact begins_quote value
  | number value => exact begins_number value
  | array items =>
    rw [write]
    split
    · rw [String.append_assoc]
      exact begins_opener (by decide : isOpener '[' = true) _
    · simp only [String.append_assoc]
      exact begins_opener (by decide : isOpener '[' = true) _
  | object fields =>
    rw [write]
    split
    · exact ⟨'\x7b', ['\x7d'], rfl, by decide⟩
    · simp only [String.append_assoc]
      exact begins_opener (by decide : isOpener '\x7b' = true) _

section Entries

variable {opened level : Nat} {style : Style}

/-- A line can begin with the items of an array. -/
theorem begins_writeItems {separator : String} {item : Json} {rest : List Json} :
    Begins (writeItems style level separator (item :: rest)) := by
  cases rest with
  | nil => exact begins_write style level item
  | cons next rest => exact ((begins_write style level item).append _).append _

/-- A line can begin with the fields of an object. -/
theorem begins_writeFields {field : String × Json} {rest : List (String × Json)} :
    Begins (writeFields style level (field :: rest)) := by
  obtain ⟨key, value⟩ := field
  cases rest with
  | nil =>
    simp only [writeFields, String.append_assoc]
    exact (begins_quote key).append _
  | cons next rest =>
    simp only [writeFields, String.append_assoc]
    exact (begins_quote key).append _

/-- Items are the same over several lines if each of them is and layout stands between them. -/
theorem spreads_writeItems {gap : String} (hgap : IsGap opened gap) {items : List Json}
    (hitems : ∀ item ∈ items, Spreads opened (item.write style level) (item.write .compact level)) :
    Spreads opened (writeItems style level ("," ++ gap) items)
      (writeItems .compact level "," items) := by
  induction items with
  | nil => exact fun _ _ h => h
  | cons item rest ih =>
    have hitem := hitems item List.mem_cons_self
    have hrest := ih fun other hother => hitems other (List.mem_cons_of_mem item hother)
    cases rest with
    | nil => exact hitem
    | cons next rest =>
      have hothers := hitem.append (Spreads.comma.append (hgap begins_writeItems hrest))
      simpa [writeItems, String.append_assoc] using hothers

/-- A field is the same over several lines if its value is. -/
theorem spreads_field (key : String) {value : Json}
    (hvalue : Spreads opened (value.write style level) (value.write .compact level)) :
    Spreads opened (quote key ++ ":" ++ style.space ++ value.write style level)
      (quote key ++ ":" ++ Style.compact.space ++ value.write .compact level) :=
  (((Spreads.quote key).append (.plain rfl)).append (.space style)).append hvalue

/-- Fields are the same over several lines if the value of each of them is. -/
theorem spreads_writeFields (hlevel : style = .pretty → opened = level)
    {fields : List (String × Json)}
    (hfields : ∀ field ∈ fields,
      Spreads opened (field.2.write style level) (field.2.write .compact level)) :
    Spreads opened (writeFields style level fields) (writeFields .compact level fields) := by
  induction fields with
  | nil => exact fun _ _ h => h
  | cons field rest ih =>
    have hfield := spreads_field field.1 (hfields field List.mem_cons_self)
    have hrest := ih fun other hother => hfields other (List.mem_cons_of_mem field hother)
    cases rest with
    | nil => exact hfield
    | cons next rest =>
      have hothers :=
        hfield.append (Spreads.comma.append (isGap_newline hlevel begins_writeFields hrest))
      simpa [writeFields, Style.newline, String.append_assoc] using hothers

end Entries

/-- An array of texts stays on one line, at any level. -/
theorem spreads_texts {items : List Json} (hitems : items.all isText = true) (style : Style)
    (opened level : Nat) :
    Spreads opened ("[" ++ writeItems style level ("," ++ style.space) items ++ "]")
      ("[" ++ writeItems .compact level "," items ++ "]") := by
  have htexts : ∀ item ∈ items,
      Spreads (opened + 1) (item.write style level) (item.write .compact level) := by
    intro item hitem
    have htext := List.all_eq_true.mp hitems item hitem
    cases item with
    | text value => exact .quote value
    | number _ => cases htext
    | array _ => cases htext
    | object _ => cases htext
  -- No line end stands before the closing bracket, as if the style were compact.
  have hline : Style.compact = .pretty → opened = level := nofun
  simpa [Style.newline] using (spreads_writeItems (isGap_space style) htexts).brackets hline

mutual

/-- A value in writing is the same over several lines as on one line, if its level is the number of
braces and brackets that are open around it. -/
theorem spreads_write (style : Style) : (json : Json) → ∀ {opened level : Nat},
    (style = .pretty → opened = level) →
      Spreads opened (json.write style level) (json.write .compact level)
  | text value, _, _, _ => .quote value
  | number value, _, _, _ => .plain (all_isPlain_number value)
  | array [], opened, level, _ => by
    simpa [write, writeItems] using spreads_texts List.all_nil style opened level
  | array (item :: rest), opened, level, hlevel => by
    rw [write, write]
    split
    · next htexts => exact spreads_texts htexts style opened level
    · -- Every item begins a line of its own, the first one too, one level deeper.
      have hdeeper : style = .pretty → opened + 1 = level + 1 := fun h => by rw [hlevel h]
      have hitems := spreads_writeItems (isGap_newline hdeeper)
        (spreads_writeAll style (item :: rest) hdeeper)
      have hlines := isGap_newline hdeeper begins_writeItems hitems
      simpa [Style.newline, String.append_assoc] using hlines.brackets hlevel
  | object [], opened, level, _ => by
    have hline : Style.compact = .pretty → opened = level := nofun
    have hnothing : Spreads (opened + 1) "" "" := fun _ _ h => h
    simpa [write, Style.newline] using hnothing.braces hline
  | object (field :: rest), opened, level, hlevel => by
    have hdeeper : style = .pretty → opened + 1 = level + 1 := fun h => by rw [hlevel h]
    have hfields := spreads_writeFields hdeeper
      (spreads_writeValues style (field :: rest) hdeeper)
    have hlines := isGap_newline hdeeper begins_writeFields hfields
    simpa [write, Style.newline, String.append_assoc] using hlines.braces hlevel

/-- Each of several values in writing is the same over several lines as on one line. -/
theorem spreads_writeAll (style : Style) : (items : List Json) → ∀ {opened level : Nat},
    (style = .pretty → opened = level) → ∀ item ∈ items,
      Spreads opened (item.write style level) (item.write .compact level)
  | [], _, _, _ => fun _ hitem => absurd hitem List.not_mem_nil
  | item :: rest, _, _, hlevel =>
    List.forall_mem_cons.mpr ⟨spreads_write style item hlevel, spreads_writeAll style rest hlevel⟩

/-- The value of each of several fields is the same over several lines as on one line. -/
theorem spreads_writeValues (style : Style) : (fields : List (String × Json)) →
    ∀ {opened level : Nat}, (style = .pretty → opened = level) → ∀ field ∈ fields,
      Spreads opened (field.2.write style level) (field.2.write .compact level)
  | [], _, _, _ => fun _ hfield => absurd hfield List.not_mem_nil
  | (_, value) :: rest, _, _, hlevel =>
    List.forall_mem_cons.mpr
      ⟨spreads_write style value hlevel, spreads_writeValues style rest hlevel⟩

end

/-- A whole value over several lines is the same as on one line. -/
theorem spreads_render (style : Style) (json : Json) :
    Spreads 0 (json.render style) (json.render .compact) :=
  spreads_write style json fun _ => rfl

/-- Compact rows on lines of their own are the same as on one line. -/
theorem spreads_renderRows (style : Style) (rows : List Json) :
    Spreads 0 (renderRows style rows) (renderRows .compact rows) := by
  cases rows with
  | nil => exact spreads_texts List.all_nil style 0 0
  | cons row rest =>
    have hrows : ∀ item ∈ row :: rest,
        Spreads (0 + 1) (item.write .compact 0) (item.write .compact 0) :=
      fun item _ => spreads_write .compact item nofun
    have hdeeper : style = .pretty → 0 + 1 = 1 := fun _ => rfl
    have hlines := isGap_newline hdeeper begins_writeItems
      (spreads_writeItems (isGap_newline hdeeper) hrows)
    have henclosed := hlines.brackets (fun _ => rfl : style = .pretty → 0 = 0)
    simpa [renderRows, ← intercalate_render, Style.newline, String.append_assoc] using henclosed

/-- A text over several lines without its layout is the text on one line. -/
theorem Spreads.withoutLayout_eq {spread line : String} (h : Spreads 0 spread line) :
    withoutLayout spread = line := by
  have hspread : Spread 0 spread.toList line.toList := by simpa using h .nil
  rw [withoutLayout, hspread.stripped_eq, String.ofList_toList]

/-- The lines of a text over several lines are indented. -/
theorem Spreads.indented {spread line : String} (h : Spreads 0 spread line) :
    Indented 0 spread.toList := by
  have hspread : Spread 0 spread.toList line.toList := by simpa using h .nil
  exact hspread.indented

end PageMarkup.Json
