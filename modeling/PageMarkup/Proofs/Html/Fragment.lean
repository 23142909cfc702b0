import Mathlib.Data.List.Infix
import PageMarkup.Proofs.Span

/-!
# Fragments of pages

A fragment is an element with its classes and what it contains, an element that contains nothing, or
a text. Fragments are written one after the other, an element between its start tag and its end tag.
Where names consist of letters and digits, classes have no quote in them, and texts are not empty,
have no angle bracket that opens a tag and do not follow each other directly, the fragments can be
read back from what is written.
-/

namespace PageMarkup

/-- A part of a page. -/
inductive Fragment where
  /-- An element with its classes and what it contains. -/
  | element (name classes : String) (children : List Fragment)
  /-- An element that contains nothing. -/
  | void (name classes : String)
  /-- A text. -/
  | text (content : String)

namespace Fragment

/-- What stands between the name of an element and its classes. -/
def classMark : List Char := [' ', 'c', 'l', 'a', 's', 's', '=', '"']

/-- A start tag up to the quote behind the classes. -/
def opening (name classes : String) : List Char :=
  '<' :: (name.toList ++ (classMark ++ (classes.toList ++ ['"'])))

/-- An end tag. -/
def closing (name : String) : List Char := '<' :: '/' :: (name.toList ++ ['>'])

mutual

/-- A fragment as it is written. -/
def spelling : Fragment → List Char
  | element name classes children =>
    opening name classes ++ '>' :: (spellingAll children ++ closing name)
  | void name classes => opening name classes ++ ['/', '>']
  | text content => content.toList

/-- Fragments as they are written one after the other. -/
def spellingAll : List Fragment → List Char
  | [] => []
  | fragment :: rest => fragment.spelling ++ spellingAll rest

end

/-- Whether a fragment is a text. -/
def isText : Fragment → Bool
  | text _ => true
  | element _ _ _ | void _ _ => false

/-- Whether a text can be the name of an element. -/
def isName (name : String) : Bool := name ≠ "" && name.toList.all Char.isAlphanum

/-- Whether a text can stand between quotes. -/
def isQuotable (classes : String) : Bool := classes.toList.all (· != '"')

mutual

/-- Whether a fragment can be read back. -/
def wellFormed : Fragment → Bool
  | element name classes children => isName name && isQuotable classes && wellFormedAll children
  | void name classes => isName name && isQuotable classes
  | text content => content ≠ "" && content.toList.all (· != '<')

/-- Whether fragments can be read back. -/
def wellFormedAll : List Fragment → Bool
  | [] => true
  | fragment :: rest =>
    fragment.wellFormed && !(fragment.isText && rest.head?.any isText) && wellFormedAll rest

end

/-- Reads a start tag behind its bracket, up to the quote behind the classes. -/
def readOpening (input : List Char) : Option ((String × String) × List Char) :=
  (classMark.isPrefixOf? (input.dropWhile Char.isAlphanum)).map fun rest =>
    ((String.ofList (input.takeWhile Char.isAlphanum), String.ofList (rest.takeWhile (· != '"'))),
      rest.dropWhile (· != '"'))

/-- Reads fragments up to an end tag that is not theirs, or to the end of the input. The number
bounds the length of the input. -/
def readAll : Nat → List Char → Option (List Fragment × List Char)
  | 0, _ => none
  | _ + 1, [] => some ([], [])
  | bound + 1, first :: rest =>
    if first ≠ '<' then
      (readAll bound ((first :: rest).dropWhile (· != '<'))).map fun more =>
        (text (String.ofList ((first :: rest).takeWhile (· != '<'))) :: more.1, more.2)
    else if rest.head? = some '/' then some ([], first :: rest)
    else
      (readOpening rest).bind fun tag =>
        match tag.2 with
        | '"' :: '>' :: inner =>
          (readAll bound inner).bind fun children =>
            ((closing tag.1.1).isPrefixOf? children.2).bind fun behind =>
              (readAll bound behind).map fun more =>
                (element tag.1.1 tag.1.2 children.1 :: more.1, more.2)
        | '"' :: '/' :: '>' :: behind =>
          (readAll bound behind).map fun more => (void tag.1.1 tag.1.2 :: more.1, more.2)
        | _ => none

/-- The fragments that an input spells. -/
def read? (input : String) : Option (List Fragment) :=
  (readAll (input.toList.length + 1) input.toList).bind fun read =>
    if read.2 = [] then some read.1 else none

/-- What can stand behind fragments: an end tag, or nothing. -/
def Ends (rest : List Char) : Prop := rest = [] ∨ ∃ more, rest = '<' :: '/' :: more

/-- A start tag is read with its name and its classes. -/
theorem readOpening_append {name classes : String} (hname : isName name = true)
    (hclasses : isQuotable classes = true) (rest : List Char) :
    readOpening (name.toList ++ (classMark ++ (classes.toList ++ '"' :: rest))) =
      some ((name, classes), '"' :: rest) := by
  simp only [isName, Bool.and_eq_true] at hname
  have hbehind : (classMark ++ (classes.toList ++ '"' :: rest)).head?.all (!·.isAlphanum) = true :=
    rfl
  rw [readOpening, dropWhile_run hname.2 hbehind, takeWhile_run hname.2 hbehind]
  have hmark : classMark.isPrefixOf? (classMark ++ (classes.toList ++ '"' :: rest)) =
      some (classes.toList ++ '"' :: rest) := by simp
  rw [hmark, Option.map_some, takeWhile_run hclasses (by simp), dropWhile_run hclasses (by simp)]
  simp

/-- Behind a text stands a tag, or nothing. -/
theorem head?_spellingAll {fragments : List Fragment} {rest : List Char}
    (hfirst : fragments.head?.any isText = false) (hends : Ends rest) :
    (spellingAll fragments ++ rest).head?.all (· == '<') = true := by
  cases fragments with
  | nil =>
    rcases hends with rfl | ⟨more, rfl⟩ <;> rfl
  | cons fragment others =>
    cases fragment with
    | element name classes children => rfl
    | void name classes => rfl
    | text content => cases hfirst

/-- The name of an element begins with no slash, so a start tag is not taken for an end tag. -/
theorem head?_name_ne {name : String} (hname : isName name = true) (rest : List Char) :
    (name.toList ++ rest).head? ≠ some '/' := by
  simp only [isName, Bool.and_eq_true, decide_eq_true_eq] at hname
  cases hlist : name.toList with
  | nil => exact absurd (String.toList_eq_nil_iff.mp hlist) hname.1
  | cons first more =>
    have hfirst : first.isAlphanum = true := by
      rw [hlist, List.all_cons, Bool.and_eq_true] at hname
      exact hname.2.1
    rintro hslash
    obtain rfl : first = '/' := by simpa using hslash
    exact absurd hfirst (by decide)

section

variable {bound : Nat} {name classes content : String} {children : List Fragment}
  {tail : List Char}

/-- A text is read up to the next tag. -/
theorem readAll_text (hform : wellFormed (text content) = true)
    (htail : tail.head?.all (· == '<') = true) :
    readAll (bound + 1) (content.toList ++ tail) =
      (readAll bound tail).map fun more => (text content :: more.1, more.2) := by
  simp only [wellFormed, Bool.and_eq_true, decide_eq_true_eq] at hform
  obtain ⟨hempty, hplain⟩ := hform
  have hstop : tail.head?.all (fun c => !(c != '<')) = true := by simpa [bne] using htail
  have htake := takeWhile_run hplain hstop
  have hdrop := dropWhile_run hplain hstop
  cases hlist : content.toList with
  | nil => exact absurd (String.toList_eq_nil_iff.mp hlist) hempty
  | cons first more =>
    have hfirst : first ≠ '<' := by
      rw [hlist, List.all_cons, Bool.and_eq_true] at hplain
      simpa using hplain.1
    rw [hlist, List.cons_append] at htake hdrop
    rw [List.cons_append, readAll, if_pos hfirst, htake, hdrop, ← hlist, String.ofList_toList]

/-- An element that contains nothing is read as such. -/
theorem readAll_void (hname : isName name = true) (hclasses : isQuotable classes = true) :
    readAll (bound + 1) ((void name classes).spelling ++ tail) =
      (readAll bound tail).map fun more => (void name classes :: more.1, more.2) := by
  have hspelling : (void name classes).spelling ++ tail =
      '<' :: (name.toList ++ (classMark ++ (classes.toList ++ '"' :: ('/' :: '>' :: tail)))) := by
    simp [spelling, opening]
  rw [hspelling, readAll, if_neg (by simp), if_neg (head?_name_ne hname _),
    readOpening_append hname hclasses]
  rfl

/-- An element is read with what it contains, up to its end tag. -/
theorem readAll_element (hname : isName name = true) (hclasses : isQuotable classes = true)
    (hchildren : readAll bound (spellingAll children ++ (closing name ++ tail)) =
      some (children, closing name ++ tail)) :
    readAll (bound + 1) ((element name classes children).spelling ++ tail) =
      (readAll bound tail).map fun more => (element name classes children :: more.1, more.2) := by
  have hspelling : (element name classes children).spelling ++ tail =
      '<' :: (name.toList ++ (classMark ++ (classes.toList ++
        '"' :: ('>' :: (spellingAll children ++ (closing name ++ tail)))))) := by
    simp [spelling, opening]
  have hclosing : (closing name).isPrefixOf? (closing name ++ tail) = some tail := by simp
  rw [hspelling, readAll, if_neg (by simp), if_neg (head?_name_ne hname _),
    readOpening_append hname hclasses]
  simp only [Option.bind_some, hchildren, hclosing]

end

/-- Well-formed fragments are read back, whatever end tag stands behind them. -/
theorem readAll_spellingAll {bound : Nat} {fragments : List Fragment} {rest : List Char}
    (hform : wellFormedAll fragments = true) (hends : Ends rest)
    (hbound : (spellingAll fragments).length < bound) :
    readAll bound (spellingAll fragments ++ rest) = some (fragments, rest) := by
  induction bound generalizing fragments rest with
  | zero => omega
  | succ bound ih =>
    cases fragments with
    | nil =>
      rcases hends with rfl | ⟨more, rfl⟩
      · rfl
      · simp [spellingAll, readAll]
    | cons fragment others =>
      simp only [wellFormedAll, Bool.and_eq_true, Bool.not_eq_true', Bool.and_eq_false_iff] at hform
      obtain ⟨⟨hfragment, hnext⟩, hothers⟩ := hform
      simp only [spellingAll, List.length_append] at hbound
      rw [spellingAll, List.append_assoc]
      have hmore : (spellingAll others).length < bound →
          readAll bound (spellingAll others ++ rest) = some (others, rest) := ih hothers hends
      cases fragment with
      | text content =>
        have hfirst : others.head?.any isText = false := by simpa [isText] using hnext
        rw [spelling, readAll_text hfragment (head?_spellingAll hfirst hends), hmore ?_]
        · rfl
        · simp only [wellFormed, Bool.and_eq_true, decide_eq_true_eq] at hfragment
          have hlength : content.toList.length ≠ 0 := by
            simpa using hfragment.1
          simp only [spelling] at hbound
          omega
      | void name classes =>
        simp only [wellFormed, Bool.and_eq_true] at hfragment
        rw [readAll_void hfragment.1 hfragment.2, hmore ?_]
        · rfl
        · simp only [spelling, opening, List.length_append, List.length_cons] at hbound
          omega
      | element name classes children =>
        simp only [wellFormed, Bool.and_eq_true] at hfragment
        obtain ⟨⟨hname, hclasses⟩, hchildren⟩ := hfragment
        simp only [spelling, opening, closing, List.length_append, List.length_cons] at hbound
        have hclosing : Ends (closing name ++ (spellingAll others ++ rest)) := .inr ⟨_, rfl⟩
        rw [readAll_element hname hclasses (ih hchildren hclosing (by omega)), hmore (by omega)]
        rfl

/-- Well-formed fragments are read back from what is written. -/
theorem read?_of_spelling {fragments : List Fragment} (hform : wellFormedAll fragments = true)
    {input : String} (hinput : input.toList = spellingAll fragments) :
    read? input = some fragments := by
  have hread := readAll_spellingAll hform (.inl rfl) (Nat.lt_succ_self _)
  rw [List.append_nil] at hread
  rw [read?, hinput, hread]
  rfl

end Fragment

end PageMarkup
