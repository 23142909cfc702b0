import PageMarkup.Html
import PageMarkup.Proofs.Document.Shape

/-!
# Classes between quotes

The classes of a component are written between quotes, with spaces between them. There is no quote
in them if there is none in the name, the classes and the parameters of the component, nor in what
all classes begin with: upper case brings no quote in, since no other character has one in its
upper-case form.
-/

namespace PageMarkup

/-- A text without a quote in it. -/
def Unquoted (text : String) : Prop := '"' ∉ text.toList

instance (text : String) : Decidable (Unquoted text) :=
  inferInstanceAs (Decidable ('"' ∉ text.toList))

namespace Text

/-- A code point above that of the quote gives no quote, whether or not it is a valid one. -/
theorem ofNat_ne_quote {code : Nat} (h : '"'.toNat < code) : Char.ofNat code ≠ '"' := by
  by_cases hvalid : code.isValidChar
  · rw [Char.ofNat, dif_pos hvalid]
    intro heq
    have hcode : code = '"'.toNat := congrArg Char.toNat heq
    omega
  · rw [Char.ofNat, dif_neg hvalid]
    decide

/-- Only the quote has a quote in its upper-case form. -/
theorem quote_not_mem_apply {c : Char} (hc : c ≠ '"') : '"' ∉ upperMapping.apply c := by
  have hruns : ∀ run ∈ upperMapping.runs, '"'.toNat < run.target := by decide +kernel
  have hexpansions : ∀ entry ∈ upperMapping.expansions, ∀ code ∈ entry.2, '"'.toNat < code := by
    decide +kernel
  unfold CaseMapping.apply
  split
  · next run hfind =>
    have htarget := hruns run (List.mem_of_find?_eq_some hfind)
    rw [List.mem_singleton]
    exact Ne.symm (ofNat_ne_quote (Nat.lt_add_right _ htarget))
  · split
    · next codes hlookup =>
      have hentry : (c.toNat, codes) ∈ upperMapping.expansions := by
        obtain ⟨before, after, hsplit, -⟩ := List.lookup_eq_some_iff.mp hlookup
        simp [hsplit]
      intro hmem
      obtain ⟨code, hcode, heq⟩ := List.mem_map.mp hmem
      exact ofNat_ne_quote (hexpansions _ hentry code hcode) heq
    · rw [List.mem_singleton]
      exact Ne.symm hc

/-- Upper case brings no quote in. -/
theorem quote_not_mem_upper {text : List Char} (h : '"' ∉ text) : '"' ∉ upper text := by
  rw [upper, List.mem_flatMap]
  rintro ⟨c, hc, hmem⟩
  exact quote_not_mem_apply (fun heq => h (heq ▸ hc)) hmem

end Text

/-- The classes that a page shows of a component: first what all classes begin with and the name;
then, each after a space, the component's own classes; then, each after a space, one class for each
parameter, the first class again with key and value in upper case behind hyphens. -/
def Component.shownClasses (options : HtmlOptions) (head : Component) : String :=
  options.classLead ++ head.name ++ String.join (head.classes.map (" " ++ ·)) ++
    String.join (head.parameters.entries.map fun entry =>
      " " ++ options.classLead ++ head.name ++ "-" ++ String.ofList (Text.upper entry.1.toList)
        ++ "-" ++ String.ofList (Text.upper entry.2.toList))

/-- Texts joined by spaces are the first one and then each other one after a space. -/
theorem intercalate_cons_eq_join (first : String) (rest : List String) :
    " ".intercalate (first :: rest) = first ++ String.join (rest.map (" " ++ ·)) := by
  induction rest generalizing first with
  | nil => simp
  | cons second more ih =>
    rw [String.intercalate_cons_cons, ih]
    simp [String.append_assoc]

/-- The class attribute shows these classes. -/
theorem Component.classText_eq (options : HtmlOptions) (head : Component) :
    head.classText options = head.shownClasses options := by
  rw [classText, htmlClasses, intercalate_cons_eq_join, List.map_append, String.join_append,
    List.map_map]
  simp [shownClasses, nameClass, parameterClass, Function.comp_def, String.append_assoc]

/-- Texts without quotes have none when they are written one after the other. -/
theorem Unquoted.append {first second : String} (hfirst : Unquoted first)
    (hsecond : Unquoted second) :
    Unquoted (first ++ second) := by
  rw [Unquoted, String.toList_append, List.mem_append, not_or]
  exact ⟨hfirst, hsecond⟩

/-- Texts without quotes have none when they are joined by spaces. -/
theorem Unquoted.intercalate {texts : List String} (h : ∀ text ∈ texts, Unquoted text) :
    Unquoted (" ".intercalate texts) := by
  have hspace : Unquoted " " := by decide +kernel
  induction texts with
  | nil => decide +kernel
  | cons first rest ih =>
    rw [List.forall_mem_cons] at h
    cases rest with
    | nil => simpa using h.1
    | cons second more =>
      rw [String.intercalate_cons_cons]
      exact (h.1.append hspace).append (ih h.2)

/-- The class of a parameter has no quote in it. -/
theorem Component.MadeOf.unquoted_parameterClass {head : Component} (h : head.MadeOf Unquoted)
    {options : HtmlOptions} (hlead : Unquoted options.classLead) {entry : String × String}
    (hentry : entry ∈ head.parameters.entries) : Unquoted (head.parameterClass options entry) := by
  have hhyphen : Unquoted "-" := by decide +kernel
  have hupper {text : String} (htext : Unquoted text) :
      Unquoted (String.ofList (Text.upper text.toList)) := by
    rw [Unquoted, String.toList_ofList]
    exact Text.quote_not_mem_upper htext
  obtain ⟨hkey, hvalue⟩ := h.parameters entry hentry
  exact ((((hlead.append h.name).append hhyphen).append (hupper hkey)).append hhyphen).append
    (hupper hvalue)

/-- The classes of a component have no quote in them. -/
theorem Component.MadeOf.unquoted_classText {head : Component} (h : head.MadeOf Unquoted)
    {options : HtmlOptions} (hlead : Unquoted options.classLead) :
    Unquoted (head.classText options) := by
  refine Unquoted.intercalate ?_
  rw [Component.htmlClasses, List.forall_mem_cons, List.forall_mem_append, List.forall_mem_map]
  exact ⟨hlead.append h.name, h.classes, fun entry hentry => h.unquoted_parameterClass hlead hentry⟩

end PageMarkup
