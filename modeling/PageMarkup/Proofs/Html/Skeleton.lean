import PageMarkup.Proofs.Compilation
import PageMarkup.Proofs.Html.Classes
import PageMarkup.Proofs.Html.Fragment
import PageMarkup.Proofs.Scan.Splitting
import PageMarkup.Session

/-!
# The page tells the tree

The skeleton of a tree is what a page shows of it: for each component its element with its classes
and what it holds, for each mark its element, and the texts that are not empty. A document that is
read from tokens is written as its skeleton, and from the page the skeleton can be read back, as
long as no text has an angle bracket in it that opens a tag. White space around the page would be
cut off, but there is none, since the page begins and ends with tags.
-/

namespace PageMarkup

namespace Node

mutual

/-- What a page shows of a node. -/
def skeleton (options : HtmlOptions) : Node → List Fragment
  | component head children =>
    [.element head.element (head.shownClasses options) (skeletonAll options children)]
  | literal text => if text = "" then [] else [.text text]
  | mark name element => [.void element (options.classLead ++ name)]

/-- What a page shows of nodes, in order. -/
def skeletonAll (options : HtmlOptions) : List Node → List Fragment
  | [] => []
  | node :: rest => node.skeleton options ++ skeletonAll options rest

end

/-- A node is written as its skeleton, which is a single tag or element that can be read back. -/
def Written (options : HtmlOptions) (node : Node) : Prop :=
  ∃ fragment : Fragment, node.skeleton options = [fragment] ∧
    (node.html options).toList = fragment.spelling ∧ fragment.isText = false ∧
    fragment.wellFormed = true

variable {options : HtmlOptions}

/-- Nodes that are written as their skeletons are written so one after the other. -/
theorem written_all {nodes : List Node} (h : ∀ node ∈ nodes, node.Written options) :
    (htmlAll options nodes).toList = Fragment.spellingAll (skeletonAll options nodes) ∧
      Fragment.wellFormedAll (skeletonAll options nodes) = true ∧
      ∀ fragment ∈ skeletonAll options nodes, fragment.isText = false := by
  induction nodes with
  | nil => exact ⟨rfl, rfl, by simp [skeletonAll]⟩
  | cons node rest ih =>
    rw [List.forall_mem_cons] at h
    obtain ⟨⟨fragment, hskeleton, hhtml, htext, hform⟩, hrest⟩ := h
    obtain ⟨hspelling, hformAll, htexts⟩ := ih hrest
    refine ⟨?_, ?_, ?_⟩
    · simp [htmlAll, skeletonAll, hskeleton, hhtml, hspelling, Fragment.spellingAll]
    · simp [skeletonAll, hskeleton, Fragment.wellFormedAll, hform, htext, hformAll]
    · simpa [skeletonAll, hskeleton, htext] using htexts

/-- The element of a component has a name. -/
theorem isName_elementFor (name : String) : Fragment.isName (Component.elementFor name) = true := by
  unfold Component.elementFor
  split
  · decide +kernel
  split
  · decide +kernel
  split
  · decide +kernel
  · decide +kernel

/-- A text without quotes can stand between quotes. -/
theorem isQuotable_of_unquoted {text : String} (h : Unquoted text) :
    Fragment.isQuotable text = true := by
  rw [Fragment.isQuotable, List.all_eq_true]
  intro c hc
  rw [bne_iff_ne]
  rintro rfl
  exact h hc

/-- A component is written as its skeleton if its children are. -/
theorem written_component {head : Component} {children : List Node} (hhead : head.MadeOf Unquoted)
    (hlead : Unquoted options.classLead)
    (hchildren : (htmlAll options children).toList =
      Fragment.spellingAll (skeletonAll options children))
    (hform : Fragment.wellFormedAll (skeletonAll options children) = true) :
    (component head children).Written options := by
  refine ⟨_, rfl, ?_, rfl, ?_⟩
  · have hnone : Component.attributeText head.attributes.entries = "" := by
      rw [hhead.attributes]
      rfl
    simp [html, Component.startTag, Component.endTag, Component.classText_eq, hnone, hchildren,
      Fragment.spelling, Fragment.opening, Fragment.closing, Fragment.classMark]
  · have hclasses := hhead.unquoted_classText hlead
    rw [Component.classText_eq] at hclasses
    rw [Fragment.wellFormed, hhead.element, isName_elementFor, isQuotable_of_unquoted hclasses,
      hform]
    rfl

/-- A mark is written as its skeleton. -/
theorem written_mark (hlead : Unquoted options.classLead) {name element : String}
    (hname : Unquoted name) (helement : Fragment.isName element = true) :
    (mark name element).Written options := by
  refine ⟨.void element (options.classLead ++ name), rfl, ?_, rfl, ?_⟩
  · simp [html, Fragment.spelling, Fragment.opening, Fragment.classMark]
  · rw [Fragment.wellFormed, helement, isQuotable_of_unquoted (hlead.append hname)]
    rfl

/-- A text in its wrapper is written as its skeleton, and an empty one leaves no text. -/
theorem written_wrapped (hlead : Unquoted options.classLead) {text : String} (inList : Bool)
    (htext : '<' ∉ text.toList) : (wrapped text inList).Written options := by
  have hhead : (Component.named (if inList then Component.listItem else Component.line)).MadeOf
      Unquoted := .named (by cases inList <;> decide +kernel)
  have hchildren : (htmlAll options [.literal text]).toList =
      Fragment.spellingAll (skeletonAll options [.literal text]) := by
    by_cases hempty : text = ""
    · simp [htmlAll, html, skeletonAll, skeleton, hempty, Fragment.spellingAll]
    · simp [htmlAll, html, skeletonAll, skeleton, hempty, Fragment.spellingAll, Fragment.spelling]
  have hform : Fragment.wellFormedAll (skeletonAll options [.literal text]) = true := by
    by_cases hempty : text = ""
    · simp [skeletonAll, skeleton, hempty, Fragment.wellFormedAll]
    · have hplain : ∀ c ∈ text.toList, ¬c = '<' := fun c hc heq => htext (heq ▸ hc)
      simpa [skeletonAll, skeleton, hempty, Fragment.wellFormedAll, Fragment.wellFormed]
        using hplain
  exact written_component hhead hlead hchildren hform

/-- What one of several nodes shows is part of what they show. -/
theorem mem_piecesAll_of_mem {nodes : List Node} {node : Node} (hnode : node ∈ nodes)
    {piece : Piece} (hpiece : piece ∈ node.pieces) : piece ∈ piecesAll nodes := by
  induction nodes with
  | nil => cases hnode
  | cons first rest ih =>
    rw [piecesAll, List.mem_append]
    rcases List.mem_cons.mp hnode with rfl | hrest
    · exact .inl hpiece
    · exact .inr (ih hrest)

/-- What its children show is part of what a component shows. -/
theorem mem_pieces_component {head : Component} {children : List Node} {piece : Piece}
    (h : piece ∈ piecesAll children) : piece ∈ (component head children).pieces := by
  rw [pieces]
  split
  · exact h
  · exact List.mem_cons_of_mem _ h

/-- A shaped tree is written as its skeleton if no text opens a tag. -/
theorem Shaped.written {node : Node} (h : node.Shaped Unquoted) (hlead : Unquoted options.classLead)
    (htexts : ∀ text, .literal text ∈ node.pieces → '<' ∉ text.toList) : node.Written options := by
  induction h with
  | @component head children hhead hchildren ih =>
    have hwritten : ∀ child ∈ children, child.Written options := fun child hchild =>
      ih child hchild fun text htext =>
        htexts text (mem_pieces_component (mem_piecesAll_of_mem hchild htext))
    obtain ⟨hspelling, hform, -⟩ := written_all hwritten
    exact written_component hhead hlead hspelling hform
  | wrapped text inList =>
    have hplain : '<' ∉ text.toList := htexts text (by simp [pieces_wrapped])
    exact written_wrapped hlead inList hplain
  | lineBreak => exact written_mark hlead (by decide +kernel) (by decide +kernel)
  | horizontalRule => exact written_mark hlead (by decide +kernel) (by decide +kernel)

end Node

namespace Fragment

/-- What is no text is written between angle brackets. -/
theorem ends_spelling {fragment : Fragment} (h : fragment.isText = false) :
    fragment.spelling.head? = some '<' ∧ fragment.spelling.getLast? = some '>' := by
  cases fragment with
  | element name classes children =>
    simp [spelling, opening, closing, List.getLast?_cons, List.getLast?_append]
  | void name classes => simp [spelling, opening, List.getLast?_cons, List.getLast?_append]
  | text content => cases h

/-- Where no fragment is a text, there is no white space around what is written. -/
theorem trim_spellingAll {fragments : List Fragment}
    (h : ∀ fragment ∈ fragments, fragment.isText = false) :
    Text.trim (spellingAll fragments) = spellingAll fragments := by
  refine Text.trim_eq_self ?_ ?_
  · cases fragments with
    | nil => rfl
    | cons fragment rest =>
      rw [List.forall_mem_cons] at h
      rw [spellingAll, List.head?_append, (ends_spelling h.1).1, Option.some_or]
      decide
  · induction fragments with
    | nil => rfl
    | cons fragment rest ih =>
      rw [List.forall_mem_cons] at h
      rw [spellingAll, List.getLast?_append, (ends_spelling h.1).2]
      cases hlast : (spellingAll rest).getLast? with
      | none => decide
      | some c =>
        have hrest := ih h.2
        rwa [hlast] at hrest

end Fragment

/-- In a lexeme that can describe a component there is no quote. -/
theorem Scan.Lexeme.quote_not_mem {lexeme : Lexeme} (hform : lexeme.wellFormed = true)
    (hkind : lexeme.kind.describes = true) : '"' ∉ lexeme.text := by
  obtain ⟨kind, text⟩ := lexeme
  cases kind with
  | keyword | identifier =>
    obtain _ | ⟨c, word⟩ := text
    · cases hform
    simp only [wellFormed, Bool.and_eq_true, List.all_eq_true] at hform
    intro hmem
    rcases List.mem_cons.mp hmem with rfl | hword
    · exact absurd hform.1 (by decide)
    · exact absurd (hform.2 _ hword) (by decide)
  | string =>
    intro hmem
    simpa using List.all_eq_true.mp hform _ hmem
  | constant =>
    intro hmem
    exact absurd (List.all_eq_true.mp hform _ hmem) (by decide)
  | _ => cases hkind

/-- The tokens of a text that can describe components have no quotes in them. -/
theorem Scan.unquoted_of_scan {text : List Char} {scanned : Scanned} (h : scan text = .ok scanned) :
    ∀ token ∈ scanned.tokens, token.kind.describes = true → Unquoted token.text := by
  intro token htoken hkind
  obtain ⟨split, hsplit⟩ := exists_spells_of_scan h
  rw [scan_of_spells hsplit] at h
  cases h
  obtain ⟨-, -, -, -, hform⟩ := Split.exists_of_mem_tokens hsplit.1 htoken
  exact Lexeme.quote_not_mem hform hkind

/-- A compilation that goes well keeps the document that the tokens of the source denote. -/
theorem Session.compile_ok {session : Session} {source : String} {elapsed : Elapsed}
    {document : Document} (h : (session.compile source elapsed).1 = .ok document) :
    (session.compile source elapsed).2.document = some document ∧
      (session.compile source elapsed).2.options = session.options ∧
      ∃ scanned read, Scan.scan (Source.normalize source) = .ok scanned ∧
        Document.ofTokens scanned.tokens = .ok read ∧ document = read.stamped := by
  unfold compile at h ⊢
  split at h
  · cases h
  · next hsource =>
    rw [if_neg hsource]
    rcases Compilation.result_cases source with ⟨-, hresult⟩ | ⟨stop, -, hresult⟩ |
      ⟨scanned, hscan, ⟨fault, -, hresult⟩ | ⟨read, hread, hresult⟩⟩
    · simp [hresult] at h
    · simp [hresult] at h
    · simp [hresult] at h
    · dsimp only at h ⊢
      rw [hresult] at h ⊢
      cases h
      exact ⟨rfl, rfl, scanned, read, hscan, hread, rfl⟩

/-- The page of a source tells the tree: it is written as the skeleton of the tree, a well-nested
sequence of tags and texts from which the skeleton can be read back, and nothing is cut off. -/
theorem html_tells_skeleton {session : Session} {source : String} {compiling generating : Elapsed}
    {document : Document} (hcompile : (session.compile source compiling).1 = .ok document)
    (htexts : ∀ text, .literal text ∈ Node.piecesAll document.body → '<' ∉ text.toList)
    (hlead : '"' ∉ session.options.classLead.toList) :
    ∃ output,
      ((session.compile source compiling).2.generate "html" generating).1 = .ok output ∧
      output = Node.htmlAll session.options document.body ∧
      output.toList = Fragment.spellingAll (Node.skeletonAll session.options document.body) ∧
      Fragment.wellFormedAll (Node.skeletonAll session.options document.body) = true ∧
      Fragment.read? output = some (Node.skeletonAll session.options document.body) := by
  obtain ⟨hdocument, hoptions, scanned, read, hscan, hread, rfl⟩ := Session.compile_ok hcompile
  have hshaped : ∀ node ∈ read.body, node.Shaped Unquoted :=
    Document.shaped_of_ofTokens hread (by decide +kernel) (by decide +kernel)
      (Scan.unquoted_of_scan hscan)
  have hwritten : ∀ node ∈ read.body, node.Written session.options := fun node hnode =>
    (hshaped node hnode).written hlead fun text htext =>
      htexts text (Node.mem_piecesAll_of_mem hnode htext)
  obtain ⟨hspelling, hform, htags⟩ := Node.written_all hwritten
  have hwhole : Document.html session.options read.stamped =
      Node.htmlAll session.options read.body := by
    rw [Document.html, Document.stamped, hspelling, Fragment.trim_spellingAll htags, ← hspelling,
      String.ofList_toList]
  refine ⟨_, ?_, rfl, hspelling, hform, Fragment.read?_of_spelling hform hspelling⟩
  have htarget : Target.ofName "html" = .ok .html := if_pos (by decide +kernel)
  have hgenerate : Document.generate session.options read.stamped "html" =
      .ok (Node.htmlAll session.options read.body) := by
    rw [Document.generate, htarget, ← hwhole]
    rfl
  rw [Session.generate, hdocument, hoptions]
  dsimp only
  rw [hgenerate]
  rfl

/-- A component with a class, a parameter, a text with white space at its edges and an empty one. -/
def spacedTextSource : String := "A.b(k:\"v\")[\" x \"\"\"]"

/-- White space at the edges of a text is shown, and an empty text leaves its wrapper empty. -/
theorem html_of_spaced_text :
    ∃ document output,
      (Session.compile {} spacedTextSource ⟨0, 0⟩).1 = .ok document ∧
      (∀ text, .literal text ∈ Node.piecesAll document.body → '<' ∉ text.toList) ∧
      ((Session.compile {} spacedTextSource ⟨0, 0⟩).2.generate "html" ⟨0, 0⟩).1 = .ok output ∧
      output = "<div class=\"ns-PageWrapper\"><div class=\"ns-A b ns-A-K-V\">" ++
        "<div class=\"ns-Line\"> x </div><div class=\"ns-Line\"></div></div></div>" ∧
      Fragment.read? output = some (Node.skeletonAll {} document.body) := by
  let split : Scan.Split :=
    .next [] ⟨.keyword, ['A']⟩ <| .next [] ⟨.dot, ['.']⟩ <| .next [] ⟨.identifier, ['b']⟩ <|
    .next [] ⟨.roundOpen, ['(']⟩ <| .next [] ⟨.identifier, ['k']⟩ <| .next [] ⟨.colon, [':']⟩ <|
    .next [] ⟨.string, ['v']⟩ <| .next [] ⟨.roundClose, [')']⟩ <| .next [] ⟨.squareOpen, ['[']⟩ <|
    .next [] ⟨.string, [' ', 'x', ' ']⟩ <| .next [] ⟨.string, []⟩ <|
    .next [] ⟨.squareClose, [']']⟩ <| .finish []
  have hnormal : Source.normalize spacedTextSource = 'A' :: split.text.tail := by
    decide +kernel
  have hscan :=
    Scan.scan_of_spells (show split.Spells ('A' :: split.text.tail) from ⟨by decide, rfl⟩)
  let read : Document := (Document.ofTokens (split.tokens .first)).toOption.getD {}
  have hread : Document.ofTokens (split.tokens .first) = .ok read := rfl
  have hcompile : (Session.compile {} spacedTextSource ⟨0, 0⟩).1 = .ok read.stamped := by
    unfold Session.compile
    rw [if_neg (by decide +kernel), Compilation.ofSource, Source.stream?, hnormal]
    dsimp only [Compilation.ofStream]
    rw [hscan]
    rfl
  have hpieces : Node.piecesAll read.stamped.body =
      [.component "PageWrapper", .component "A", .literal " x ", .literal ""] := by decide +kernel
  have htexts : ∀ text, .literal text ∈ Node.piecesAll read.stamped.body → '<' ∉ text.toList := by
    intro text htext
    have hcases : text = " x " ∨ text = "" := by simpa [hpieces] using htext
    rcases hcases with rfl | rfl <;> decide +kernel
  obtain ⟨output, hgenerate, houtput, -, -, hfragments⟩ :=
    html_tells_skeleton hcompile htexts (by decide +kernel)
  refine ⟨read.stamped, output, hcompile, htexts, hgenerate, ?_, hfragments⟩
  rw [houtput]
  decide +kernel

end PageMarkup
