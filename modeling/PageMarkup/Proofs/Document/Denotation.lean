import PageMarkup.Proofs.Balance
import PageMarkup.Proofs.Document.Focus
import PageMarkup.Proofs.Document.Grammar

/-!
# Scripts are read as the documents they denote

Reading the tokens of an item is a single step from one settled builder to the next: it adds the
item's nodes at the end of the innermost block, files its declarations, and leaves no word,
colon, dot or declaration waiting. The only trace that remains is a context for each short form,
which nothing takes back; since it is the context of a component, what follows is read as if it
were not there. The brackets of a script match as well, so every script passes the check and is
read as the document that it denotes.
-/

namespace PageMarkup

open Grammar

/-- The component with more classes. -/
def Component.addClasses (component : Component) (names : List String) : Component :=
  { component with classes := component.classes ++ names }

/-- The component with more parameters. -/
def Component.addParameters (component : Component) (pairs : List (String × String)) :
    Component :=
  { component with parameters := pairs.foldl configure component.parameters }

namespace Grammar

open Document (Directive)

/-- Components are shown as the elements of their names. -/
theorem elementOf_eq (name : String) : elementOf name = Component.elementFor name := by
  unfold elementOf
  split
  · rfl
  · rfl
  · rfl
  · next hsection hlist hitem =>
    rw [Component.elementFor, if_neg hsection, Component.list, if_neg hlist, Component.listItem,
      if_neg hitem]

/-- A component begins with its name, and gets its classes and its parameters then. -/
theorem Heading.component_eq (heading : Heading) :
    heading.component =
      ((Component.named heading.name.val.text).addClasses
        (heading.classes.map fun entry => entry.2.val.text)).addParameters heading.pairs := by
  rw [Heading.component, elementOf_eq]
  rfl

/-- A text is wrapped as its place tells. -/
theorem Value.node_eq (inList : Bool) (text : Value) :
    text.node inList = .wrapped text.val.text inList := by
  cases inList <;> rfl

/-- The directive of a topic is told by its letters in lower case. -/
theorem ofTopic_eq_iff (topic : String) :
    (Directive.ofTopic topic = .configure ↔
      String.ofList (Text.lower topic.toList) = "configure") ∧
    (Directive.ofTopic topic = .reference ↔
      String.ofList (Text.lower topic.toList) = "reference") := by
  unfold Directive.ofTopic
  dsimp only
  split
  · next hconfigure => simp [hconfigure]
  · next hconfigure =>
    split
    · next hreference => simp [hreference]
    · next hreference => simp [hconfigure, hreference]

/-- What is filed in two lists is written one after the other. -/
theorem filed_append {α : Type} (topic : String) (write : Table α → String × String → Table α)
    (table : Table α) (first second : List Filing) :
    filed topic write table (first ++ second) =
      filed topic write (filed topic write table first) second := by
  simp [filed]

end Grammar

namespace Document.Builder

variable {builder : Builder}

/-- The builder after declarations, which only concern the two tables. -/
def recorded (builder : Builder) (filings : List Filing) : Builder :=
  { builder with
    configurations := filed "configure" configure builder.configurations filings
    references := filed "reference" refer builder.references filings }

@[simp]
theorem recorded_nil (builder : Builder) : builder.recorded [] = builder := rfl

/-- Recording a value files it under its topic and key. -/
theorem record_eq_recorded (builder : Builder) (filing : Filing) :
    builder.record ⟨.ofTopic filing.topic, filing.key⟩ filing.value =
      builder.recorded [filing] := by
  obtain ⟨hconfigure, hreference⟩ := ofTopic_eq_iff filing.topic
  unfold record recorded filed
  cases hdirective : Directive.ofTopic filing.topic <;>
    simp [Filing.pair?, ← hconfigure, ← hreference, hdirective, configure, refer]

/-- In a declaration a word of either case is its key. -/
theorem accept_key (hcontext : builder.contexts.head? = some .declaration)
    (hdotted : builder.dotted = false) (key : Key) :
    builder.accept key.val.kind key.val.text =
      .ok { builder with declared := key.val.text :: builder.declared } := by
  rw [accept_of_not_dotted hdotted]
  rcases key.property.1 with hkind | hkind
  · rw [hkind, dispatch, readIdentifier, hcontext]
  · rw [hkind, dispatch, readKeyword, if_pos hcontext]

/-- A value is read the same whether it is a quoted text or a constant. -/
theorem dispatch_value (builder : Builder) (value : Value) :
    builder.dispatch value.val.text value.val.kind = builder.readValue value.val.text := by
  rcases value.property with hkind | hkind <;> rw [hkind, dispatch]

/-- A declaration is recorded wherever it stands, and leaves nothing open. -/
theorem run_declaration (builder : Builder) (declared : Declaration) (tokens : List Token) :
    builder.run (declared.tokens ++ tokens) =
      ({ builder with dotted := false }.recorded [declared.filing]).run tokens := by
  obtain ⟨topic, key, colon, value, htopic⟩ := declared
  let opened : Builder := { builder with
    dotted := false
    declared := topic.val.text :: builder.declared
    contexts := .declaration :: builder.contexts }
  let keyed : Builder := { opened with declared := key.val.text :: opened.declared }
  let pending : Builder := { keyed with colons := keyed.colons + 1 }
  have hopened : builder.accept .declaration topic.val.text = .ok opened := rfl
  have hkeyed : opened.accept key.val.kind key.val.text = .ok keyed := accept_key rfl rfl key
  have hpending : keyed.accept .colon colon.val.text = .ok pending := rfl
  have hclosed : pending.accept value.val.kind value.val.text =
      .ok ({ builder with dotted := false }.recorded
        [⟨topic.val.text, key.val.text, value.val.text⟩]) := by
    have hdeclaration : pending.declaration? =
        some (⟨.ofTopic topic.val.text, key.val.text⟩, builder.declared) := by
      simp [declaration?, pending, keyed, opened, key.property.2, htopic]
    rw [accept_of_not_dotted rfl, dispatch_value, readValue]
    change pending.declare value.val.text = _
    rw [declare, hdeclaration]
    dsimp only
    rw [record_eq_recorded pending ⟨topic.val.text, key.val.text, value.val.text⟩]
    rfl
  change builder.run (topic.val :: key.val :: colon.val :: value.val :: tokens) = _
  rw [run_cons_of_accept topic.property hopened, run_cons_of_accept rfl hkeyed,
    run_cons_of_accept colon.property hpending, run_cons_of_accept rfl hclosed]
  rfl

namespace Focus

variable {outer : List Frame} {inner : Frame} {nodes : List Node}

/-- A word after a dot is a class of the current component. -/
theorem readIdentifier_of_dotted (focus : builder.Focus outer inner nodes)
    (hcontext : builder.contexts.head? = some .component) (hdotted : builder.dotted = true)
    (text : String) :
    builder.readIdentifier text =
      .ok (withTree { builder with dotted := false }
        (outer ++ [⟨inner.before, inner.head.addClasses [text]⟩]) nodes) := by
  have hattach := focus.attach .className (·.addClasses [text]) id
  simp only [Component.addClasses, id_eq] at hattach
  rw [readIdentifier, hcontext]
  simp only [hdotted, if_true]
  rw [hattach]
  rfl

/-- A class of the current component is written as a dot and a word. -/
theorem run_class (focus : builder.Focus outer inner nodes)
    (hcontext : builder.contexts.head? = some .component) (hdotted : builder.dotted = false)
    (dot : Terminal .dot) (name : Terminal .identifier) (tokens : List Token) :
    builder.run (dot.val :: name.val :: tokens) =
      (builder.withTree
        (outer ++ [⟨inner.before, inner.head.addClasses [name.val.text]⟩]) nodes).run tokens := by
  let expecting : Builder := { builder with dotted := true }
  have hdot : builder.accept .dot dot.val.text = .ok expecting := by
    rw [accept_of_not_dotted hdotted, dispatch, hcontext]
    rfl
  have hexpecting : expecting.Focus outer inner nodes := ⟨focus.body, focus.current⟩
  have hname := hexpecting.readIdentifier_of_dotted hcontext rfl name.val.text
  rw [run_cons_of_accept dot.property hdot, run_cons_of_accept name.property hname]
  cases builder
  cases hdotted
  rfl

/-- Classes are added to the current component in order. -/
theorem run_classes {inner : Frame} (focus : builder.Focus outer inner nodes)
    (hcontext : builder.contexts.head? = some .component) (hdotted : builder.dotted = false)
    (classes : List (Terminal .dot × Terminal .identifier)) (tokens : List Token) :
    builder.run (classTokens classes ++ tokens) =
      (builder.withTree
        (outer ++ [⟨inner.before,
          inner.head.addClasses (classes.map fun entry => entry.2.val.text)⟩]) nodes).run
        tokens := by
  induction classes generalizing builder inner with
  | nil =>
    simp only [classTokens, List.nil_append, List.map_nil, Component.addClasses, List.append_nil]
    rw [focus.withTree_eq]
  | cons entry rest ih =>
    obtain ⟨dot, name⟩ := entry
    change builder.run (dot.val :: name.val :: (classTokens rest ++ tokens)) = _
    rw [focus.run_class hcontext hdotted, ih (focus.change _ _) hcontext hdotted]
    simp [withTree, Component.addClasses]

/-- A parameter of the current component is written as a word, a colon and a value. -/
theorem run_parameter (focus : builder.Focus outer inner nodes)
    (hcontext : builder.contexts.head? = some .component) (hdotted : builder.dotted = false)
    (hrounds : 0 < builder.rounds) (parameter : Parameter) (tokens : List Token) :
    builder.run (parameter.tokens ++ tokens) =
      (builder.withTree
        (outer ++ [⟨inner.before, inner.head.addParameters [parameter.pair]⟩]) nodes).run
        tokens := by
  obtain ⟨name, colon, value⟩ := parameter
  let keyed : Builder := { builder with keys := name.val.text :: builder.keys }
  let pending : Builder := { keyed with colons := keyed.colons + 1 }
  have hkeyed : builder.accept .identifier name.val.text = .ok keyed := by
    rw [accept_of_not_dotted hdotted, dispatch, readIdentifier, hcontext]
    simp [hdotted, hrounds, keyed]
  have hkeyedDotted : keyed.dotted = false := hdotted
  have hpending : keyed.accept .colon colon.val.text = .ok pending :=
    accept_of_not_dotted hkeyedDotted _ _
  have hvalue : pending.accept value.val.kind value.val.text =
      .ok (builder.withTree
        (outer ++ [⟨inner.before,
          inner.head.addParameters [(name.val.text, value.val.text)]⟩]) nodes) := by
    have hfocus : pending.Focus outer inner nodes := ⟨focus.body, focus.current⟩
    have hpendingContext : pending.contexts.head? = some .component := hcontext
    have hattach := hfocus.attach .parameter
      (·.addParameters [(name.val.text, value.val.text)]) id
    simp only [Component.addParameters, configure, List.foldl_cons, List.foldl_nil, id_eq]
      at hattach
    have hpendingDotted : pending.dotted = false := hdotted
    rw [accept_of_not_dotted hpendingDotted, dispatch_value, readValue, hpendingContext]
    change (if 0 < builder.rounds then pending.setParameter name.val.text value.val.text
      else _) = _
    rw [if_pos hrounds, setParameter, hattach]
    rfl
  change builder.run (name.val :: colon.val :: value.val :: tokens) = _
  rw [run_cons_of_accept name.property hkeyed, run_cons_of_accept colon.property hpending,
    run_cons_of_accept rfl hvalue]
  rfl

/-- Parameters that follow a first one are written with commas before them. -/
theorem run_parametersAfter {inner : Frame} (focus : builder.Focus outer inner nodes)
    (hcontext : builder.contexts.head? = some .component) (hdotted : builder.dotted = false)
    (hrounds : 0 < builder.rounds)
    (parameters : List (Terminal .comma × Parameter)) (tokens : List Token) :
    builder.run (Parameter.tokensAfter parameters ++ tokens) =
      (builder.withTree
        (outer ++ [⟨inner.before,
          inner.head.addParameters (parameters.map fun entry => entry.2.pair)⟩]) nodes).run
        tokens := by
  induction parameters generalizing builder inner with
  | nil =>
    change builder.run tokens = (builder.withTree (outer ++ [inner]) nodes).run tokens
    rw [focus.withTree_eq]
  | cons entry rest ih =>
    obtain ⟨comma, parameter⟩ := entry
    have hcomma : builder.accept .comma comma.val.text = .ok builder :=
      accept_of_not_dotted hdotted _ _
    change builder.run (comma.val :: (parameter.tokens ++ Parameter.tokensAfter rest ++ tokens)) =
      _
    rw [run_cons_of_accept comma.property hcomma, List.append_assoc,
      focus.run_parameter hcontext hdotted hrounds,
      ih (focus.change _ _) hcontext hdotted hrounds]
    rfl

/-- A list of parameters gives them to the current component in order. -/
theorem run_parameterList (focus : builder.Focus outer inner nodes)
    (hcontext : builder.contexts.head? = some .component) (hdotted : builder.dotted = false)
    (list : ParameterList) (tokens : List Token) :
    builder.run (list.tokens ++ tokens) =
      (builder.withTree
        (outer ++ [⟨inner.before,
          inner.head.addParameters (list.toList.map Parameter.pair)⟩]) nodes).run tokens := by
  obtain ⟨opener, parameters, closer⟩ := list
  let opened : Builder := { builder with rounds := builder.rounds + 1 }
  have hopened : builder.accept .roundOpen opener.val.text = .ok opened :=
    accept_of_not_dotted hdotted _ _
  have hfocus : opened.Focus outer inner nodes := ⟨focus.body, focus.current⟩
  have hclosed (frames : List Frame) (children : List Node) :
      (opened.withTree frames children).accept .roundClose closer.val.text =
        .ok (builder.withTree frames children) := by
    have hdotted' : (opened.withTree frames children).dotted = false := hdotted
    exact accept_of_not_dotted hdotted' _ _
  have hrounds : 0 < opened.rounds := Nat.succ_pos _
  cases parameters with
  | none =>
    change builder.run (opener.val :: closer.val :: tokens) = _
    rw [run_cons_of_accept opener.property hopened, ← hfocus.withTree_eq,
      run_cons_of_accept closer.property (hclosed _ _)]
    rfl
  | some parameters =>
    obtain ⟨first, rest⟩ := parameters
    change builder.run (opener.val ::
      (first.tokens ++ Parameter.tokensAfter rest ++ [closer.val] ++ tokens)) = _
    rw [run_cons_of_accept opener.property hopened, List.append_assoc, List.append_assoc,
      hfocus.run_parameter hcontext hdotted hrounds,
      (hfocus.change _ _).run_parametersAfter hcontext hdotted hrounds]
    change ((opened.withTree _ _).run (closer.val :: tokens)) = _
    rw [run_cons_of_accept closer.property (hclosed _ _)]
    simp [ParameterList.toList, Component.addParameters, Function.comp_def]

end Focus

/-- A heading begins a component with its classes and parameters. -/
theorem run_heading {outer : List Frame} {before : List Node} {heading : Heading}
    (hcontext : builder.contexts.head? ≠ some .declaration) (hdotted : builder.dotted = false)
    (hbegin : builder.beginComponent heading.name.val.text =
      .ok (builder.begun outer before (.named heading.name.val.text))) (tokens : List Token) :
    builder.run (heading.tokens ++ tokens) =
      (builder.begun outer before heading.component).run tokens := by
  rw [heading.component_eq]
  obtain ⟨name, classes, parameters⟩ := heading
  have hname : builder.accept .keyword name.val.text =
      .ok (builder.begun outer before (.named name.val.text)) := by
    rw [accept_of_not_dotted hdotted, dispatch, readKeyword, if_neg hcontext, hbegin]
  have hfocus := builder.focus_begun outer before (.named name.val.text)
  cases parameters with
  | none =>
    change builder.run (name.val :: (classTokens classes ++ [] ++ tokens)) = _
    rw [run_cons_of_accept name.property hname, List.append_nil, hfocus.run_classes rfl hdotted,
      withTree_begun]
    rfl
  | some list =>
    change builder.run (name.val :: (classTokens classes ++ list.tokens ++ tokens)) = _
    rw [run_cons_of_accept name.property hname, List.append_assoc, hfocus.run_classes rfl hdotted,
      withTree_begun, (builder.focus_begun outer before _).run_parameterList rfl hdotted,
      withTree_begun]
    rfl

/-- The builder after a component with its content, which the given branch holds last. The
contexts of short forms are never taken back. -/
def finished (builder : Builder) (outer : List Frame) (nodes : List Node) (shorthands : Nat)
    (filings : List Filing) : Builder :=
  { builder.recorded filings with
    body := Frame.plug outer nodes
    contexts := List.replicate shorthands .component ++ builder.contexts
    current := builder.blocks.head? }

/-- Nothing waits for a value or a name. -/
structure Settled (builder : Builder) : Prop where
  context : builder.contexts.head? ≠ some .declaration
  keys : builder.keys = []
  colons : builder.colons = 0
  dotted : builder.dotted = false
  current : builder.current = builder.blocks.head?

/-- A value that nothing waits for is a text of its own. -/
theorem Settled.readValue_eq (settled : builder.Settled) (text : String) :
    builder.readValue text = builder.addLiteral text := by
  have hcontext := settled.context
  rw [readValue, settled.keys]
  split <;> simp_all

/-- Finished components leave nothing waiting. -/
theorem Settled.finished (settled : builder.Settled) (outer : List Frame) (nodes : List Node)
    (shorthands : Nat) (filings : List Filing) :
    (builder.finished outer nodes shorthands filings).Settled where
  context := by
    change (List.replicate shorthands Context.component ++ builder.contexts).head? ≠ _
    cases shorthands with
    | zero => exact settled.context
    | succ count => simp [List.replicate_succ]
  keys := settled.keys
  colons := settled.colons
  dotted := settled.dotted
  current := rfl

/-- Items one after the other add up. -/
theorem finished_finished (builder : Builder) (outer : List Frame) (first second : List Node)
    (firstCount secondCount : Nat) (firstFiled secondFiled : List Filing) :
    (builder.finished outer first firstCount firstFiled).finished outer second secondCount
        secondFiled =
      builder.finished outer second (secondCount + firstCount)
        (firstFiled ++ secondFiled) := by
  simp [finished, recorded, filed_append, ← List.replicate_append_replicate]

/-- A single value after a colon ends a component. -/
theorem run_shorthand (settled : builder.Settled) {outer : List Frame} {before : List Node}
    {head : Component} {inList : Bool}
    (hlist : (builder.begun outer before head).inList = inList) (colon : Terminal .colon)
    (value : Value) (tokens : List Token) :
    (builder.begun outer before head).run (colon.val :: value.val :: tokens) =
      (builder.finished outer (before ++ [.component head [value.node inList]]) 1
        []).run tokens := by
  let pending : Builder :=
    { builder.begun outer before head with colons := builder.colons + 1 }
  have hdotted : (builder.begun outer before head).dotted = false := settled.dotted
  have hpendingDotted : pending.dotted = false := settled.dotted
  have hpending : (builder.begun outer before head).accept .colon colon.val.text = .ok pending :=
    accept_of_not_dotted hdotted _ _
  have hfocus : pending.Focus outer ⟨before, head⟩ [] := ⟨rfl, rfl⟩
  have hvalue : pending.accept value.val.kind value.val.text =
      .ok (builder.finished outer (before ++ [.component head [value.node inList]])
        1 []) := by
    have hlist' : pending.inList = inList := hlist
    have hkeys : pending.keys = [] := settled.keys
    rw [accept_of_not_dotted hpendingDotted, dispatch_value, readValue, hkeys]
    change pending.addLiteral value.val.text = _
    rw [addLiteral, hlist', hfocus.append, ← value.node_eq]
    simp [bind, Except.bind, finished, withTree, pending, begun, Frame.plug_append, pure,
      Except.pure]
  rw [run_cons_of_accept colon.property hpending, run_cons_of_accept rfl hvalue]

/-- The builder after a heading and the square bracket behind it. -/
def opened (builder : Builder) (outer : List Frame) (before : List Node) (head : Component) :
    Builder :=
  { builder.begun outer before head with
    blocks := Frame.path (outer ++ [⟨before, head⟩]) :: builder.blocks
    squares := builder.squares + 1 }

/-- An opened block leaves nothing waiting. -/
theorem Settled.opened (settled : builder.Settled) (outer : List Frame) (before : List Node)
    (head : Component) : (builder.opened outer before head).Settled :=
  ⟨by simp [Builder.opened, begun], settled.keys, settled.colons, settled.dotted, rfl⟩

/-- A block between square brackets ends a component. -/
theorem run_block (settled : builder.Settled) {outer : List Frame} {before nodes : List Node}
    {head : Component} {inside : List Token} {shorthands : Nat}
    {filings : List Filing}
    (hinside : ∀ tokens, (builder.opened outer before head).run (inside ++ tokens) =
      ((builder.opened outer before head).finished (outer ++ [⟨before, head⟩]) nodes shorthands
        filings).run tokens)
    (opener : Terminal .squareOpen) (closer : Terminal .squareClose) (tokens : List Token) :
    (builder.begun outer before head).run (opener.val :: (inside ++ closer.val :: tokens)) =
      (builder.finished outer (before ++ [.component head nodes]) shorthands filings).run
        tokens := by
  have hdotted : (builder.begun outer before head).dotted = false := settled.dotted
  have hopened : (builder.begun outer before head).accept .squareOpen opener.val.text =
      .ok (builder.opened outer before head) := accept_of_not_dotted hdotted _ _
  let full := (builder.opened outer before head).finished (outer ++ [⟨before, head⟩]) nodes
    shorthands filings
  have hfull : full.dotted = false := settled.dotted
  have hcontexts : (List.replicate shorthands Context.component ++
      Context.component :: builder.contexts).tail =
        List.replicate shorthands .component ++ builder.contexts := by
    rw [List.append_cons, ← List.replicate_succ', List.replicate_succ]
    rfl
  have hclosed : full.accept .squareClose closer.val.text =
      .ok (builder.finished outer (before ++ [.component head nodes]) shorthands
        filings) := by
    rw [accept_of_not_dotted hfull]
    change Except.ok full.closeBlock = _
    simp [full, closeBlock, finished, opened, begun, recorded, hcontexts, Frame.plug_append]
  rw [run_cons_of_accept opener.property hopened, hinside,
    run_cons_of_accept closer.property hclosed]

/-- Between two items of the block of the component at the end of the given branch. -/
structure InBlock (builder : Builder) (outer : List Frame) (inner : Frame) (nodes : List Node) :
    Prop extends builder.Settled where
  body : builder.body = Frame.plug (outer ++ [inner]) nodes
  block : builder.blocks.head? = some (Frame.path (outer ++ [inner]))

namespace InBlock

variable {outer : List Frame} {inner : Frame} {nodes : List Node}

/-- The component of the block is the current one. -/
theorem focus (inBlock : builder.InBlock outer inner nodes) :
    builder.Focus outer inner nodes :=
  ⟨inBlock.body, inBlock.current.trans inBlock.block⟩

/-- Finished items do not leave the block. -/
theorem finished (inBlock : builder.InBlock outer inner nodes) (added : List Node)
    (shorthands : Nat) (filings : List Filing) :
    (builder.finished (outer ++ [inner]) added shorthands filings).InBlock outer inner
      added :=
  ⟨inBlock.toSettled.finished _ _ _ _, rfl, inBlock.block⟩

/-- Nodes added to the current component are added to the block. -/
theorem withTree_eq (inBlock : builder.InBlock outer inner nodes) (added : List Node) :
    builder.withTree (outer ++ [inner]) added = builder.finished (outer ++ [inner]) added 0 [] := by
  rw [withTree, Builder.finished, ← inBlock.current]
  rfl

/-- In a block texts are items if the block is that of a list. -/
theorem inList_eq (inBlock : builder.InBlock outer inner nodes) {changed : Builder}
    {below : List Node} (hblocks : changed.blocks = builder.blocks)
    (hbody : changed.body = Frame.plug (outer ++ [inner]) below) :
    changed.inList = (inner.head.name == Component.list) := by
  have hblock := inBlock.block
  unfold inList
  rw [hblocks]
  cases hpaths : builder.blocks with
  | nil => simp [hpaths] at hblock
  | cons path rest =>
    have hpath : path = Frame.path (outer ++ [inner]) := by simpa [hpaths] using hblock
    rw [hbody, hpath]
    simp only [Frame.at?_plug]
    rfl

end InBlock

end Document.Builder

namespace Grammar

mutual

/-- How many short forms an item has at any depth. -/
def Item.shorthands : Item → Nat
  | .declaration _ => 0
  | .block _ _ items _ => Item.shorthandsAll items
  | .shorthand _ _ _ => 1
  | .value _ => 0
  | .decorator _ => 0

/-- How many short forms items have at any depth. -/
def Item.shorthandsAll : List Item → Nat
  | [] => 0
  | item :: rest => Item.shorthandsAll rest + item.shorthands

end

open Document (Builder)

/-- A decorator stands for its decoration. -/
theorem decoration?_eq (signs : Decorator) :
    Builder.decoration? signs.token.val.text = some signs.decoration.node := by
  obtain ⟨token, decoration, extra, spelled⟩ := signs
  have hne : token.val.text ≠ "" := by
    intro hempty
    simp [hempty, List.replicate_succ] at spelled
  unfold Builder.decoration?
  cases decoration <;>
    simp [spelled, hne, Decoration.sign, Decoration.node, Node.lineBreak, Node.horizontalRule]

mutual

/-- In a block an item adds its nodes and records its declarations. -/
theorem Item.run_inside : (item : Item) → ∀ {builder : Builder} {outer : List Frame}
    {inner : Frame} {nodes : List Node} (_ : builder.InBlock outer inner nodes)
    (tokens : List Token),
    builder.run (item.tokens ++ tokens) =
      (builder.finished (outer ++ [inner])
        (nodes ++ item.nodes (inner.head.name == Component.list)) item.shorthands
        item.filings).run tokens
  | .declaration declared, builder, outer, inner, nodes, inBlock, tokens => by
    rw [Item.tokens, Builder.run_declaration, Item.nodes, List.append_nil]
    have hrecorded : Builder.recorded { builder with dotted := false } [declared.filing] =
        builder.finished (outer ++ [inner]) nodes 0 [declared.filing] := by
      rw [Builder.finished, ← inBlock.body, ← inBlock.current, ← inBlock.dotted]
      rfl
    rw [hrecorded]
    rfl
  | .block heading opener items closer, builder, outer, inner, nodes, inBlock, tokens => by
    have hbegin := Builder.beginComponent_block inBlock.body inBlock.block heading.name.val.text
    have hopened : (builder.opened (outer ++ [inner]) nodes heading.component).InBlock
        (outer ++ [inner]) ⟨nodes, heading.component⟩ [] :=
      ⟨inBlock.toSettled.opened _ _ _, rfl, rfl⟩
    have htokens : (Item.block heading opener items closer).tokens ++ tokens =
        heading.tokens ++ opener.val :: (Item.tokensAll items ++ closer.val :: tokens) := by
      simp [Item.tokens]
    rw [htokens, Builder.run_heading inBlock.context inBlock.dotted hbegin,
      Builder.run_block inBlock.toSettled (Item.runAll_inside items hopened)]
    rfl
  | .shorthand heading colon text, builder, outer, inner, nodes, inBlock, tokens => by
    have hbegin := Builder.beginComponent_block inBlock.body inBlock.block heading.name.val.text
    have hlist : (builder.begun (outer ++ [inner]) nodes heading.component).inList =
        (inner.head.name == Component.list) :=
      inBlock.inList_eq rfl (Frame.plug_append _ _ _)
    have htokens : (Item.shorthand heading colon text).tokens ++ tokens =
        heading.tokens ++ colon.val :: text.val :: tokens := by
      simp [Item.tokens]
    rw [htokens, Builder.run_heading inBlock.context inBlock.dotted hbegin,
      Builder.run_shorthand inBlock.toSettled hlist]
    rfl
  | .value text, builder, outer, inner, nodes, inBlock, tokens => by
    have htext : builder.accept text.val.kind text.val.text =
        .ok (builder.finished (outer ++ [inner])
          (nodes ++ [text.node (inner.head.name == Component.list)]) 0 []) := by
      rw [Builder.accept_of_not_dotted inBlock.dotted, Builder.dispatch_value,
        inBlock.toSettled.readValue_eq, Builder.addLiteral, inBlock.inList_eq rfl inBlock.body,
        inBlock.focus.append, inBlock.withTree_eq, ← text.node_eq]
      have hcolons : (builder.finished (outer ++ [inner])
        (nodes ++ [text.node (inner.head.name == Component.list)]) 0 []).colons = 0 :=
          inBlock.colons
      change (if 0 < _ then _ else _) = _
      rw [hcolons]
      rfl
    rw [Item.tokens, List.singleton_append, Builder.run_cons_of_accept rfl htext]
    rfl
  | .decorator signs, builder, outer, inner, nodes, inBlock, tokens => by
    have hsigns : builder.accept .decorator signs.token.val.text =
        .ok (builder.finished (outer ++ [inner]) (nodes ++ [signs.decoration.node]) 0 []) := by
      rw [Builder.accept_of_not_dotted inBlock.dotted, Builder.dispatch, Builder.readDecorator,
        decoration?_eq]
      exact (inBlock.focus.append _ _).trans (congrArg _ (inBlock.withTree_eq _))
    rw [Item.tokens, List.singleton_append,
      Builder.run_cons_of_accept signs.token.property hsigns]
    rfl

/-- In a block items add their nodes and record their declarations. -/
theorem Item.runAll_inside : (items : List Item) → ∀ {builder : Builder} {outer : List Frame}
    {inner : Frame} {nodes : List Node} (_ : builder.InBlock outer inner nodes)
    (tokens : List Token),
    builder.run (Item.tokensAll items ++ tokens) =
      (builder.finished (outer ++ [inner])
        (nodes ++ Item.nodesAll (inner.head.name == Component.list) items)
        (Item.shorthandsAll items) (Item.filingsAll items)).run tokens
  | [], builder, outer, inner, nodes, inBlock, tokens => by
    rw [Item.tokensAll, List.nil_append, Item.nodesAll, List.append_nil, Item.shorthandsAll,
      Item.filingsAll, ← inBlock.withTree_eq, inBlock.focus.withTree_eq]
  | item :: rest, builder, outer, inner, nodes, inBlock, tokens => by
    rw [Item.tokensAll, List.append_assoc, Item.run_inside item inBlock,
      Item.runAll_inside rest (inBlock.finished _ _ _), Builder.finished_finished]
    simp only [Item.nodesAll, Item.shorthandsAll, Item.filingsAll, List.append_assoc]

end

/-- One more component is one more page, after a break unless it is the first. -/
theorem pages_concat (components : List Node) (node : Node) :
    pages (components ++ [node]) =
      (if pages components = [] then [] else pages components ++ [.pageBreak]) ++
        [.pageWrapper node] := by
  induction components with
  | nil => rfl
  | cons first rest ih =>
    cases rest with
    | nil => rfl
    | cons second rest =>
      have hpages (more : List Node) : pages (first :: second :: more) =
          .pageWrapper first :: .pageBreak :: pages (second :: more) := rfl
      rw [List.cons_append, List.cons_append, hpages, ← List.cons_append, ih, hpages]
      cases hrest : pages (second :: rest) with
      | nil => cases rest <;> cases hrest
      | cons page others => simp

/-- A component outside all blocks is a page of its own. -/
theorem finished_page (builder : Builder) (components : List Node)
    (hbody : builder.body = pages components) (node : Node) (shorthands : Nat)
    (filings : List Filing) :
    builder.finished
        [⟨if builder.body = [] then [] else builder.body ++ [.pageBreak],
          .named Component.pageWrapper⟩] [node] shorthands filings =
      builder.finished [] (pages (components ++ [node])) shorthands filings := by
  rw [pages_concat, ← hbody]
  rfl

/-- Outside all blocks an item adds its page and records its declarations. -/
theorem Item.run_outside {item : Item} (hitem : item.standsAlone = true) {builder : Builder}
    (settled : builder.Settled) (hblocks : builder.blocks = []) {components : List Node}
    (hbody : builder.body = pages components) (tokens : List Token) :
    builder.run (item.tokens ++ tokens) =
      (builder.finished [] (pages (components ++ item.nodes false)) item.shorthands
        item.filings).run tokens := by
  have hbegin := Builder.beginComponent_page hblocks
  cases item with
  | declaration declared =>
    rw [Item.tokens, Builder.run_declaration, Item.nodes, List.append_nil]
    have hrecorded : Builder.recorded { builder with dotted := false } [declared.filing] =
        builder.finished [] (pages components) 0 [declared.filing] := by
      rw [Builder.finished, ← hbody, ← settled.current, ← settled.dotted]
      rfl
    rw [hrecorded]
    rfl
  | block heading opener items closer =>
    have hopened : (builder.opened
        [⟨if builder.body = [] then [] else builder.body ++ [.pageBreak],
          .named Component.pageWrapper⟩] [] heading.component).InBlock _ ⟨[], heading.component⟩
            [] := ⟨settled.opened _ _ _, rfl, rfl⟩
    have htokens : (Item.block heading opener items closer).tokens ++ tokens =
        heading.tokens ++ opener.val :: (Item.tokensAll items ++ closer.val :: tokens) := by
      simp [Item.tokens]
    rw [htokens, Builder.run_heading settled.context settled.dotted (hbegin _),
      Builder.run_block settled (Item.runAll_inside items hopened)]
    rw [List.nil_append, finished_page builder components hbody]
    rfl
  | shorthand heading colon text =>
    have hlist : (builder.begun
        [⟨if builder.body = [] then [] else builder.body ++ [.pageBreak],
          .named Component.pageWrapper⟩] [] heading.component).inList = false := by
      simp [Builder.inList, Builder.begun, hblocks]
    have htokens : (Item.shorthand heading colon text).tokens ++ tokens =
        heading.tokens ++ colon.val :: text.val :: tokens := by
      simp [Item.tokens]
    rw [htokens, Builder.run_heading settled.context settled.dotted (hbegin _),
      Builder.run_shorthand settled hlist, List.nil_append,
      finished_page builder components hbody]
    rfl
  | value text => cases hitem
  | decorator signs => cases hitem

/-- Outside all blocks items add their pages and record their declarations. -/
theorem Item.runAll_outside {items : List Item}
    (hitems : ∀ item ∈ items, item.standsAlone = true) {builder : Builder}
    (settled : builder.Settled) (hblocks : builder.blocks = []) {components : List Node}
    (hbody : builder.body = pages components) :
    builder.run (Item.tokensAll items) =
      .ok (builder.finished [] (pages (components ++ Item.nodesAll false items))
        (Item.shorthandsAll items) (Item.filingsAll items)) := by
  induction items generalizing builder components with
  | nil =>
    rw [Item.tokensAll, Builder.run_nil, Item.nodesAll, List.append_nil, Builder.finished,
      ← hbody, ← settled.current]
    rfl
  | cons item rest ih =>
    rw [Item.tokensAll, Item.run_outside (hitems item List.mem_cons_self) settled hblocks hbody,
      ih (fun other hother => hitems other (List.mem_cons_of_mem _ hother))
        (settled.finished _ _ _ _) hblocks rfl, Builder.finished_finished]
    simp only [Item.nodesAll, Item.shorthandsAll, Item.filingsAll, List.append_assoc]

/-- A value is no bracket. -/
theorem plain_value (value : Value) : Brackets.Plain value.val := by
  rcases value.property with hkind | hkind <;> exact .of_kind hkind rfl rfl

/-- The tokens of a declaration are no brackets. -/
theorem Declaration.balanced (declared : Declaration) : Brackets.Balanced declared.tokens := by
  have hkey : Brackets.Plain declared.key.val := by
    rcases declared.key.property.1 with hkind | hkind <;> exact .of_kind hkind rfl rfl
  exact .cons (.of_kind declared.topic.property rfl rfl) (.cons hkey
    (.cons (.of_kind declared.colon.property rfl rfl) (.cons (plain_value _) .nil)))

/-- The tokens of a parameter are no brackets. -/
theorem Parameter.balanced (parameter : Parameter) : Brackets.Balanced parameter.tokens :=
  .cons (.of_kind parameter.name.property rfl rfl)
    (.cons (.of_kind parameter.colon.property rfl rfl) (.cons (plain_value _) .nil))

/-- The tokens of parameters after commas are no brackets. -/
theorem Parameter.balanced_tokensAfter (parameters : List (Terminal .comma × Parameter)) :
    Brackets.Balanced (Parameter.tokensAfter parameters) := by
  induction parameters with
  | nil => exact .nil
  | cons entry rest ih =>
    exact .cons (.of_kind entry.1.property rfl rfl) (entry.2.balanced.append ih)

/-- The round brackets around parameters match. -/
theorem ParameterList.balanced (list : ParameterList) : Brackets.Balanced list.tokens := by
  obtain ⟨opener, parameters, closer⟩ := list
  have hopener : opener.val.kind = Brackets.opening .round := opener.property
  have hcloser : closer.val.kind = Brackets.closing .round := closer.property
  cases parameters with
  | none => exact .enclose hopener .nil hcloser
  | some parameters =>
    exact .enclose hopener
      (parameters.1.balanced.append (Parameter.balanced_tokensAfter parameters.2)) hcloser

/-- The tokens of classes are no brackets. -/
theorem balanced_classTokens (classes : List (Terminal .dot × Terminal .identifier)) :
    Brackets.Balanced (classTokens classes) := by
  induction classes with
  | nil => exact .nil
  | cons entry rest ih =>
    exact .cons (.of_kind entry.1.property rfl rfl) (.cons (.of_kind entry.2.property rfl rfl) ih)

/-- The brackets of a heading match. -/
theorem Heading.balanced (heading : Heading) : Brackets.Balanced heading.tokens := by
  obtain ⟨name, classes, parameters⟩ := heading
  refine .cons (.of_kind name.property rfl rfl) ((balanced_classTokens classes).append ?_)
  cases parameters with
  | none => exact .nil
  | some list => exact list.balanced

mutual

/-- The brackets of an item match. -/
theorem Item.balanced : (item : Item) → Brackets.Balanced item.tokens
  | .declaration declared => declared.balanced
  | .block heading opener items closer => by
    have hopener : opener.val.kind = Brackets.opening .square := opener.property
    have hcloser : closer.val.kind = Brackets.closing .square := closer.property
    exact heading.balanced.append (.enclose hopener (Item.balancedAll items) hcloser)
  | .shorthand heading colon text =>
    heading.balanced.append
      (.cons (.of_kind colon.property rfl rfl) (.cons (plain_value text) .nil))
  | .value text => .cons (plain_value text) .nil
  | .decorator signs => .cons (.of_kind signs.token.property rfl rfl) .nil

/-- The brackets of items match. -/
theorem Item.balancedAll : (items : List Item) → Brackets.Balanced (Item.tokensAll items)
  | [] => .nil
  | item :: rest => (Item.balanced item).append (Item.balancedAll rest)

end

/-- Every script passes the bracket check and is read as the document that it denotes. -/
theorem Script.balanced_and_denoted (script : Script) :
    Brackets.check script.tokens = .ok () ∧
      Document.ofTokens script.tokens = .ok script.document := by
  refine ⟨(Item.balancedAll script.items).check_eq_ok, ?_⟩
  have hsettled : ({} : Builder).Settled := ⟨by simp, rfl, rfl, rfl, rfl⟩
  have hbody : ({} : Builder).body = pages [] := rfl
  rw [Document.ofTokens, Script.tokens, Item.runAll_outside script.standAlone hsettled rfl hbody,
    List.nil_append]
  rfl

/-- A token without a place of its own. -/
def terminal (kind : TokenKind) (text : String) : Terminal kind := ⟨⟨kind, text, .first⟩, rfl⟩

/-- A quoted text. -/
def quoted (text : String) : Value := ⟨⟨.string, text, .first⟩, .inl rfl⟩

/-- A declaration of a quoted text for a key without capitals. -/
def declares (topic key value : String) (htopic : topic ≠ "") (hkey : key ≠ "") : Declaration where
  topic := terminal .declaration topic
  key := ⟨⟨.identifier, key, .first⟩, .inl rfl, hkey⟩
  colon := terminal .colon ":"
  value := quoted value
  topic_ne := htopic

/-- A heading with a name alone. -/
def plainHeading (name : String) : Heading := ⟨terminal .keyword name, [], none⟩

/-- The heading of a list with a class and a parameter that is written twice. -/
def listHeading : Heading where
  name := terminal .keyword "List"
  classes := [(terminal .dot ".", terminal .identifier "big")]
  parameters := some
    { opener := terminal .roundOpen "("
      parameters := some
        (⟨terminal .identifier "n", terminal .colon ":", quoted "1"⟩,
          [(terminal .comma ",",
            ⟨terminal .identifier "n", terminal .colon ":", quoted "2"⟩)])
      closer := terminal .roundClose ")" }

/-- Declarations under topics of several spellings, a list with texts inside and behind other
components, and a section in its short form. -/
def sampleScript : Script where
  items :=
    [.declaration (declares "CONFIGURE" "lang" "a" (by decide) (by decide)),
      .declaration (declares "Reference" "css" "s" (by decide) (by decide)),
      .declaration (declares "Other" "lang" "c" (by decide) (by decide)),
      .block listHeading (terminal .squareOpen "[")
        [.value (quoted "x"),
          .decorator ⟨terminal .decorator "::", .lineBreak, 1, rfl⟩,
          .block (plainHeading "Text") (terminal .squareOpen "[")
            [.value (quoted "y"),
              .declaration (declares "configure" "lang" "b" (by decide) (by decide))]
            (terminal .squareClose "]"),
          .shorthand (plainHeading "Text") (terminal .colon ":") (quoted "z"),
          .decorator ⟨terminal .decorator "-", .horizontalRule, 0, rfl⟩]
        (terminal .squareClose "]"),
      .declaration (declares "rEFERENCE" "css" "t" (by decide) (by decide)),
      .declaration (declares "reference" "css" "s" (by decide) (by decide)),
      .shorthand (plainHeading "Section") (terminal .colon ":") (quoted "w")]
  standAlone := List.all_eq_true.mp rfl

/-- The last configuration counts and a reference is kept once, whatever the case of the topic. A
text in the block of a list is an item, also behind a component without a block, and any other text
is a line. -/
theorem sampleScript_denotes :
    Brackets.check sampleScript.tokens = .ok () ∧
    Document.ofTokens sampleScript.tokens = .ok
      { configurations := ⟨[("lang", "b")], by decide⟩
        references := ⟨[("css", ["s", "t"])], by decide⟩
        body :=
          [.component ⟨"PageWrapper", "div", [], ∅, ∅⟩
            [.component ⟨"List", "ul", ["big"], ⟨[("n", "2")], by decide⟩, ∅⟩
              [.component ⟨"ListItem", "li", [], ∅, ∅⟩ [.literal "x"],
                .mark "BR" "br",
                .component ⟨"Text", "div", [], ∅, ∅⟩
                  [.component ⟨"Line", "div", [], ∅, ∅⟩ [.literal "y"]],
                .component ⟨"Text", "div", [], ∅, ∅⟩
                  [.component ⟨"ListItem", "li", [], ∅, ∅⟩ [.literal "z"]],
                .mark "HR" "hr"]],
            .component ⟨"PageBreak", "div", [], ∅, ∅⟩ [],
            .component ⟨"PageWrapper", "div", [], ∅, ∅⟩
              [.component ⟨"Section", "section", [], ∅, ∅⟩
                [.component ⟨"Line", "div", [], ∅, ∅⟩ [.literal "w"]]]] } :=
  Script.balanced_and_denoted sampleScript

end Grammar

end PageMarkup
