import Mathlib.Data.List.Induction
import PageMarkup.Proofs.Document.Growth

/-!
# Where the parts of a tree come from

A tree that has grown can be read backwards: a component in it was there before with the same name,
or the last token has added it. So each text in its wrapper was added by one token, and each
parameter was set by one token, at the path where it is found in the end. Along a run, whatever
holds in the end and not at first has begun to hold at some token and has held ever since.
-/

namespace PageMarkup

namespace Node

variable {head : Component} {children : List Node} {path : Path}

/-- A path into nodes with one more at the end leads into the first ones or into the last one. -/
theorem at?_concat_cases {nodes : List Node} {node : Node}
    (h : at? (nodes ++ [node]) path = some (head, children)) :
    at? nodes path = some (head, children) ∨
      ∃ rest, path = nodes.length :: rest ∧ at? [node] (0 :: rest) = some (head, children) := by
  cases path with
  | nil => cases h
  | cons index rest =>
    rcases Nat.lt_trichotomy index nodes.length with hless | hlast | hmore
    · left
      rwa [at?, List.getElem?_append_left hless] at h
    · right
      refine ⟨rest, by rw [hlast], ?_⟩
      rwa [hlast, at?, List.getElem?_concat_length] at h
    · have hnone : (nodes ++ [node])[index]? = none :=
        List.getElem?_eq_none (by rw [List.length_append, List.length_singleton]; exact hmore)
      rw [at?, hnone] at h
      cases h

/-- A path into the first nodes leads to the same component when more nodes follow. -/
theorem at?_append_of_at? {nodes : List Node} (h : at? nodes path = some (head, children))
    (more : List Node) : at? (nodes ++ more) path = some (head, children) := by
  cases path with
  | nil => cases h
  | cons index rest =>
    have hless : index < nodes.length := by
      refine Nat.lt_of_not_le fun hmore => ?_
      rw [at?, List.getElem?_eq_none hmore] at h
      cases h
    rwa [at?, List.getElem?_append_left hless]

/-- A path leads to a component itself or to something below it. -/
theorem at?_component_cases {outer : Component} {nodes : List Node} {rest : Path}
    (h : at? [component outer nodes] (0 :: rest) = some (head, children)) :
    (rest = [] ∧ head = outer ∧ children = nodes) ∨
      rest ≠ [] ∧ at? nodes rest = some (head, children) := by
  simp only [at?, List.getElem?_cons_zero] at h
  split at h
  · next hrest =>
    cases h
    exact .inl ⟨hrest, rfl, rfl⟩
  · next hrest => exact .inr ⟨hrest, h⟩

/-- What is added by one token: a component with nothing but a name, a text in its wrapper, or a
mark. -/
inductive Added : Node → Prop
  | component (name : String) : Added (.component (.named name) [])
  | wrapped (text : String) (inList : Bool) : Added (.wrapped text inList)
  | mark (name element : String) : Added (.mark name element)

namespace Added

variable {node : Node}

/-- What is added is no text without its wrapper. -/
theorem isLiteral_eq_false (h : node.Added) : node.isLiteral = false := by
  cases h <;> rfl

/-- Only the added node itself can be a component, and it has nothing but a name. -/
theorem eq_component (h : node.Added) {rest : Path}
    (hat : at? [node] (0 :: rest) = some (head, children)) :
    rest = [] ∧ node = .component head children ∧ ∃ name, head = .named name := by
  cases h with
  | component name =>
    rcases at?_component_cases hat with ⟨rfl, rfl, rfl⟩ | ⟨-, hbelow⟩
    · exact ⟨rfl, rfl, name, rfl⟩
    · cases rest <;> cases hbelow
  | wrapped text inList =>
    rcases at?_component_cases hat with ⟨rfl, rfl, rfl⟩ | ⟨-, hbelow⟩
    · exact ⟨rfl, rfl, _, rfl⟩
    · rcases rest with - | ⟨index, rest⟩
      · cases hbelow
      · -- The wrapper holds a text and nothing else.
        rcases index with - | index <;> simp [at?] at hbelow
  | mark name element => cases hat

end Added

end Node

/-- Whether an amendment is one that a token can make: a node that it adds is one of a token. -/
def Amendment.OfToken : Amendment → Prop
  | className _ => True
  | parameter _ _ => True
  | node added => added.Added

namespace Frame

/-- The first component of a branch is no text, so only what stands before it could be one. -/
theorem wrapped_plug_cons (frame : Frame) (rest : List Frame) (nodes : List Node)
    (h : ∀ node ∈ frame.before, node.isLiteral = false) :
    ∀ node ∈ plug (frame :: rest) nodes, node.isLiteral = false := by
  rw [plug_cons, List.forall_mem_append, List.forall_mem_singleton]
  exact ⟨h, rfl⟩

/-- A path that goes on below a branch leads into the nodes there. -/
theorem at?_plug_append (frames : List Frame) (nodes : List Node) {rest : Path}
    (hrest : rest ≠ []) :
    Node.at? (plug frames nodes) (path frames ++ rest) = Node.at? nodes rest := by
  induction frames with
  | nil => rfl
  | cons frame more ih =>
    have hpath : path more ++ rest ≠ [] := by simp [hrest]
    simp only [plug_cons, path_cons, List.cons_append, Node.at?, List.getElem?_concat_length,
      if_neg hpath]
    exact ih

/-- A path leads beside a branch, whatever is below the branch, or to a component on it, or into the
nodes below it. -/
theorem at?_plug_cases {frames : List Frame} {nodes : List Node} {path : Path} {head : Component}
    {children : List Node} (h : Node.at? (plug frames nodes) path = some (head, children)) :
    (∀ other, Node.at? (plug frames other) path = some (head, children)) ∨
    (∃ upper frame lower, frames = upper ++ [frame] ++ lower ∧
      path = Frame.path (upper ++ [frame]) ∧ head = frame.head ∧ children = plug lower nodes) ∨
    ∃ rest, path = Frame.path frames ++ rest ∧ rest ≠ [] ∧
      Node.at? nodes rest = some (head, children) := by
  induction frames generalizing path with
  | nil =>
    refine .inr (.inr ⟨path, rfl, ?_, h⟩)
    rintro rfl
    cases h
  | cons frame more ih =>
    rcases Node.at?_concat_cases h with hbefore | ⟨rest, rfl, hlast⟩
    · exact .inl fun other => Node.at?_append_of_at? hbefore _
    · rcases Node.at?_component_cases hlast with ⟨rfl, rfl, rfl⟩ | ⟨hrest, hbelow⟩
      · exact .inr (.inl ⟨[], frame, more, rfl, rfl, rfl, rfl⟩)
      · rcases ih hbelow with hbeside | ⟨upper, found, lower, rfl, rfl, hhead, hchildren⟩ |
          ⟨deeper, rfl, hdeeper, hat⟩
        · refine .inl fun other => ?_
          have hframe := at?_plug_append [frame] (plug more other) hrest
          exact hframe.trans (hbeside other)
        · exact .inr (.inl ⟨frame :: upper, found, lower, rfl, rfl, hhead, hchildren⟩)
        · exact .inr (.inr ⟨deeper, rfl, hdeeper, hat⟩)

end Frame

namespace Amended

variable {amendment : Amendment} {path other : Path} {old new : List Node} {head : Component}
  {children : List Node}

/-- What a path leads to after an amendment: a component that was there and, if it holds a text,
held the same; the amended component; or an added node. -/
theorem at?_cases (h : Amended amendment path old new)
    (hat : Node.at? new other = some (head, children)) :
    (∃ before, Node.at? old other = some (head, before) ∧
      (before = children ∨ ∀ child ∈ children, child.isLiteral = false)) ∨
    (∃ before nodes, other = path ∧ Node.at? old path = some (before, nodes) ∧
      head = amendment.head before ∧ children = amendment.nodes nodes ∧
      ∀ node ∈ nodes, node.isLiteral = false) ∨
    ∃ added before nodes rest, amendment = .node added ∧
      Node.at? old path = some (before, nodes) ∧ other = path ++ nodes.length :: rest ∧
      Node.at? [added] (0 :: rest) = some (head, children) := by
  obtain ⟨pages, middle, inner, nodes, hframes, hplain⟩ := h
  have hold := Frame.at?_plug (⟨pages, .named Component.pageWrapper⟩ :: middle) inner nodes
  -- What is below the amended component stays below it.
  have hbelow {rest : Path} (hrest : rest ≠ [])
      (hnodes : Node.at? nodes rest = some (head, children)) :
      Node.at? (Frame.plug (⟨pages, .named Component.pageWrapper⟩ :: middle ++ [inner]) nodes)
        (Frame.path (⟨pages, .named Component.pageWrapper⟩ :: middle ++ [inner]) ++ rest) =
      some (head, children) := by
    rw [Frame.at?_plug_append _ _ hrest, hnodes]
  rw [Frame.plug_append] at hat
  rcases Frame.at?_plug_cases hat with hbeside | ⟨upper, frame, lower, hbranch, rfl, rfl, rfl⟩ |
    ⟨rest, rfl, hrest, hinner⟩
  · left
    refine ⟨children, ?_, .inl rfl⟩
    rw [Frame.plug_append]
    exact hbeside _
  · left
    refine ⟨Frame.plug lower (Frame.plug [inner] nodes), ?_, .inr ?_⟩
    · rw [Frame.plug_append, hbranch, Frame.plug_append]
      exact Frame.at?_plug upper frame _
    · -- A component above the amended one holds only what stands on the branch and beside it.
      rw [← Frame.plug_append]
      cases lower with
      | nil => exact Frame.wrapped_plug_cons _ [] _ (hframes inner (by simp))
      | cons below more =>
        have hmiddle : middle = (upper ++ [frame]).tail ++ below :: more := by
          cases upper <;> simpa using congrArg List.tail hbranch
        exact Frame.wrapped_plug_cons below _ _ (hframes below (by simp [hmiddle]))
  · rcases Node.at?_concat_cases hinner with hbefore | ⟨more, rfl, hlast⟩
    · left
      refine ⟨children, ?_, .inl rfl⟩
      rw [Frame.plug_append, Frame.at?_plug_append _ _ hrest]
      exact Node.at?_append_of_at? hbefore _
    · have hpath : Frame.path (⟨pages, .named Component.pageWrapper⟩ :: middle) ++
          inner.before.length :: more =
          Frame.path (⟨pages, .named Component.pageWrapper⟩ :: middle ++ [inner]) ++ more := by
        simp
      rw [hpath]
      rcases Node.at?_component_cases hlast with ⟨rfl, rfl, rfl⟩ | ⟨hmore, hnodes⟩
      · right
        left
        exact ⟨inner.head, nodes, List.append_nil _, hold, rfl, rfl, hplain⟩
      · cases amendment with
        | className name => exact .inl ⟨children, hbelow hmore hnodes, .inl rfl⟩
        | parameter key value => exact .inl ⟨children, hbelow hmore hnodes, .inl rfl⟩
        | node added =>
          rcases Node.at?_concat_cases hnodes with hkept | ⟨deeper, rfl, hadded⟩
          · exact .inl ⟨children, hbelow hmore hkept, .inl rfl⟩
          · exact .inr (.inr ⟨added, inner.head, nodes, deeper, rfl, hold, rfl, hadded⟩)

/-- A component that holds a text was there just so, or has been added. -/
theorem wrapper_cases (h : Amended amendment path old new)
    (htoken : amendment.OfToken)
    (hat : Node.at? new other = some (head, children))
    (htext : ∃ child ∈ children, child.isLiteral = true) :
    Node.at? old other = some (head, children) ∨
      ∃ before nodes, amendment = .node (.component head children) ∧
        Node.at? old path = some (before, nodes) ∧ other = path ++ [nodes.length] := by
  obtain ⟨child, hchild, hliteral⟩ := htext
  have hnot (hplain : ∀ node ∈ children, node.isLiteral = false) : False := by
    rw [hplain child hchild] at hliteral
    cases hliteral
  rcases h.at?_cases hat with ⟨before, hold, rfl | hplain⟩ |
    ⟨before, nodes, -, -, -, rfl, hplain⟩ | ⟨added, before, nodes, rest, rfl, hold, rfl, hnew⟩
  · exact .inl hold
  · exact (hnot hplain).elim
  · refine (hnot ?_).elim
    cases amendment with
    | className name => exact hplain
    | parameter key value => exact hplain
    | node added =>
      rw [Amendment.nodes, List.forall_mem_append, List.forall_mem_singleton]
      exact ⟨hplain, Node.Added.isLiteral_eq_false htoken⟩
  · obtain ⟨rfl, rfl, -⟩ := Node.Added.eq_component htoken hnew
    exact .inr ⟨before, nodes, rfl, hold, rfl⟩

/-- A parameter was there, or has been set. -/
theorem parameter_cases (h : Amended amendment path old new)
    (htoken : amendment.OfToken)
    (hat : Node.at? new other = some (head, children)) {entry : String × String}
    (hentry : entry ∈ head.parameters.entries) :
    (∃ before nodes, Node.at? old other = some (before, nodes) ∧
      entry ∈ before.parameters.entries) ∨
      other = path ∧ amendment = .parameter entry.1 entry.2 := by
  rcases h.at?_cases hat with ⟨before, hold, -⟩ | ⟨before, nodes, rfl, hold, rfl, -, -⟩ |
    ⟨added, before, nodes, rest, rfl, -, -, hnew⟩
  · exact .inl ⟨head, before, hold, hentry⟩
  · cases amendment with
    | className name => exact .inl ⟨before, nodes, hold, hentry⟩
    | node added => exact .inl ⟨before, nodes, hold, hentry⟩
    | parameter key value =>
      rcases Table.mem_put hentry with hkept | rfl
      · exact .inl ⟨before, nodes, hold, hkept⟩
      · exact .inr ⟨rfl, rfl⟩
  · obtain ⟨-, -, name, rfl⟩ := Node.Added.eq_component htoken hnew
    cases hentry

end Amended

namespace Document.Builder

variable {builder next final : Builder} {path : Path} {head : Component} {children : List Node}

/-- In a page that begins, a path leads to what was there, or to a component with nothing but a name
and no text. -/
theorem at?_page_cases {name : String}
    (h : Node.at? (builder.pagesBefore ++ [.pageWrapper (.component (.named name) [])]) path =
      some (head, children)) :
    Node.at? builder.body path = some (head, children) ∨
      (∃ fresh, head = .named fresh) ∧ ∀ child ∈ children, child.isLiteral = false := by
  rcases Node.at?_concat_cases h with hbefore | ⟨rest, rfl, hpage⟩
  · unfold pagesBefore at hbefore
    split at hbefore
    · cases path <;> cases hbefore
    · rcases Node.at?_concat_cases hbefore with hold | ⟨rest, rfl, hbreak⟩
      · exact .inl hold
      · obtain ⟨-, hnode, hname⟩ := (Node.Added.component Component.pageBreak).eq_component hbreak
        cases hnode
        exact .inr ⟨hname, by simp⟩
  · right
    rcases Node.at?_component_cases hpage with ⟨rfl, rfl, rfl⟩ | ⟨hrest, hinside⟩
    · exact ⟨⟨_, rfl⟩, by simp [Node.isLiteral]⟩
    · obtain ⟨index, more, rfl⟩ := List.exists_cons_of_ne_nil hrest
      cases index with
      | zero =>
        obtain ⟨-, hnode, hname⟩ := (Node.Added.component name).eq_component hinside
        cases hnode
        exact ⟨hname, by simp⟩
      | succ index => simp [Node.at?] at hinside

/-- The mark of a decorator is one of a token. -/
theorem added_of_decoration? {text : String} {node : Node} (h : decoration? text = some node) :
    node.Added := by
  rcases decoration?_cases h with rfl | rfl
  · exact .mark "BR" "br"
  · exact .mark "HR" "hr"

/-- A component that holds a text was there before a token, or the token is this text. -/
theorem Effect.wrapper_cases {kind : TokenKind} {text : String} (h : builder.Effect kind text next)
    (hat : Node.at? next.body path = some (head, children))
    (htext : ∃ child ∈ children, child.isLiteral = true) :
    Node.at? builder.body path = some (head, children) ∨
      (kind = .string ∨ kind = .constant) ∧
        Node.component head children = .wrapped text builder.inList ∧
        ∃ parent before nodes, builder.current = some parent ∧
          Node.at? builder.body parent = some (before, nodes) ∧
          path = parent ++ [nodes.length] := by
  cases h with
  | quiet _ hbody _ _ => exact .inl (hbody ▸ hat)
  | opened _ _ hbody _ _ _ => exact .inl (hbody ▸ hat)
  | closed _ hbody _ _ _ => exact .inl (hbody ▸ hat)
  | page _ _ _ hbody _ _ =>
    rw [hbody] at hat
    rcases at?_page_cases hat with hold | ⟨-, hplain⟩
    · exact .inl hold
    · obtain ⟨child, hchild, hliteral⟩ := htext
      rw [hplain child hchild] at hliteral
      cases hliteral
  | child _ _ _ _ hbody _ _ =>
    rcases hbody.wrapper_cases (.component text) hat htext with
      hold | ⟨-, -, hnode, -⟩
    · exact .inl hold
    · cases hnode
      simp at htext
  | className _ _ _ hbody _ _ =>
    rcases hbody.wrapper_cases trivial hat htext with hold | ⟨-, -, hnode, -⟩
    · exact .inl hold
    · cases hnode
  | parameter _ _ _ _ hbody _ _ =>
    rcases hbody.wrapper_cases trivial hat htext with hold | ⟨-, -, hnode, -⟩
    · exact .inl hold
    · cases hnode
  | literal hkind _ _ hpath hbody _ _ =>
    rcases hbody.wrapper_cases (.wrapped text _) hat htext with
      hold | ⟨before, nodes, hnode, hparent, rfl⟩
    · exact .inl hold
    · exact .inr ⟨hkind, (Amendment.node.inj hnode).symm, _, before, nodes, hpath, hparent, rfl⟩
  | mark _ hnode _ hbody _ _ =>
    rcases hbody.wrapper_cases (added_of_decoration? hnode) hat htext with hold | ⟨-, -, hother, -⟩
    · exact .inl hold
    · rcases decoration?_cases hnode with rfl | rfl <;> cases hother

/-- A parameter was there before a token, or the token is its value. -/
theorem Effect.parameter_cases {kind : TokenKind} {text : String}
    (h : builder.Effect kind text next) (hat : Node.at? next.body path = some (head, children))
    {entry : String × String} (hentry : entry ∈ head.parameters.entries) :
    (∃ before nodes, Node.at? builder.body path = some (before, nodes) ∧
      entry ∈ before.parameters.entries) ∨
      (kind = .string ∨ kind = .constant) ∧ builder.situation.inParameter = true ∧
        builder.keys.head? = some entry.1 ∧ text = entry.2 ∧ builder.current = some path := by
  have hkeep (hbody : next.body = builder.body) : ∃ before nodes,
      Node.at? builder.body path = some (before, nodes) ∧ entry ∈ before.parameters.entries :=
    ⟨head, children, hbody ▸ hat, hentry⟩
  cases h with
  | quiet _ hbody _ _ => exact .inl (hkeep hbody)
  | opened _ _ hbody _ _ _ => exact .inl (hkeep hbody)
  | closed _ hbody _ _ _ => exact .inl (hkeep hbody)
  | page _ _ _ hbody _ _ =>
    rw [hbody] at hat
    rcases at?_page_cases hat with hold | ⟨⟨name, rfl⟩, -⟩
    · exact .inl ⟨head, children, hold, hentry⟩
    · cases hentry
  | child _ _ _ _ hbody _ _ =>
    rcases hbody.parameter_cases (.component text) hat hentry with
      hold | ⟨-, hother⟩
    · exact .inl hold
    · cases hother
  | className _ _ _ hbody _ _ =>
    rcases hbody.parameter_cases trivial hat hentry with hold | ⟨-, hother⟩
    · exact .inl hold
    · cases hother
  | parameter hkind hparameter hkey hpath hbody _ _ =>
    rcases hbody.parameter_cases trivial hat hentry with hold | ⟨rfl, hset⟩
    · exact .inl hold
    · cases hset
      exact .inr ⟨hkind, hparameter, hkey, rfl, hpath⟩
  | literal _ _ _ _ hbody _ _ =>
    rcases hbody.parameter_cases (.wrapped text _) hat hentry with
      hold | ⟨-, hother⟩
    · exact .inl hold
    · cases hother
  | mark _ hnode _ hbody _ _ =>
    rcases hbody.parameter_cases (added_of_decoration? hnode) hat hentry with hold | ⟨-, hother⟩
    · exact .inl hold
    · cases hother

/-- What holds after tokens and not before them has begun to hold at one of them, and has held ever
since. -/
theorem exists_turn {p : Builder → Prop} {tokens : List Token}
    (hrun : builder.run tokens = .ok final) (hnot : ¬p builder) (hfinal : p final) :
    ∃ before token after middle next, tokens = before ++ token :: after ∧
      builder.run before = .ok middle ∧ middle.read token = .ok next ∧
      next.run after = .ok final ∧ ¬p middle ∧ p next ∧
      ∀ shorter more reached, after = shorter ++ more → next.run shorter = .ok reached →
        p reached := by
  induction tokens using List.reverseRecOn generalizing final with
  | nil =>
    cases hrun
    exact absurd hfinal hnot
  | append_singleton tokens last ih =>
    obtain ⟨middle, htokens, hread⟩ := exists_of_run_concat hrun
    by_cases hmiddle : p middle
    · obtain ⟨before, token, after, turning, next, rfl, hbefore, htoken, hafter, hbegins, hholds,
        hsince⟩ := ih htokens hmiddle
      have hlast : next.run (after ++ [last]) = .ok final := by
        rw [run_append, hafter]
        exact (run_cons middle last []).trans (by rw [hread]; rfl)
      refine ⟨before, token, after ++ [last], turning, next, by simp, hbefore, htoken, hlast,
        hbegins, hholds, ?_⟩
      intro shorter more reached hsplit hreached
      -- Only the whole of what follows comes to the last token.
      obtain rfl | ⟨more, end_, rfl⟩ := List.eq_nil_or_concat more
      · rw [List.append_nil] at hsplit
        rw [← hsplit, hlast] at hreached
        cases hreached
        exact hfinal
      · rw [List.concat_eq_append, ← List.append_assoc] at hsplit
        exact hsince shorter more reached (List.append_inj_left' hsplit rfl) hreached
    · refine ⟨tokens, last, [], middle, final, rfl, htokens, hread, rfl, hmiddle, hfinal, ?_⟩
      intro shorter more reached hsplit hreached
      obtain ⟨rfl, -⟩ := List.append_eq_nil_iff.mp hsplit.symm
      cases hreached
      exact hfinal

end Document.Builder

end PageMarkup
