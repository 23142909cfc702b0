import PageMarkup.Proofs.Scan.Splitting

/-!
# Faults are found as early as possible

A refused character is the first one that spoils a text: what stands before it can be read, and with
it nothing can, whatever follows. A delimiter without a second one spoils nothing yet: what stands
before it can be read, and one more delimiter at the end makes the whole text readable.
-/

namespace PageMarkup.Scan

/-- A diagnostic about the character at an index of a text, which is the first one that cannot stand
where it stands. -/
structure FirstRefused (text : List Char) (diagnostic : Diagnostic) (index : Nat) (c : Char) :
    Prop where
  /-- The character stands at the index. -/
  character : text[index]? = some c
  /-- The diagnostic names the character and its place. -/
  named : diagnostic = .lexical ("Unexpected character '" ++ Text.shownChar c ++ "'")
    (Position.first.after (text.take index))
  /-- What stands before the character can be read. -/
  before : ∃ scanned, scan (text.take index) = .ok scanned
  /-- With the character the diagnostic is the same, whatever follows. -/
  always : ∀ more, ∃ stop, scan (text.take (index + 1) ++ more) = .error stop ∧
    Fault.diagnostic stop.fault = diagnostic

/-- A diagnostic about the delimiter at an index of a text, which has no second one behind it. -/
structure LastDelimiter (text : List Char) (diagnostic : Diagnostic) (message : String)
    (mark : Char) (index : Nat) : Prop where
  /-- The delimiter stands at the index. -/
  delimiter : text[index]? = some mark
  /-- There is no further one. -/
  last : ∀ later, index < later → text[later]? ≠ some mark
  /-- The diagnostic names the place of the delimiter. -/
  named : diagnostic = .lexical message (Position.first.after (text.take index))
  /-- What stands before the delimiter can be read. -/
  before : ∃ scanned, scan (text.take index) = .ok scanned
  /-- A second delimiter at the end makes the text readable. -/
  closed : ∃ scanned, scan (text ++ [mark]) = .ok scanned

namespace Stops

variable {text before : List Char} {fault : Fault}

/-- One more delimiter at the end gives a text with a split. -/
theorem exists_spells_closed {kind : TokenKind} {mark : Char}
    (h : Stops text before (.unterminated kind)) (hmark : delimiter? kind = some mark) :
    ∃ split : Split, split.Spells (text ++ [mark]) := by
  generalize hfault : Fault.unterminated kind = fault at h
  induction h with
  | here h =>
    cases h with
    | character hbegin rest => cases hfault
    | follower hkind hform hword hallows rest => cases hfault
    | @unterminated other sign word hsign hword =>
      cases hfault
      obtain rfl : mark = sign := Option.some.inj (hmark.symm.trans hsign)
      have hform : Lexeme.wellFormed ⟨kind, word⟩ = true := by
        rw [wellFormed_of_delimiter? hmark, List.all_eq_true]
        intro c hc
        simpa using fun heq : c = mark => hword (heq ▸ hc)
      have hempty : (Split.finish []).Spells [] := ⟨rfl, rfl⟩
      have hspells := hempty.cons hform (Lexeme.allows_none _)
      rw [spelling_of_delimiter? hmark, List.append_nil] at hspells
      exact ⟨_, hspells⟩
  | gap hgap h ih =>
    obtain ⟨split, hsplit⟩ := ih hfault
    exact ⟨_, hsplit.widen hgap⟩
  | @lexeme lexeme text before fault hform hallows h ih =>
    obtain ⟨split, hsplit⟩ := ih hfault
    -- The text goes on behind the lexeme, so the same character follows it.
    have hnext : lexeme.allows (text ++ [mark]).head? = true := by
      obtain ⟨c, after, rfl, -⟩ := h.exists_eq_append
      simpa using hallows
    rw [List.append_assoc]
    exact ⟨_, hsplit.cons hform hnext⟩

/-- What stands before a fault can be read. -/
theorem exists_scan_before (h : Stops text before fault) :
    ∃ scanned, scan before = .ok scanned := by
  obtain ⟨split, hsplit⟩ := h.exists_spells_before
  exact ⟨_, scan_of_spells hsplit⟩

/-- A refused character is the first one that cannot stand where it stands. -/
theorem firstRefused {c : Char} {after : List Char}
    (h : Stops (before ++ c :: after) before (.unexpected c)) :
    FirstRefused (before ++ c :: after)
      (.lexical (Fault.unexpected c).message (Position.first.after before)) before.length c where
  character := by simp
  named := by
    rw [List.take_left]
    rfl
  before := by
    rw [List.take_left]
    exact h.exists_scan_before
  always more := by
    obtain ⟨tokens, hscan⟩ := scan_of_stops (h.continued more)
    have htake : (before ++ c :: after).take (before.length + 1) ++ more = before ++ c :: more := by
      rw [List.take_length_add_append, List.take_succ_cons, List.take_zero, List.append_assoc,
        List.singleton_append]
    rw [htake]
    exact ⟨_, hscan, rfl⟩

/-- A delimiter that has no second one behind it is the last one, and it can still be closed. -/
theorem lastDelimiter {kind : TokenKind} {mark : Char} {after : List Char}
    (h : Stops (before ++ mark :: after) before (.unterminated kind))
    (hmark : delimiter? kind = some mark) (hafter : mark ∉ after) :
    LastDelimiter (before ++ mark :: after)
      (.lexical (Fault.unterminated kind).message (Position.first.after before))
      (Fault.unterminated kind).message mark before.length where
  delimiter := by simp
  last later hlater heq := by
    obtain ⟨offset, rfl⟩ := Nat.exists_eq_add_of_lt hlater
    rw [List.getElem?_append_right (by omega), Nat.add_assoc, Nat.add_sub_cancel_left,
      List.getElem?_cons_succ] at heq
    exact hafter (List.mem_of_getElem? heq)
  named := by rw [List.take_left]
  before := by
    rw [List.take_left]
    exact h.exists_scan_before
  closed := by
    obtain ⟨split, hsplit⟩ := h.exists_spells_closed hmark
    exact ⟨_, scan_of_spells hsplit⟩

end Stops

/-- A text that cannot be read has a character that is the first one that cannot stand where it
stands, whatever follows it, or it has a last quote or a last slash that only lacks a second one at
the end. -/
theorem faults_are_earliest {text : List Char} {stop : Stop} (h : scan text = .error stop) :
    (∃ index c, FirstRefused text (Fault.diagnostic stop.fault) index c) ∨
    (∃ index, LastDelimiter text (Fault.diagnostic stop.fault) "Unterminated string" '"' index) ∨
    ∃ index,
      LastDelimiter text (Fault.diagnostic stop.fault) "Unterminated decorator" '/' index := by
  obtain ⟨before, fault, hstops, hfault⟩ := exists_stops_of_scan h
  obtain ⟨c, after, rfl, -, hcases⟩ := hstops.exists_eq_append
  rw [hfault]
  rcases hcases with rfl | ⟨kind, hkind, rfl, hafter⟩
  · exact .inl ⟨before.length, c, hstops.firstRefused⟩
  · have hlast := hstops.lastDelimiter hkind hafter
    cases kind with
    | string =>
      cases hkind
      exact .inr (.inl ⟨before.length, hlast⟩)
    | decorator =>
      cases hkind
      exact .inr (.inr ⟨before.length, hlast⟩)
    | _ => cases hkind

/-- A colon behind a constant is refused there, and a slash inside a quoted text is not the one that
lacks a second one. -/
theorem faults_behind_constant_and_quote :
    (∃ stop, scan ['$', 'a', ':', ' '] = .error stop ∧
      Fault.diagnostic stop.fault = .lexical (Fault.unexpected ':').message ⟨1, 3⟩ ∧
      ∃ index c, FirstRefused ['$', 'a', ':', ' '] (Fault.diagnostic stop.fault) index c) ∧
    ∃ stop, scan ['"', '/', '"', '/', 'b'] = .error stop ∧
      Fault.diagnostic stop.fault = .lexical "Unterminated decorator" ⟨1, 4⟩ ∧
      ∃ index, LastDelimiter ['"', '/', '"', '/', 'b'] (Fault.diagnostic stop.fault)
        "Unterminated decorator" '/' index := by
  constructor
  · have hform : Lexeme.wellFormed ⟨.constant, ['a']⟩ = true := rfl
    have hstops : Stops ['$', 'a', ':', ' '] ['$', 'a'] (.unexpected ':') :=
      .here (.follower (.inr (.inr rfl)) hform rfl rfl [' '])
    obtain ⟨tokens, hscan⟩ := scan_of_stops hstops
    refine ⟨_, hscan, rfl, ?_⟩
    rcases faults_are_earliest hscan with hrefused | ⟨index, hlast⟩ | ⟨index, hlast⟩
    · exact hrefused
    · have hmessage : (Fault.unexpected ':').message = "Unterminated string" :=
        (Diagnostic.lexical.inj hlast.named).1
      exact absurd hmessage (by decide)
    · have hmessage : (Fault.unexpected ':').message = "Unterminated decorator" :=
        (Diagnostic.lexical.inj hlast.named).1
      exact absurd hmessage (by decide)
  · have hform : Lexeme.wellFormed ⟨.string, ['/']⟩ = true := rfl
    have hstops : Stops ['"', '/', '"', '/', 'b'] ['"', '/', '"'] (.unterminated .decorator) :=
      have hrest : Stops ['/', 'b'] [] (.unterminated .decorator) :=
        .here (.unterminated rfl (by decide))
      hrest.lexeme hform rfl
    obtain ⟨tokens, hscan⟩ := scan_of_stops hstops
    refine ⟨_, hscan, rfl, ?_⟩
    rcases faults_are_earliest hscan with ⟨index, c, hrefused⟩ | ⟨index, hlast⟩ | hlast
    · have hmessage : "Unterminated decorator" =
          "Unexpected character '" ++ Text.shownChar c ++ "'" :=
        (Diagnostic.lexical.inj hrefused.named).1
      -- The two messages differ in their third character.
      have hthird := congrArg (·.toList[2]?) hmessage
      rw [String.append_assoc, String.toList_append,
        List.getElem?_append_left (by decide)] at hthird
      exact absurd hthird (by decide)
    · have hmessage : "Unterminated decorator" = "Unterminated string" :=
        (Diagnostic.lexical.inj hlast.named).1
      exact absurd hmessage (by decide)
    · exact hlast

end PageMarkup.Scan
