/-!
# Case mappings

A case mapping replaces each character by a text. Most characters with another form are replaced
by a single character at a fixed distance, so runs of them are stored together; the few that are
replaced by several characters are listed one by one.
-/

namespace PageMarkup.Text

/-- Equally spaced code points that are all replaced by the code point at one fixed distance. -/
structure CaseRun where
  /-- The first code point of the run. -/
  first : Nat
  /-- The last code point of the run. -/
  last : Nat
  /-- The distance between neighbours in the run. -/
  step : Nat
  /-- The code point that replaces the first one. -/
  target : Nat
deriving DecidableEq, Repr

/-- Whether a code point belongs to the run. -/
def CaseRun.holds (run : CaseRun) (code : Nat) : Bool :=
  decide (run.first ≤ code) && decide (code ≤ run.last) && (code - run.first) % run.step == 0

/-- A replacement for every character; one that is listed nowhere is replaced by itself. -/
structure CaseMapping where
  /-- The characters replaced by a single one. -/
  runs : List CaseRun
  /-- The characters replaced by several. -/
  expansions : List (Nat × List Nat)

/-- What a character is replaced by. -/
def CaseMapping.apply (mapping : CaseMapping) (c : Char) : List Char :=
  match mapping.runs.find? fun run => run.holds c.toNat with
  | some run => [Char.ofNat (run.target + (c.toNat - run.first))]
  | none =>
    match mapping.expansions.lookup c.toNat with
    | some codes => codes.map Char.ofNat
    | none => [c]

end PageMarkup.Text
