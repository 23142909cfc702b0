/-!
# Positions in a text

A position names a character by its line and its column, both counted from one. Reading a
character moves the position to the next column, or to the next line after a line end.
-/

namespace PageMarkup

/-- A place in a text, by line and column. -/
structure Position where
  /-- The line, counted from one. -/
  line : Nat
  /-- The column within the line, counted from one in characters. -/
  column : Nat
deriving DecidableEq, Repr

namespace Position

/-- The position of the first character of a text. -/
def first : Position := ⟨1, 1⟩

/-- The position that follows a character read at the given position. -/
def next (position : Position) (c : Char) : Position :=
  if c = '\n' then ⟨position.line + 1, 1⟩ else ⟨position.line, position.column + 1⟩

/-- The position that follows a whole text read from the given position. -/
def after (position : Position) (text : List Char) : Position := text.foldl next position

/-- The written form, line and column with a colon between them. -/
def render (position : Position) : String :=
  toString position.line ++ ":" ++ toString position.column

@[simp]
theorem after_nil (position : Position) : position.after [] = position := rfl

@[simp]
theorem after_cons (position : Position) (c : Char) (text : List Char) :
    position.after (c :: text) = (position.next c).after text := rfl

/-- Reading two texts one after the other is reading their concatenation. -/
theorem after_append (position : Position) (first second : List Char) :
    position.after (first ++ second) = (position.after first).after second := by
  simp [after, List.foldl_append]

end Position

/-- A value together with the position it belongs to. -/
structure Located (α : Type) where
  /-- What stands there. -/
  value : α
  /-- Where it stands. -/
  position : Position
deriving DecidableEq, Repr

end PageMarkup
