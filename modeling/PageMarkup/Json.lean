/-!
# JSON

Values of the data format and their written form. Objects keep the order of their fields. A value
is written either compactly or over several lines, where every entry of an array or an object
stands on a line of its own, two spaces further in for each level; only arrays of texts stay on
one line.
-/

namespace PageMarkup

/-- A JSON value without the kinds that are not used here. -/
inductive Json where
  | text (value : String)
  | number (value : Nat)
  | array (items : List Json)
  | object (fields : List (String × Json))

namespace Json

/-- Whether values are spread over lines. -/
inductive Style where
  | compact
  | pretty
deriving DecidableEq, Repr

namespace Style

/-- What stands after a comma or a colon on the same line. -/
def space : Style → String
  | compact => ""
  | pretty => " "

/-- What begins a new line at a level. -/
def newline (style : Style) (level : Nat) : String :=
  match style with
  | compact => ""
  | pretty => "\n" ++ String.ofList (List.replicate (2 * level) ' ')

end Style

/-- A character inside a written text: quotation marks, backslashes and controls are escaped. -/
def escaped (c : Char) : List Char :=
  if c = '"' then ['\\', '"']
  else if c = '\\' then ['\\', '\\']
  else if c = '\n' then ['\\', 'n']
  else if c = '\r' then ['\\', 'r']
  else if c = '\t' then ['\\', 't']
  else if c = '\x08' then ['\\', 'b']
  else if c = '\x0c' then ['\\', 'f']
  else if c.toNat < 0x20 then
    ['\\', 'u', '0', '0', Nat.digitChar (c.toNat / 16), Nat.digitChar (c.toNat % 16)]
  else [c]

/-- A text between quotation marks. -/
def quote (text : String) : String :=
  "\"" ++ String.ofList (text.toList.flatMap escaped) ++ "\""

/-- Whether a value is a text. -/
def isText : Json → Bool
  | text _ => true
  | number _ => false
  | array _ => false
  | object _ => false

mutual

/-- A value in writing, at a level. -/
def write (style : Style) (level : Nat) : Json → String
  | text value => quote value
  | number value => toString value
  | array items =>
    if items.all isText then "[" ++ writeItems style level ("," ++ style.space) items ++ "]"
    else "[" ++ style.newline (level + 1)
      ++ writeItems style (level + 1) ("," ++ style.newline (level + 1)) items
      ++ style.newline level ++ "]"
  | object fields =>
    if fields.isEmpty then "\x7b\x7d"
    else "\x7b" ++ style.newline (level + 1) ++ writeFields style (level + 1) fields
      ++ style.newline level ++ "\x7d"

/-- The items of an array in writing, with a separator between them. -/
def writeItems (style : Style) (level : Nat) (separator : String) : List Json → String
  | [] => ""
  | [item] => write style level item
  | item :: next :: rest =>
    write style level item ++ separator ++ writeItems style level separator (next :: rest)

/-- The fields of an object in writing, each on a line of its own. -/
def writeFields (style : Style) (level : Nat) : List (String × Json) → String
  | [] => ""
  | [(key, value)] => quote key ++ ":" ++ style.space ++ write style level value
  | (key, value) :: next :: rest =>
    quote key ++ ":" ++ style.space ++ write style level value ++ "," ++ style.newline level
      ++ writeFields style level (next :: rest)

end

/-- A whole value in writing. -/
def render (style : Style) (value : Json) : String := value.write style 0

/-- An array in writing whose items are compact in either style, each on a line of its own. -/
def renderRows (style : Style) (rows : List Json) : String :=
  if rows.isEmpty then "[]"
  else "[" ++ style.newline 1 ++ ("," ++ style.newline 1).intercalate (rows.map (render .compact))
    ++ style.newline 0 ++ "]"

end Json

end PageMarkup
