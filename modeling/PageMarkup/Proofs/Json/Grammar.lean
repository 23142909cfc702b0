/-!
# The grammar of JSON

A text denotes a value by the rules of the format: blanks may stand around values and around
structural characters, a character of a text may be written in several ways, and a number is an
optional sign, a whole part without leading zeros, and optional parts for the fraction and the
power of ten. An object keeps its fields in order, also when a key occurs twice.

The rules say which texts denote which values. They do not say how a text is read.
-/

namespace PageMarkup.Json

/-- A value of the format. A number is a whole number times a power of ten. -/
inductive Value where
  | null
  | boolean (value : Bool)
  | number (mantissa exponent : Int)
  | text (value : String)
  | array (items : List Value)
  | object (fields : List (String × Value))

namespace Value

/-- The characters that may stand around values and structural characters. -/
def isBlank (c : Char) : Bool := c == ' ' || c == '\t' || c == '\n' || c == '\r'

/-- The value of a hexadecimal digit. -/
def hexDigit? (c : Char) : Option Nat :=
  if c.isDigit then some (c.toNat - '0'.toNat)
  else if 'a' ≤ c ∧ c ≤ 'f' then some (c.toNat - 'a'.toNat + 10)
  else if 'A' ≤ c ∧ c ≤ 'F' then some (c.toNat - 'A'.toNat + 10)
  else none

/-- The value of four hexadecimal digits. -/
def codeUnit? (first second third fourth : Char) : Option Nat := do
  let first ← hexDigit? first
  let second ← hexDigit? second
  let third ← hexDigit? third
  let fourth ← hexDigit? fourth
  return ((first * 16 + second) * 16 + third) * 16 + fourth

/-- The character that a letter after a backslash stands for. -/
def shortEscape? : Char → Option Char
  | '"' => some '"'
  | '\\' => some '\\'
  | '/' => some '/'
  | 'b' => some '\x08'
  | 'f' => some '\x0c'
  | 'n' => some '\n'
  | 'r' => some '\r'
  | 't' => some '\t'
  | _ => none

/-- The first half of a pair of code units. -/
def isHighSurrogate (unit : Nat) : Bool := 0xD800 ≤ unit && unit < 0xDC00

/-- The second half of a pair of code units. -/
def isLowSurrogate (unit : Nat) : Bool := 0xDC00 ≤ unit && unit < 0xE000

/-- The character that a pair of code units stands for. -/
def paired (high low : Nat) : Char :=
  Char.ofNat (0x10000 + (high - 0xD800) * 0x400 + (low - 0xDC00))

/-- The ways to write one character inside quotation marks. -/
inductive SpellsChar : List Char → Char → Prop
  | plain {c : Char} (hquote : c ≠ '"') (hbackslash : c ≠ '\\') (hcontrol : 0x20 ≤ c.toNat) :
    SpellsChar [c] c
  | short {letter c : Char} (hletter : shortEscape? letter = some c) :
    SpellsChar ['\\', letter] c
  | unit {first second third fourth : Char} {value : Nat}
    (hunit : codeUnit? first second third fourth = some value)
    (hhigh : isHighSurrogate value = false) (hlow : isLowSurrogate value = false) :
    SpellsChar ['\\', 'u', first, second, third, fourth] (Char.ofNat value)
  | pair {first second third fourth fifth sixth seventh eighth : Char} {high low : Nat}
    (hhigh : codeUnit? first second third fourth = some high)
    (hlow : codeUnit? fifth sixth seventh eighth = some low)
    (hisHigh : isHighSurrogate high = true) (hisLow : isLowSurrogate low = true) :
    SpellsChar
      ['\\', 'u', first, second, third, fourth, '\\', 'u', fifth, sixth, seventh, eighth]
      (paired high low)

/-- The ways to write characters inside quotation marks. -/
inductive SpellsChars : List Char → List Char → Prop
  | nil : SpellsChars [] []
  | cons {first rest text : List Char} {c : Char} (hfirst : SpellsChar first c)
    (hrest : SpellsChars rest text) : SpellsChars (first ++ rest) (c :: text)

/-- The ways to write a text with its quotation marks. -/
inductive SpellsText : List Char → String → Prop
  | quoted {inside text : List Char} (h : SpellsChars inside text) :
    SpellsText ('"' :: (inside ++ ['"'])) (String.ofList text)

/-- The power of ten in a number: a letter, perhaps a sign, and digits. -/
structure Power where
  /-- The letter that begins it. -/
  letter : Char
  /-- Its sign, if it is written. -/
  sign : Option Char
  /-- Its digits. -/
  digits : List Char
deriving DecidableEq, Repr

/-- The parts of a written number. -/
structure Numeral where
  /-- Whether a minus sign stands before it. -/
  negative : Bool
  /-- The digits of the whole part. -/
  whole : List Char
  /-- The digits after the point, if there is one. -/
  fraction : Option (List Char)
  /-- The power of ten, if there is one. -/
  power : Option Power
deriving DecidableEq, Repr

/-- The number that digits stand for. -/
def ofDigits (digits : List Char) : Nat := Nat.ofDigitChars 10 digits 0

/-- Whether there is at least one digit and nothing else. -/
def areDigits (digits : List Char) : Bool := !digits.isEmpty && digits.all Char.isDigit

namespace Power

/-- The power in writing. -/
def spelling (power : Power) : List Char :=
  power.letter :: (power.sign.toList ++ power.digits)

/-- Whether the power is written by the rules. -/
def wellFormed (power : Power) : Bool :=
  (power.letter == 'e' || power.letter == 'E') &&
    power.sign.all (fun c => c == '+' || c == '-') && areDigits power.digits

/-- The exponent. -/
def exponent (power : Power) : Int :=
  if power.sign = some '-' then -(ofDigits power.digits : Int) else ofDigits power.digits

end Power

namespace Numeral

/-- A number in writing. -/
def spelling (numeral : Numeral) : List Char :=
  (if numeral.negative then ['-'] else []) ++ numeral.whole ++
    (numeral.fraction.elim [] ('.' :: ·)) ++ (numeral.power.elim [] Power.spelling)

/-- Whether a number is written by the rules: a whole part of several digits has no leading
zero. -/
def wellFormed (numeral : Numeral) : Bool :=
  areDigits numeral.whole && (numeral.whole == ['0'] || numeral.whole.head? != some '0') &&
    numeral.fraction.all areDigits && numeral.power.all Power.wellFormed

/-- All digits of the number, with their sign. -/
def mantissa (numeral : Numeral) : Int :=
  let digits := ofDigits (numeral.whole ++ numeral.fraction.getD [])
  if numeral.negative then -(digits : Int) else digits

/-- The power of ten that the digits are multiplied with. -/
def exponent (numeral : Numeral) : Int :=
  numeral.power.elim 0 Power.exponent - (numeral.fraction.getD []).length

/-- The value of a number. -/
def value (numeral : Numeral) : Value := .number numeral.mantissa numeral.exponent

end Numeral

mutual

/-- The ways to write a value without blanks around it. -/
inductive Spells : List Char → Value → Prop
  | null : Spells ['n', 'u', 'l', 'l'] .null
  | isTrue : Spells ['t', 'r', 'u', 'e'] (.boolean true)
  | isFalse : Spells ['f', 'a', 'l', 's', 'e'] (.boolean false)
  | number {numeral : Numeral} (h : numeral.wellFormed = true) :
    Spells numeral.spelling numeral.value
  | text {spelling : List Char} {text : String} (h : SpellsText spelling text) :
    Spells spelling (.text text)
  | emptyArray {blanks : List Char} (hblanks : blanks.all isBlank = true) :
    Spells ('[' :: (blanks ++ [']'])) (.array [])
  | array {inside : List Char} {items : List Value} (h : SpellsItems inside items) :
    Spells ('[' :: (inside ++ [']'])) (.array items)
  | emptyObject {blanks : List Char} (hblanks : blanks.all isBlank = true) :
    Spells ('\x7b' :: (blanks ++ ['\x7d'])) (.object [])
  | object {inside : List Char} {fields : List (String × Value)} (h : SpellsFields inside fields) :
    Spells ('\x7b' :: (inside ++ ['\x7d'])) (.object fields)

/-- The ways to write one or more items of an array. -/
inductive SpellsItems : List Char → List Value → Prop
  | last {before item after : List Char} {value : Value} (hbefore : before.all isBlank = true)
    (hitem : Spells item value) (hafter : after.all isBlank = true) :
    SpellsItems (before ++ (item ++ after)) [value]
  | next {before item after rest : List Char} {value : Value} {values : List Value}
    (hbefore : before.all isBlank = true) (hitem : Spells item value)
    (hafter : after.all isBlank = true) (hrest : SpellsItems rest values) :
    SpellsItems (before ++ (item ++ (after ++ ',' :: rest))) (value :: values)

/-- The ways to write one or more fields of an object. -/
inductive SpellsFields : List Char → List (String × Value) → Prop
  | last {before key gap inner item after : List Char} {name : String} {value : Value}
    (hbefore : before.all isBlank = true) (hkey : SpellsText key name)
    (hgap : gap.all isBlank = true) (hinner : inner.all isBlank = true)
    (hitem : Spells item value) (hafter : after.all isBlank = true) :
    SpellsFields (before ++ (key ++ (gap ++ ':' :: (inner ++ (item ++ after))))) [(name, value)]
  | next {before key gap inner item after rest : List Char} {name : String} {value : Value}
    {fields : List (String × Value)} (hbefore : before.all isBlank = true)
    (hkey : SpellsText key name) (hgap : gap.all isBlank = true)
    (hinner : inner.all isBlank = true) (hitem : Spells item value)
    (hafter : after.all isBlank = true) (hrest : SpellsFields rest fields) :
    SpellsFields
      (before ++ (key ++ (gap ++ ':' :: (inner ++ (item ++ (after ++ ',' :: rest))))))
      ((name, value) :: fields)

end

/-- The texts that denote a value: its writing with blanks around it. -/
inductive Denotes : List Char → Value → Prop
  | intro {before spelling after : List Char} {value : Value}
    (hbefore : before.all isBlank = true) (h : Spells spelling value)
    (hafter : after.all isBlank = true) : Denotes (before ++ (spelling ++ after)) value

end Value

end PageMarkup.Json
