import PageMarkup.Position

/-!
# Tokens

A token is a piece of a text with a meaning: a punctuation mark, a word, a number, a quoted text,
a constant, a declaration or a decorator. Its text leaves out the sign or the delimiters that mark
its kind, and its position is that of its first character.
-/

namespace PageMarkup

/-- What a token is. -/
inductive TokenKind where
  | roundOpen
  | roundClose
  | squareOpen
  | squareClose
  | colon
  | comma
  | dot
  /-- A word that begins with a small letter. -/
  | identifier
  /-- A word that begins with a capital letter. -/
  | keyword
  /-- A word after a dollar sign. -/
  | constant
  /-- A word after an at sign. -/
  | declaration
  /-- A text between slashes. -/
  | decorator
  /-- Digits. -/
  | integer
  /-- A text between double quotation marks. -/
  | string
deriving DecidableEq, Repr

namespace TokenKind

/-- All kinds. -/
def all : List TokenKind :=
  [roundOpen, roundClose, squareOpen, squareClose, colon, comma, dot, identifier, keyword,
   constant, declaration, decorator, integer, string]

/-- The name of a kind. -/
def name : TokenKind → String
  | roundOpen => "BracketRoundOpen"
  | roundClose => "BracketRoundClose"
  | squareOpen => "BracketSquareOpen"
  | squareClose => "BracketSquareClose"
  | colon => "Colon"
  | comma => "Comma"
  | dot => "Dot"
  | identifier => "Identifier"
  | keyword => "Keyword"
  | constant => "Constant"
  | declaration => "Declaration"
  | decorator => "Decorator"
  | integer => "Integer"
  | string => "String"

/-- The kind with the given name. -/
def ofName? (text : String) : Option TokenKind := all.find? fun kind => kind.name = text

/-- The punctuation mark of the kinds that have only one spelling. -/
def symbol? : TokenKind → Option Char
  | roundOpen => some '('
  | roundClose => some ')'
  | squareOpen => some '['
  | squareClose => some ']'
  | colon => some ':'
  | comma => some ','
  | dot => some '.'
  | identifier | keyword | constant | declaration | decorator | integer | string => none

/-- The name determines the kind. -/
@[simp]
theorem ofName?_name (kind : TokenKind) : ofName? kind.name = some kind := by
  cases kind <;> decide

end TokenKind

/-- A piece of a text with its kind and place. -/
structure Token where
  /-- What the token is. -/
  kind : TokenKind
  /-- The mark, the word, or the text without its sign or delimiters. -/
  text : String
  /-- Where the token begins. -/
  position : Position
deriving DecidableEq, Repr

end PageMarkup
