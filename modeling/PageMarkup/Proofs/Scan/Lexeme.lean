import PageMarkup.Scan.State

/-!
# Lexemes and splits

A lexeme is a token without its place. Its spelling is what stands in the text: the text of the
lexeme with the sign or the delimiters that mark its kind. Each kind has a class of texts, and
some kinds only let certain characters follow, so that a lexeme always reaches as far as it can.

A split cuts a text into lexemes with gaps of blanks around them. It says nothing about how a
text is read; that a text is read exactly if it has a split is proved elsewhere.
-/

namespace PageMarkup

namespace Scan

/-- A token without its place. -/
structure Lexeme where
  /-- What the lexeme is. -/
  kind : TokenKind
  /-- The mark, the word, or the text without its sign or delimiters. -/
  text : List Char
deriving DecidableEq, Repr

namespace Lexeme

/-- The characters that a lexeme is written with. -/
def spelling : Lexeme → List Char
  | ⟨.constant, text⟩ => '$' :: text
  | ⟨.declaration, text⟩ => '@' :: text
  | ⟨.decorator, text⟩ => '/' :: (text ++ ['/'])
  | ⟨.string, text⟩ => '"' :: (text ++ ['"'])
  | ⟨_, text⟩ => text

/-- Whether the text of a lexeme belongs to the class of its kind. -/
def wellFormed : Lexeme → Bool
  | ⟨.identifier, c :: rest⟩ => c.isLower && rest.all isWordChar
  | ⟨.keyword, c :: rest⟩ => c.isUpper && rest.all isWordChar
  | ⟨.integer, c :: rest⟩ => c.isDigit && rest.all Char.isDigit
  | ⟨.constant, text⟩ => text.all isWordChar
  | ⟨.declaration, text⟩ => text.all (!isGap ·)
  | ⟨.decorator, text⟩ => text.all (· != '/')
  | ⟨.string, text⟩ => text.all (· != '"')
  | ⟨kind, text⟩ => kind.symbol?.any (text == [·])

/-- Whether a lexeme can be followed by the character, or by the end of the text. -/
def allows (lexeme : Lexeme) (next : Option Char) : Bool :=
  match lexeme.kind with
  | .identifier | .keyword => next.all endsWord
  | .constant => next.all endsConstant
  | .integer => next.all (!·.isDigit)
  | .declaration => next.all isGap
  | _ => true

end Lexeme

/-- Lexemes with the blanks before each of them and after the last one. -/
inductive Split where
  | finish (gap : List Char)
  | next (gap : List Char) (lexeme : Lexeme) (rest : Split)
deriving DecidableEq, Repr

namespace Split

/-- The text that is split. -/
def text : Split → List Char
  | finish gap => gap
  | next gap lexeme rest => gap ++ (lexeme.spelling ++ rest.text)

/-- The lexemes in order. -/
def lexemes : Split → List Lexeme
  | finish _ => []
  | next _ lexeme rest => lexeme :: rest.lexemes

/-- Whether the gaps hold blanks only and each lexeme is well formed and can be followed by what
stands behind it. -/
def valid : Split → Bool
  | finish gap => gap.all isGap
  | next gap lexeme rest =>
    gap.all isGap && lexeme.wellFormed && lexeme.allows rest.text.head? && rest.valid

/-- A valid split of the given text. -/
def Spells (split : Split) (text : List Char) : Prop := split.valid = true ∧ split.text = text

end Split

end Scan

/-- A token without its place. -/
def Token.lexeme (token : Token) : Scan.Lexeme := ⟨token.kind, token.text.toList⟩

end PageMarkup
