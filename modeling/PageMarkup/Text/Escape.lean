import PageMarkup.Text.Extending
import PageMarkup.Text.Printable

/-!
# Characters shown in messages

A character that would be invisible, or would join its neighbours, is shown in a message by an
escape sequence: a letter after a backslash for the usual controls, else its code point in
hexadecimal between braces.
-/

namespace PageMarkup.Text

/-- The code point of a character as an escape sequence. -/
def escapedCode (c : Char) : List Char :=
  ['\\', 'u', '\x7b'] ++ Nat.toDigits 16 c.toNat ++ ['\x7d']

/-- A character as it is shown: quotation marks are escaped when `escapeQuote` holds of them. -/
def shown (escapeQuote : Char → Bool) (c : Char) : List Char :=
  match c with
  | '\x00' => ['\\', '0']
  | '\t' => ['\\', 't']
  | '\r' => ['\\', 'r']
  | '\n' => ['\\', 'n']
  | '\\' => ['\\', '\\']
  | _ =>
    if escapeQuote c then ['\\', c]
    else if isExtending c || !isPrintable c then escapedCode c
    else [c]

/-- A single character as it is shown in a message: both quotation marks are escaped. -/
def shownChar (c : Char) : String :=
  String.ofList (shown (fun d => d == '"' || d == '\x27') c)

/-- A text between double quotation marks, with the double marks inside it escaped. -/
def quoted (text : String) : String :=
  "\"" ++ String.ofList (text.toList.flatMap (shown (· == '"'))) ++ "\""

end PageMarkup.Text
