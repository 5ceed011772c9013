-- Texts shown in double quotes, as the structured form of a failure shows them: the quote,
-- the backslash and the common controls are escaped with a backslash, other characters that
-- are not printable or that extend the character before them as `\u` and their code in
-- lower-case hexadecimal within braces, and all other characters are kept.
import FluxAverage.Text.Printable

namespace FluxAverage.Text

/-- Lower-case hexadecimal digits of a natural, without leading zeros. -/
def hexDigits (n : Nat) : List Char := Nat.toDigits 16 n

/-- The escaped form of one character. -/
def escapeForQuote (c : Char) : List Char :=
  match c with
  | '\x00' => ['\\', '0']
  | '\t' => ['\\', 't']
  | '\r' => ['\\', 'r']
  | '\n' => ['\\', 'n']
  | '\\' => ['\\', '\\']
  | '"' => ['\\', '"']
  | c =>
    if isExtending c || !isPrintable c then
      ['\\', 'u', '\x7b'] ++ hexDigits c.toNat ++ ['\x7d']
    else [c]

/-- A text in double quotes, escaped. -/
def quoted (s : String) : String :=
  String.ofList ('"' :: (s.toList.flatMap escapeForQuote ++ ['"']))

/-- A list of texts in brackets, each quoted, separated by a comma and a blank. -/
def quotedList (xs : List String) : String := "[" ++ ", ".intercalate (xs.map quoted) ++ "]"

end FluxAverage.Text
