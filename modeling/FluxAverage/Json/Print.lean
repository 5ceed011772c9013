-- Writing JSON text on one line without blanks. Strings escape the quote, the backslash and
-- the control characters; other characters are written as they are. A binary64 number is
-- written with its shortest digits, positionally near one and with an exponent otherwise,
-- and a value that is not finite is written as `null`.
import FluxAverage.Json.Value
import FluxAverage.Decimal.Layout

namespace FluxAverage.Json

/-- Numbers in JSON text: positional for point positions from `-4` to `16`, whole numbers
with `.0` (`1.0`, `0.0001`, `1e-5`, `1e16`, `1.8181818181818183e-35`). -/
def numberLayout : Decimal.Layout :=
  ⟨.positionalWithin (-5) 16, true, "e", "null", "null", .even⟩

/-- A hexadecimal digit, lower case. -/
def hexDigit (n : Nat) : Char :=
  if n < 10 then Char.ofNat ('0'.toNat + n) else Char.ofNat ('a'.toNat + n - 10)

/-- The escaped form of one character inside a string. -/
def escapeChar (c : Char) : List Char :=
  match c with
  | '"' => ['\\', '"']
  | '\\' => ['\\', '\\']
  | '\n' => ['\\', 'n']
  | '\r' => ['\\', 'r']
  | '\t' => ['\\', 't']
  | '\x08' => ['\\', 'b']
  | '\x0c' => ['\\', 'f']
  | c =>
    if c.toNat < 0x20 then
      ['\\', 'u', '0', '0', hexDigit (c.toNat / 16), hexDigit (c.toNat % 16)]
    else [c]

/-- A string in quotes, escaped. -/
def quote (s : String) : String :=
  String.ofList ('"' :: (s.toList.flatMap escapeChar ++ ['"']))

/-- The text of a number. -/
def numberText : Number → String
  | .nat n => toString n
  | .neg n => toString n
  | .float x => if x.isFinite then numberLayout.write x else "null"

/-- Joins texts with commas. -/
def commaList (xs : List String) : String := ",".intercalate xs

mutual
/-- The compact text of a value. -/
def render : Json → String
  | .null => "null"
  | .bool true => "true"
  | .bool false => "false"
  | .num n => numberText n
  | .str s => quote s
  | .arr items => "[" ++ commaList (renderItems items) ++ "]"
  | .obj members => "\x7b" ++ commaList (renderMembers members) ++ "\x7d"
  -- only the reader makes one, and nothing read is written back
  | .unreadable => "null"

/-- The text of each item. -/
def renderItems : List Json → List String
  | [] => []
  | v :: rest => render v :: renderItems rest

/-- The text of each member, key and value. -/
def renderMembers : List (String × Json) → List String
  | [] => []
  | (k, v) :: rest => (quote k ++ ":" ++ render v) :: renderMembers rest
end

/-- `n` levels of two-blank indentation. -/
def indentation (n : Nat) : String := String.ofList (List.replicate (2 * n) ' ')

mutual
/-- The text of a value laid out over lines, two blanks per level; an empty array or object
stays on its line. -/
def renderPretty (level : Nat) : Json → String
  | .arr [] => "[]"
  | .obj [] => "\x7b\x7d"
  | .arr items =>
    "[\n" ++ ",\n".intercalate (prettyItems (level + 1) items) ++ "\n" ++ indentation level ++ "]"
  | .obj members =>
    "\x7b\n" ++ ",\n".intercalate (prettyMembers (level + 1) members) ++ "\n" ++
      indentation level ++ "\x7d"
  | v => render v

/-- Each item, indented. -/
def prettyItems (level : Nat) : List Json → List String
  | [] => []
  | v :: rest => (indentation level ++ renderPretty level v) :: prettyItems level rest

/-- Each member, indented, key and value. -/
def prettyMembers (level : Nat) : List (String × Json) → List String
  | [] => []
  | (k, v) :: rest =>
    (indentation level ++ quote k ++ ": " ++ renderPretty level v) :: prettyMembers level rest
end

end FluxAverage.Json
