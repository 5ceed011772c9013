-- Reading JSON text under the strict grammar. A number without point or exponent that fits 64
-- bits is an integer, any other binary64 by the quick rule of `quickDecimal`; a number out of
-- range, or a string with an unpaired surrogate escape, is read as `unreadable`.
import FluxAverage.Json.Value
import FluxAverage.Decimal.Read

namespace FluxAverage.Json

/-- The blanks allowed between tokens. -/
def isBlank (c : Char) : Bool := c == ' ' || c == '\t' || c == '\n' || c == '\r'

/-- The text after leading blanks. -/
def skipBlanks (cs : List Char) : List Char := cs.dropWhile isBlank

/-- The value of a decimal digit. -/
def digitValue (c : Char) : Nat := c.toNat - '0'.toNat

/-- Whether `acc · 10 + d` passes `limit`. -/
def stepOverflows (acc d limit : Nat) : Bool :=
  acc ≥ limit / 10 && (acc > limit / 10 || d > limit % 10)

/-- The largest 64-bit natural. -/
def natMax : Nat := Nat.pow 2 64 - 1

/-- The largest 32-bit signed exponent. -/
def expMax : Nat := Nat.pow 2 31 - 1

/-- Clamps an exponent to the 32-bit signed range. -/
def clampExponent (e : Int) : Int := max (min e expMax) (-(expMax : Int) - 1)

/-- The text after a run of digits. -/
def skipDigits (cs : List Char) : List Char := cs.dropWhile Char.isDigit

/-! ## Numbers -/

/-- A binary64 number from its parts by the quick rule; out of range, it is unreadable. -/
def fromParts (negative : Bool) (significand : Nat) (e : Int) (rest : List Char) :
    Option (Json × List Char) :=
  match Decimal.quickDecimal negative significand e with
  | .ok x => some (.num (.float x), rest)
  | .error _ => some (.unreadable, rest)

/-- After an exponent that passed the 32-bit range: the value is zero, unless the significand
is nonzero and the exponent positive, which is out of range. -/
def exponentOverflow (negative zeroSignificand positiveExp : Bool) (cs : List Char) :
    Option (Json × List Char) :=
  if !zeroSignificand && positiveExp then some (.unreadable, skipDigits cs)
  else some (.num (.float (if negative then -0.0 else 0.0)), skipDigits cs)

/-- The digits of an exponent, accumulated while they fit 32 bits. -/
def exponentDigits (negative : Bool) (significand : Nat) (start : Int) (positiveExp : Bool)
    (acc : Nat) : List Char → Option (Json × List Char)
  | c :: rest =>
    if c.isDigit then
      if stepOverflows acc (digitValue c) expMax then
        exponentOverflow negative (significand == 0) positiveExp rest
      else exponentDigits negative significand start positiveExp (acc * 10 + digitValue c) rest
    else
      fromParts negative significand
        (clampExponent (if positiveExp then start + acc else start - acc)) (c :: rest)
  | [] =>
    fromParts negative significand (clampExponent (if positiveExp then start + acc else start - acc)) []

/-- An exponent, after its mark: an optional sign and at least one digit. -/
def exponentPart (negative : Bool) (significand : Nat) (start : Int) (cs : List Char) :
    Option (Json × List Char) :=
  let (positiveExp, cs) := match cs with
    | '+' :: r => (true, r)
    | '-' :: r => (false, r)
    | r => (true, r)
  match cs with
  | c :: rest =>
    if c.isDigit then exponentDigits negative significand start positiveExp (digitValue c) rest
    else none
  | [] => none

/-- What follows the digits of a significand: an exponent or the end of the number. -/
def afterSignificand (negative : Bool) (significand : Nat) (e : Int) :
    List Char → Option (Json × List Char)
  | 'e' :: r => exponentPart negative significand e r
  | 'E' :: r => exponentPart negative significand e r
  | cs => fromParts negative significand e cs

/-- The digits after a point. Each digit that fits the 64-bit significand lowers the exponent;
once one does not fit, it and the digits after it are dropped. A point needs a digit after it,
which `seen` records: the exponent alone cannot tell, since digits dropped from a long integer
part have already raised it. -/
def fractionDigits (negative : Bool) (significand : Nat) (e : Int) (seen : Bool) :
    List Char → Option (Json × List Char)
  | c :: rest =>
    if c.isDigit then
      if stepOverflows significand (digitValue c) natMax then
        afterSignificand negative significand e (skipDigits rest)
      else fractionDigits negative (significand * 10 + digitValue c) (e - 1) true rest
    else if !seen then none
    else afterSignificand negative significand e (c :: rest)
  | [] => if !seen then none else afterSignificand negative significand e []

/-- The digits of an integer part too long for 64 bits: each one raises the exponent. -/
def longDigits (negative : Bool) (significand : Nat) (e : Int) :
    List Char → Option (Json × List Char)
  | c :: rest =>
    if c.isDigit then longDigits negative significand (e + 1) rest
    else if c == '.' then fractionDigits negative significand e false rest
    else afterSignificand negative significand e (c :: rest)
  | [] => fromParts negative significand e []

/-- What follows an integer part that fits 64 bits: a point, an exponent, or the end. An
integer is kept as one: a natural, or a negative integer when it fits 64 signed bits; `-0`
and the negative integers below `-2^63` become binary64. -/
def afterInteger (negative : Bool) (significand : Nat) :
    List Char → Option (Json × List Char)
  | '.' :: r => fractionDigits negative significand 0 false r
  | 'e' :: r => exponentPart negative significand 0 r
  | 'E' :: r => exponentPart negative significand 0 r
  | cs =>
    if !negative then some (.num (.nat significand), cs)
    else if significand == 0 || significand > Nat.pow 2 63 then
      some (.num (.float (-Float.ofNat significand)), cs)
    else some (.num (.neg (-(significand : Int))), cs)

/-- The digits of an integer part, accumulated while they fit 64 bits. -/
def integerDigits (negative : Bool) (significand : Nat) :
    List Char → Option (Json × List Char)
  | c :: rest =>
    if c.isDigit then
      if stepOverflows significand (digitValue c) natMax then
        longDigits negative significand 0 (c :: rest)
      else integerDigits negative (significand * 10 + digitValue c) rest
    else afterInteger negative significand (c :: rest)
  | [] => afterInteger negative significand []

/-- A number after its optional minus sign: a lone `0` or a digit from one to nine first. -/
def number (negative : Bool) : List Char → Option (Json × List Char)
  | '0' :: rest =>
    match rest with
    | c :: _ => if c.isDigit then none else afterInteger negative 0 rest
    | [] => afterInteger negative 0 []
  | c :: rest => if c.isDigit then integerDigits negative (digitValue c) rest else none
  | [] => none

/-! ## Strings -/

/-- The value of a hexadecimal digit. -/
def hexValue (c : Char) : Option Nat :=
  if c.isDigit then some (digitValue c)
  else if 'a' ≤ c ∧ c ≤ 'f' then some (c.toNat - 'a'.toNat + 10)
  else if 'A' ≤ c ∧ c ≤ 'F' then some (c.toNat - 'A'.toNat + 10)
  else none

/-- The value of four hexadecimal digits. -/
def hexQuad (a b c d : Char) : Option Nat := do
  let va ← hexValue a
  let vb ← hexValue b
  let vc ← hexValue c
  let vd ← hexValue d
  return ((va * 16 + vb) * 16 + vc) * 16 + vd

/-- Whether a code unit is a high (leading) surrogate. -/
def isHighSurrogate (n : Nat) : Bool := 0xD800 ≤ n && n ≤ 0xDBFF

/-- Whether a code unit is a low (trailing) surrogate. -/
def isLowSurrogate (n : Nat) : Bool := 0xDC00 ≤ n && n ≤ 0xDFFF

/-- The character of a surrogate pair. -/
def ofSurrogates (high low : Nat) : Char :=
  Char.ofNat ((high - 0xD800) * 0x400 + (low - 0xDC00) + 0x10000)

/-- The state of a string being read: the characters so far (last first), a high surrogate
whose low partner must come next, and whether every surrogate so far had its partner. -/
structure StringState where
  chars : List Char
  pending : Option Nat
  paired : Bool

namespace StringState

/-- The start of a string. -/
def start : StringState := ⟨[], none, true⟩

/-- Adds a character; a high surrogate left pending is unpaired. -/
def push (st : StringState) (c : Char) : StringState :=
  ⟨c :: st.chars, none, st.paired && st.pending.isNone⟩

/-- Adds the code unit of a `\u` escape: a high surrogate waits for its partner, a low one
completes a pending high one and is otherwise unpaired. -/
def unit (st : StringState) (n : Nat) : StringState :=
  if isHighSurrogate n then ⟨st.chars, some n, st.paired && st.pending.isNone⟩
  else if isLowSurrogate n then
    match st.pending with
    | some h => ⟨ofSurrogates h n :: st.chars, none, st.paired⟩
    | none => ⟨st.chars, none, false⟩
  else st.push (Char.ofNat n)

/-- The text read, if every surrogate had its partner. -/
def text? (st : StringState) : Option String :=
  if st.paired && st.pending.isNone then some (String.ofList st.chars.reverse) else none

end StringState

/-- The characters of a string up to its closing quote, with escapes decoded, and the text
after it. A `\u` escape of a high surrogate followed by an escaped low one gives the character
of the pair; a surrogate escape without its partner makes the string read as `none`. -/
def stringChars (st : StringState) : List Char → Option (Option String × List Char)
  | [] => none
  | '"' :: rest => some (st.text?, rest)
  | '\\' :: '"' :: r => stringChars (st.push '"') r
  | '\\' :: '\\' :: r => stringChars (st.push '\\') r
  | '\\' :: '/' :: r => stringChars (st.push '/') r
  | '\\' :: 'b' :: r => stringChars (st.push '\x08') r
  | '\\' :: 'f' :: r => stringChars (st.push '\x0c') r
  | '\\' :: 'n' :: r => stringChars (st.push '\n') r
  | '\\' :: 'r' :: r => stringChars (st.push '\r') r
  | '\\' :: 't' :: r => stringChars (st.push '\t') r
  | '\\' :: 'u' :: a :: b :: c :: d :: r =>
    match hexQuad a b c d with
    | none => none
    | some n => stringChars (st.unit n) r
  | '\\' :: _ => none
  | c :: rest => if c.toNat < 0x20 then none else stringChars (st.push c) rest

/-- A string value after its opening quote. -/
def stringValue (cs : List Char) : Option (Json × List Char) :=
  (stringChars .start cs).map fun (s, r) => (s.elim .unreadable .str, r)

/-! ## Values -/

mutual
/-- A value at the start of the text (blanks already skipped), and the text after it. The
fuel bounds the calls (each consumes text before the next). -/
def value : Nat → List Char → Option (Json × List Char)
  | 0, _ => none
  | fuel + 1, cs =>
    match cs with
    | 'n' :: 'u' :: 'l' :: 'l' :: r => some (.null, r)
    | 't' :: 'r' :: 'u' :: 'e' :: r => some (.bool true, r)
    | 'f' :: 'a' :: 'l' :: 's' :: 'e' :: r => some (.bool false, r)
    | '"' :: r => stringValue r
    | '[' :: r =>
      match skipBlanks r with
      | ']' :: r' => some (.arr [], r')
      | r' => items fuel [] r'
    | '\x7b' :: r =>
      match skipBlanks r with
      | '\x7d' :: r' => some (.obj [], r')
      | r' => members fuel true [] r'
    | '-' :: r => number true r
    | r => number false r

/-- The items of an array from the first one on, collected in reverse. -/
def items : Nat → List Json → List Char → Option (Json × List Char)
  | 0, _, _ => none
  | fuel + 1, acc, cs =>
    match value fuel cs with
    | none => none
    | some (v, r) =>
      match skipBlanks r with
      | ',' :: r' =>
        match skipBlanks r' with
        | ']' :: _ => none
        | r'' => items fuel (v :: acc) r''
      | ']' :: r' => some (.arr (v :: acc).reverse, r')
      | _ => none

/-- The members of an object from the first key on, collected in reverse; `readable` turns
false at a key that is not. -/
def members : Nat → Bool → List (String × Json) → List Char → Option (Json × List Char)
  | 0, _, _, _ => none
  | fuel + 1, readable, acc, cs =>
    match cs with
    | '"' :: r =>
      match stringChars .start r with
      | none => none
      | some (key, r') =>
        match skipBlanks r' with
        | ':' :: r'' =>
          match value fuel (skipBlanks r'') with
          | none => none
          | some (v, r3) =>
            let readable := readable && key.isSome
            let acc := (key.getD "", v) :: acc
            match skipBlanks r3 with
            | ',' :: r4 =>
              match skipBlanks r4 with
              | '\x7d' :: _ => none
              | r5 => members fuel readable acc r5
            | '\x7d' :: r4 => some (if readable then .obj acc.reverse else .unreadable, r4)
            | _ => none
        | _ => none
    | _ => none
end

/-- Reads a whole text as one JSON value; only blanks may follow it. -/
def parse (text : String) : Option Json :=
  let cs := text.toList
  match value (2 * cs.length + 4) (skipBlanks cs) with
  | some (v, rest) => if skipBlanks rest = [] then some v else none
  | none => none

/-- Whether a value holds nothing unreadable and nests at most `depth` arrays and objects. -/
def fitsModel : Nat → Json → Bool
  | _, .unreadable => false
  | 0, .arr _ => false
  | 0, .obj _ => false
  | depth + 1, .arr items => items.all (fitsModel depth)
  | depth + 1, .obj members => members.all fun (_, v) => fitsModel depth v
  | _, _ => true

/-- Reads a whole text as one JSON value of the data model: as `parse`, and refused when any
part of it is unreadable or arrays and objects nest deeper than 127. -/
def parseStrict (text : String) : Option Json :=
  (parse text).filter (fitsModel 127)

end FluxAverage.Json
