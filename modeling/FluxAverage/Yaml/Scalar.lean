-- How a YAML scalar is read as a value of a given type: a number type reads a plain scalar, or a
-- literal block scalar with its core tag; a float reads decimal text or `.inf`, `.nan`; a count
-- reads decimal, hex, octal or binary digits; an optional field is absent for a null scalar.
import FluxAverage.Decimal.Read
import FluxAverage.Decimal.Shortest
import FluxAverage.Yaml.Token

namespace FluxAverage.Yaml

/-- The words that stand for null. -/
def isNullWord (s : String) : Bool := s == "~" || s == "null" || s == "Null" || s == "NULL"

/-- A tag of the core schema, as the bytes of its full name. -/
def coreTag (name : String) : List UInt8 := bytesOf ("tag:yaml.org,2002:" ++ name)

/-- The value of a digit in a radix. -/
def digitIn (radix : Nat) (c : Char) : Option Nat :=
  let v :=
    if '0' ≤ c ∧ c ≤ '9' then c.toNat - '0'.toNat
    else if 'a' ≤ c ∧ c ≤ 'z' then c.toNat - 'a'.toNat + 10
    else if 'A' ≤ c ∧ c ≤ 'Z' then c.toNat - 'A'.toNat + 10
    else 36
  if v < radix then some v else none

/-- A nonempty run of digits of a radix. -/
def digitsIn (radix : Nat) (cs : List Char) : Option Nat :=
  if cs.isEmpty then none else cs.foldlM (fun acc c => (acc * radix + ·) <$> digitIn radix c) 0

/-- Integer text in a radix with an optional sign (`-` only if negative values are allowed),
within `[low, high]`. -/
def integerIn (low high : Int) (radix : Nat) (cs : List Char) : Option Int := do
  let v : Int ← match cs with
    | '+' :: rest => (Int.ofNat ·) <$> digitsIn radix rest
    | '-' :: rest => if low < 0 then (fun n => -(Int.ofNat n)) <$> digitsIn radix rest else none
    | _ => (Int.ofNat ·) <$> digitsIn radix cs
  if low ≤ v ∧ v ≤ high then some v else none

/-- Whether the text is a decimal run with a leading zero (after an optional sign), which
stands for text rather than a number. -/
def leadingZeroDigits (cs : List Char) : Bool :=
  let cs := match cs with
    | '+' :: r | '-' :: r => r
    | r => r
  match cs with
  | '0' :: d :: rest => (d :: rest).all Char.isDigit
  | _ => false

/-- Whether the text starts with a sign. -/
def startsSigned (cs : List Char) : Bool := cs.head? == some '+' || cs.head? == some '-'

/-- A non-negative integer of at most `high`: an optional `+`, then `0x`, `0o`, `0b` and
digits of that radix, or decimal digits without a leading zero. -/
def unsignedOf? (high : Nat) (cs : List Char) : Option Nat := do
  let body ← match cs with
    | '+' :: rest => if startsSigned rest then none else some rest
    | _ => some cs
  let prefixed (p : Char) (radix : Nat) : Option Nat :=
    match body with
    | '0' :: q :: rest =>
      if q == p && !startsSigned rest then
        (integerIn 0 high radix rest).map Int.toNat
      else none
    | _ => none
  match prefixed 'x' 16 <|> prefixed 'o' 8 <|> prefixed 'b' 2 with
  | some n => some n
  | none =>
    if startsSigned body || leadingZeroDigits cs then none
    else (integerIn 0 high 10 body).map Int.toNat

/-- Decimal floating-point text: an optional sign, digits with an optional point (at least
one digit in all), and an optional exponent; or `inf`, `infinity`, `nan` in any case. -/
def decimalFloat? (cs : List Char) : Option Float := do
  let (negative, body) := match cs with
    | '+' :: r => (false, r)
    | '-' :: r => (true, r)
    | r => (false, r)
  let word := String.ofList (body.map Char.toLower)
  if word == "inf" || word == "infinity" then
    return if negative then -Decimal.infinity else Decimal.infinity
  if word == "nan" then return (0.0 / 0.0 : Float)
  let whole := body.takeWhile Char.isDigit
  let rest := body.drop whole.length
  let (fraction, rest) := match rest with
    | '.' :: r => (r.takeWhile Char.isDigit, r.drop (r.takeWhile Char.isDigit).length)
    | r => ([], r)
  if whole.isEmpty && fraction.isEmpty then none
  let exponent : Int ← match rest with
    | [] => some 0
    | 'e' :: r | 'E' :: r =>
      match r with
      | '+' :: d => (Int.ofNat ·) <$> digitsIn 10 d
      | '-' :: d => (fun n => -(Int.ofNat n)) <$> digitsIn 10 d
      | d => (Int.ofNat ·) <$> digitsIn 10 d
    | _ => none
  let digits := (digitsIn 10 (whole ++ fraction)).getD 0
  let e := exponent - fraction.length
  if digits = 0 then return if negative then -0.0 else 0.0
  let size : Int := Decimal.digitCount digits + e
  if size > 400 then return if negative then -Decimal.infinity else Decimal.infinity
  if size < -400 then return if negative then -0.0 else 0.0
  return Decimal.nearestDecimal negative digits e

/-- The finite or named floating-point value of a plain scalar: `.inf`, `-.inf`, `.nan` (in
three spellings each), or decimal text whose value is finite. -/
def floatOf? (s : String) : Option Float :=
  let cs := s.toList
  match cs with
  | '+' :: '+' :: _ | '+' :: '-' :: _ => none
  | _ =>
    let unsigned := match cs with
      | '+' :: r => String.ofList r
      | _ => s
    if unsigned == ".inf" || unsigned == ".Inf" || unsigned == ".INF" then some Decimal.infinity
    else if s == "-.inf" || s == "-.Inf" || s == "-.INF" then some (-Decimal.infinity)
    else if s == ".nan" || s == ".NaN" || s == ".NAN" then some (0.0 / 0.0 : Float)
    else match decimalFloat? unsigned.toList with
      | some x => if x.isFinite then some x else none
      | none => none

/-- Whether a number type reads a scalar of this style and tag: a plain one always, a literal
block one when it carries the type's core tag. -/
def readsAsNumber (typeTag : String) (style : Style) (tag : Option (List UInt8)) : Bool :=
  match style with
  | .plain => true
  | .literal => tag == some (coreTag typeTag)
  | _ => false

/-- A floating-point value of a scalar. -/
def readFloat? (s : String) (style : Style) (tag : Option (List UInt8)) : Option Float :=
  if readsAsNumber "float" style tag then floatOf? s else none

/-- A count (a natural below `2^64`) of a scalar. -/
def readCount? (s : String) (style : Style) (tag : Option (List UInt8)) : Option Nat :=
  if readsAsNumber "int" style tag then unsignedOf? (Nat.pow 2 64 - 1) s.toList else none

/-- Whether an optional value is absent: a plain scalar that is empty or a null word, or,
when tagged null, a null word (another text under that tag is refused, as `none`); any
other tag, and any other style, gives a present value. -/
def readAbsent? (s : String) (style : Style) (tag : Option (List UInt8)) : Option Bool :=
  match style, tag with
  | .plain, none => some (s.isEmpty || isNullWord s)
  | .plain, some t => if t == coreTag "null" then (if isNullWord s then some true else none) else some false
  | _, _ => some false

end FluxAverage.Yaml
