-- Cutting YAML text into tokens. Indentation opens and closes block collections, and a candidate
-- key is remembered until a `:` on its line places the key token (and a mapping's start) before
-- it. In brackets indentation is not read and line breaks are blanks.
import FluxAverage.Yaml.Token

namespace FluxAverage.Yaml

/-! ## Characters -/

/-- Line breaks: line feed, carriage return, next line, line and paragraph separators. -/
def isBreak (c : Char) : Bool :=
  c == '\n' || c == '\r' || c == '\x85' || c == '\u2028' || c == '\u2029'

/-- Blanks inside a line: space and tab. -/
def isBlank (c : Char) : Bool := c == ' ' || c == '\t'

/-- A line break or the end of the text. -/
def breakOrEnd : Option Char → Bool
  | none => true
  | some c => isBreak c

/-- A blank, a line break, or the end of the text. -/
def blankOrEnd : Option Char → Bool
  | none => true
  | some c => isBlank c || isBreak c

/-- Letters, digits, `_` and `-`: the characters of anchor names and tag handles. -/
def isWordChar (c : Char) : Bool := c.isAlphanum || c == '_' || c == '-'

/-- Characters the text may hold: tab, line feed, carriage return, printable ASCII, next
line, and the printable ranges beyond. -/
def isAllowed (c : Char) : Bool :=
  let n := c.toNat
  n == 0x9 || n == 0xA || n == 0xD || (0x20 ≤ n && n ≤ 0x7E) || n == 0x85 ||
    (0xA0 ≤ n && n ≤ 0xD7FF) || (0xE000 ≤ n && n ≤ 0xFFFD) || 0x10000 ≤ n

/-- Characters that cannot start a plain scalar (some of them can, followed by a
non-blank). -/
def isIndicator (c : Char) : Bool := "-?:,[]\x7b\x7d#&*!|>'\"%@`".toList.contains c

/-- Characters of a tag: letters, digits, `_`, `-` and the characters of URIs; the flow
indicators `,`, `[`, `]` only between `!<` and `>`. -/
def isUriChar (verbatim : Bool) (c : Char) : Bool :=
  isWordChar c || ";/?:@&=+$.%!~*'()".toList.contains c ||
    (verbatim && (c == ',' || c == '[' || c == ']'))

/-- The value of a hexadecimal digit. -/
def hexDigitValue (c : Char) : Option Nat :=
  if '0' ≤ c ∧ c ≤ '9' then some (c.toNat - '0'.toNat)
  else if 'a' ≤ c ∧ c ≤ 'f' then some (c.toNat - 'a'.toNat + 10)
  else if 'A' ≤ c ∧ c ≤ 'F' then some (c.toNat - 'A'.toNat + 10)
  else none

/-- The value of a run of hexadecimal digits. -/
def hexValue (cs : List Char) : Option Nat :=
  cs.foldlM (fun acc c => (acc * 16 + ·) <$> hexDigitValue c) 0

/-- The character of a one-letter escape in a double-quoted scalar. -/
def simpleEscape : Char → Option Char
  | '0' => some '\x00'
  | 'a' => some '\x07'
  | 'b' => some '\x08'
  | 't' => some '\t'
  | '\t' => some '\t'
  | 'n' => some '\n'
  | 'v' => some '\x0b'
  | 'f' => some '\x0c'
  | 'r' => some '\r'
  | 'e' => some '\x1b'
  | ' ' => some ' '
  | '"' => some '"'
  | '/' => some '/'
  | '\'' => some '\''
  | '\\' => some '\\'
  | 'N' => some '\x85'
  | '_' => some '\xa0'
  | 'L' => some '\u2028'
  | 'P' => some '\u2029'
  | _ => none

/-- The number of hexadecimal digits after `x`, `u` and `U` in a double-quoted scalar. -/
def codeLength : Char → Option Nat
  | 'x' => some 2
  | 'u' => some 4
  | 'U' => some 8
  | _ => none

/-! ## Reading position -/

/-- The unread text and the position of its first character. -/
structure Cursor where
  rest : List Char
  mark : Mark
  deriving Inhabited

namespace Cursor

/-- The next character, none at the end. -/
def peek (c : Cursor) : Option Char := c.rest.head?

/-- The character `n` places ahead. -/
def ahead (c : Cursor) (n : Nat) : Option Char := c.rest[n]?

/-- Whether the character `n` places ahead is `ch`. -/
def isAt (c : Cursor) (n : Nat) (ch : Char) : Bool := c.ahead n == some ch

/-- Whether the next character is `ch`. -/
def is (c : Cursor) (ch : Char) : Bool := c.peek == some ch

/-- The length of characters in UTF-8 bytes. -/
def byteLength (cs : List Char) : Nat := cs.foldl (fun n ch => n + ch.utf8Size) 0

/-- Steps over `n` characters of one line. -/
def advance (c : Cursor) (n : Nat) : Cursor :=
  ⟨c.rest.drop n, ⟨c.mark.index + byteLength (c.rest.take n), c.mark.line, c.mark.column + n⟩⟩

/-- Steps over one character of a line. -/
def skip (c : Cursor) : Cursor := if c.rest.isEmpty then c else c.advance 1

/-- Reads the characters of a line that satisfy `p` (which holds of no line break). -/
def readWhile (p : Char → Bool) (c : Cursor) : String × Cursor :=
  let taken := c.rest.takeWhile p
  (String.ofList taken, c.advance taken.length)

/-- Steps over the characters of a line that satisfy `p`. -/
def skipWhile (p : Char → Bool) (c : Cursor) : Cursor := (c.readWhile p).2

/-- Steps over a line break (carriage return and line feed together count as one), giving
the break as a scalar holds it: a line feed, or a line or paragraph separator as itself. -/
def readBreak (c : Cursor) : Option (String × Cursor) :=
  let next (bytes : Nat) (r : List Char) : Cursor := ⟨r, ⟨c.mark.index + bytes, c.mark.line + 1, 0⟩⟩
  match c.rest with
  | '\r' :: '\n' :: r => some ("\n", next 2 r)
  | ch :: r =>
    if ch == '\r' || ch == '\n' || ch == '\x85' then some ("\n", next ch.utf8Size r)
    else if ch == '\u2028' || ch == '\u2029' then some (String.singleton ch, next ch.utf8Size r)
    else none
  | [] => none

/-- Steps over a line break, if one is next. -/
def skipBreak (c : Cursor) : Cursor :=
  match c.readBreak with
  | some (_, c') => c'
  | none => c

/-- Whether a document marker made of `ch` (`---` or `...`, then a blank or the end)
starts here, at the start of a line. -/
def atMarker (c : Cursor) (ch : Char) : Bool :=
  c.mark.column == 0 && c.isAt 0 ch && c.isAt 1 ch && c.isAt 2 ch && blankOrEnd (c.ahead 3)

/-- Whether either document marker starts here. -/
def atAnyMarker (c : Cursor) : Bool := c.atMarker '-' || c.atMarker '.'

/-- Steps over blanks and a comment up to the end of the line. -/
def skipToLineEnd (c : Cursor) : Cursor :=
  let c := c.skipWhile isBlank
  if c.is '#' then c.skipWhile (fun ch => !isBreak ch) else c

end Cursor

/-- A fault at a position. -/
def fault {α : Type} (problem : String) (m : Mark) : Except Fault α := .error ⟨problem, m⟩

/-! ## Directives, anchors and tags -/

/-- A number of a version directive: one to nine digits. -/
def versionNumber (c : Cursor) : Except Fault (Nat × Cursor) := do
  let (ds, c') := c.readWhile Char.isDigit
  if ds.length > 9 then fault "found extremely long version number" c.mark
  if ds.isEmpty then fault "did not find expected version number" c.mark
  return (ds.toNat!, c')

/-- A tag handle: `!`, `!!` or `!word!`; outside a directive also `!word`, which is the start
of a tag's suffix. -/
def tagHandle (directive : Bool) (c : Cursor) : Except Fault (String × Cursor) := do
  if !c.is '!' then fault "did not find expected '!'" c.mark
  let (word, c) := c.skip.readWhile isWordChar
  if c.is '!' then return ("!" ++ word ++ "!", c.skip)
  if directive && !word.isEmpty then fault "did not find expected '!'" c.mark
  return ("!" ++ word, c)

/-- The leading byte of a character in UTF-8 gives its length. -/
def utf8Width (b : Nat) : Nat :=
  if b < 0x80 then 1 else if b / 32 == 6 then 2 else if b / 16 == 14 then 3
  else if b / 8 == 30 then 4 else 0

/-- The octets of escaped UTF-8 (`%` and two hexadecimal digits each), `count` more
after the `acc` read. -/
def uriOctets : Nat → List Nat → Cursor → Except Fault (List Nat × Cursor)
  | 0, acc, c => .ok (acc.reverse, c)
  | n + 1, acc, c =>
    match c.rest with
    | '%' :: a :: b :: _ =>
      match hexValue [a, b] with
      | some octet =>
        if !acc.isEmpty && octet / 64 != 2 then fault "found an incorrect trailing UTF-8 octet" c.mark
        else uriOctets n (octet :: acc) (c.advance 3)
      | none => fault "did not find URI escaped octet" c.mark
    | _ => fault "did not find URI escaped octet" c.mark

/-- A character written as escaped UTF-8 in a tag, as its octets. Only their shape is
checked: a leading octet that gives the length, then that many trailing octets less one; what
they encode is not, so they may spell an overlong form, a surrogate, or no character at all. -/
def uriEscape (c : Cursor) : Except Fault (List UInt8 × Cursor) := do
  let (first, _) ← uriOctets 1 [] c
  let width := utf8Width (first.headD 0)
  if width == 0 then fault "found an incorrect leading UTF-8 octet" c.mark
  let (octets, c') ← uriOctets width [] c
  return (octets.map Nat.toUInt8, c')

/-- The bytes of a tag's URI part, escapes decoded, after the `acc` read (last first). The
fuel bounds the steps. -/
def uriBytes (verbatim : Bool) : Nat → List UInt8 → Cursor → Except Fault (List UInt8 × Cursor)
  | 0, acc, c => .ok (acc.reverse, c)
  | fuel + 1, acc, c =>
    match c.peek with
    | some '%' => do
      let (octets, c') ← uriEscape c
      uriBytes verbatim fuel (octets.reverse ++ acc) c'
    | some ch =>
      if isUriChar verbatim ch then uriBytes verbatim fuel (ch.toNat.toUInt8 :: acc) c.skip
      else .ok (acc.reverse, c)
    | none => .ok (acc.reverse, c)

/-- The URI part of a tag; `head` is what was read as a handle (its `!` dropped). Together
they must not be empty. -/
def tagUri (verbatim : Bool) (head : String) (c : Cursor) : Except Fault (List UInt8 × Cursor) := do
  let (body, c') ← uriBytes verbatim (c.rest.length + 1) [] c
  if head.isEmpty && body.isEmpty then fault "did not find expected tag URI" c.mark
  return (bytesOf (String.ofList (head.toList.drop 1)) ++ body, c')

/-- A `%YAML` or `%TAG` directive, from its `%` to the end of the line. -/
def scanDirective (c : Cursor) : Except Fault (Token × Cursor) := do
  let start := c.mark
  let (name, c) := c.skip.readWhile isWordChar
  if name.isEmpty then fault "could not find expected directive name" start
  if !blankOrEnd c.peek then fault "found unexpected non-alphabetical character" c.mark
  let (t, c) ← if name == "YAML" then do
      let (major, c) ← versionNumber (c.skipWhile isBlank)
      if !c.is '.' then fault "did not find expected digit or '.' character" c.mark
      let (minor, c) ← versionNumber c.skip
      pure (Token.versionDirective major minor, c)
    else if name == "TAG" then do
      let (handle, c) ← tagHandle true (c.skipWhile isBlank)
      if !(c.peek.any isBlank) then fault "did not find expected whitespace" c.mark
      let (pfx, c) ← tagUri true "" (c.skipWhile isBlank)
      if !blankOrEnd c.peek then fault "did not find expected whitespace or line break" c.mark
      pure (Token.tagDirective handle pfx, c)
    else fault "found unknown directive name" start
  let c := c.skipToLineEnd
  if !breakOrEnd c.peek then fault "did not find expected comment or line break" c.mark
  return (t, c.skipBreak)

/-- An anchor `&name` or an alias `*name`; the name is followed by a blank or an
indicator that may end it. -/
def scanAnchor (isAlias : Bool) (c : Cursor) : Except Fault (Token × Cursor) := do
  let (name, c') := c.skip.readWhile isWordChar
  let ends := blankOrEnd c'.peek || c'.peek.any ("?:,]\x7d%@`".toList.contains ·)
  if name.isEmpty || !ends then fault "did not find expected alphabetic or numeric character" c'.mark
  return (if isAlias then .alias name else .anchor name, c')

/-- A tag: `!<uri>` with the empty handle, `!handle!suffix`, or `!suffix` with the handle
`!`; a lone `!`, or one whose suffix starts with a zero byte, is the empty handle with the
suffix `!`. It ends at a blank, or at a comma in brackets. -/
def scanTag (inFlow : Bool) (c : Cursor) : Except Fault (Token × Cursor) := do
  let (handle, suffix, c) ← if c.isAt 1 '<' then do
      let (suffix, c) ← tagUri true "" (c.advance 2)
      if !c.is '>' then fault "did not find the expected '>'" c.mark
      pure ("", suffix, c.skip)
    else do
      let (handle, c) ← tagHandle false c
      if handle.length ≥ 2 && handle.endsWith "!" then
        let (suffix, c) ← tagUri false "" c
        pure (handle, suffix, c)
      else
        let (suffix, c) ← tagUri false handle c
        if (untilZero suffix).isEmpty then pure ("", bytesOf "!", c) else pure ("!", suffix, c)
  if !blankOrEnd c.peek && !(inFlow && c.is ',') then
    fault "did not find expected whitespace or line break" c.mark
  return (.tag handle suffix, c)

/-! ## Scalars -/

/-- What a scalar being read holds besides its text: the blanks after the last word, the
first line break after it, and the further breaks, not yet known to be kept. -/
structure Pending where
  spaces : String := ""
  lead : String := ""
  breaks : String := ""
  deriving Inhabited

/-- Joins a run of blanks and breaks to the text before the next word: blanks alone are
kept; one line feed becomes a space; a line feed followed by more breaks becomes those
breaks; other breaks are kept. -/
def Pending.join (text : String) (p : Pending) (brokeLine : Bool) : String × Pending :=
  if brokeLine then
    if p.lead == "\n" then
      if p.breaks.isEmpty then (text.push ' ', { p with lead := "" })
      else (text ++ p.breaks, { p with lead := "", breaks := "" })
    else (text ++ p.lead ++ p.breaks, { p with lead := "", breaks := "" })
  else (text ++ p.spaces, { p with spaces := "" })

/-- Reads blanks and line breaks: blanks before the first break are kept, the first break
is the leading one, and later breaks are collected. `tabLimit` is a column before which a
tab cannot stand on a continuation line. -/
def gap (tabLimit : Option Int) : Nat → Bool → Pending → Cursor →
    Except Fault (Bool × Pending × Cursor)
  | 0, brokeLine, p, c => .ok (brokeLine, p, c)
  | fuel + 1, brokeLine, p, c =>
    match c.peek with
    | some ch =>
      if isBlank ch then
        match tabLimit with
        | some limit =>
          if brokeLine && (c.mark.column : Int) < limit && ch == '\t' then
            fault "found a tab character that violates indentation" c.mark
          else gap tabLimit fuel brokeLine (if brokeLine then p else { p with spaces := p.spaces.push ch }) c.skip
        | none =>
          gap tabLimit fuel brokeLine (if brokeLine then p else { p with spaces := p.spaces.push ch }) c.skip
      else match c.readBreak with
        | some (b, c') =>
          if brokeLine then gap tabLimit fuel true { p with breaks := p.breaks ++ b } c'
          else gap tabLimit fuel true { p with spaces := "", lead := b } c'
        | none => .ok (brokeLine, p, c)
    | none => .ok (brokeLine, p, c)

/-- The words of a plain scalar on one line, joined to the text before them; stops at a
blank, at `: `, and in brackets at a flow indicator. In brackets a `:` followed by a flow
indicator is refused. -/
def plainWords (inFlow : Bool) : Nat → String → Bool → Pending → Cursor →
    Except Fault (String × Bool × Pending × Cursor)
  | 0, text, brokeLine, p, c => .ok (text, brokeLine, p, c)
  | fuel + 1, text, brokeLine, p, c =>
    match c.peek with
    | none => .ok (text, brokeLine, p, c)
    | some ch =>
      if isBlank ch || isBreak ch then .ok (text, brokeLine, p, c)
      else if inFlow && ch == ':' && (c.ahead 1).any (",?[]\x7b\x7d".toList.contains ·) then
        fault "found unexpected ':'" c.mark
      else if (ch == ':' && blankOrEnd (c.ahead 1)) ||
          (inFlow && (ch == ',' || ch == '[' || ch == ']' || ch == '{' || ch == '}')) then
        .ok (text, brokeLine, p, c)
      else
        let (text, p) :=
          if brokeLine || !p.spaces.isEmpty then Pending.join text p brokeLine else (text, p)
        plainWords inFlow fuel (text.push ch) false p c.skip

/-- A plain scalar: lines of words, folded, while they stay indented to `indent` (outside
brackets) and no document marker or comment starts. Tells whether it ended after a line
break. -/
def plainLines (inFlow : Bool) (indent : Int) : Nat → String → Bool → Pending → Cursor →
    Except Fault (String × Bool × Cursor)
  | 0, text, brokeLine, _, c => .ok (text, brokeLine, c)
  | fuel + 1, text, brokeLine, p, c =>
    if c.atAnyMarker || c.is '#' then .ok (text, brokeLine, c)
    else do
      let (text, brokeLine, p, c) ← plainWords inFlow (c.rest.length + 1) text brokeLine p c
      if !(c.peek.any fun ch => isBlank ch || isBreak ch) then return (text, brokeLine, c)
      let (brokeLine, p, c) ← gap (some indent) (c.rest.length + 1) brokeLine p c
      if !inFlow && (c.mark.column : Int) < indent then return (text, brokeLine, c)
      plainLines inFlow indent fuel text brokeLine p c

/-- A character escape in a double-quoted scalar, after its backslash. -/
def escape (c : Cursor) : Except Fault (Char × Cursor) := do
  let e := c.ahead 1
  match e.bind simpleEscape with
  | some ch => return (ch, c.advance 2)
  | none =>
    match e.bind codeLength with
    | some n =>
      let digits := (c.rest.drop 2).take n
      match (if digits.length == n then hexValue digits else none) with
      | some v =>
        if (0xD800 ≤ v ∧ v ≤ 0xDFFF) ∨ 0x10FFFF < v then
          fault "found invalid Unicode character escape code" c.mark
        else return (Char.ofNat v, c.advance (2 + n))
      | none => fault "did not find expected hexdecimal number" c.mark
    | none => fault "found unknown escape character" c.mark

/-- The characters of a quoted scalar up to a blank, a break or the closing quote; an
escaped line break ends them too and counts as a break that is dropped. -/
def quotedWords (single : Bool) : Nat → String → Cursor →
    Except Fault (String × Bool × Cursor)
  | 0, text, c => .ok (text, false, c)
  | fuel + 1, text, c =>
    match c.peek with
    | none => .ok (text, false, c)
    | some ch =>
      if isBlank ch || isBreak ch then .ok (text, false, c)
      else if single && ch == '\'' && c.isAt 1 '\'' then quotedWords single fuel (text.push '\'') (c.advance 2)
      else if ch == (if single then '\'' else '"') then .ok (text, false, c)
      else if !single && ch == '\\' && (c.ahead 1).any isBreak then .ok (text, true, c.skip.skipBreak)
      else if !single && ch == '\\' then do
        let (e, c) ← escape c
        quotedWords single fuel (text.push e) c
      else quotedWords single fuel (text.push ch) c.skip

/-- A quoted scalar after its opening quote, up to and past the closing one. Runs of blanks
and breaks inside are joined as in plain scalars. -/
def quotedLines (single : Bool) : Nat → String → Pending → Cursor →
    Except Fault (String × Cursor)
  | 0, _, _, c => fault "found unexpected end of stream" c.mark
  | fuel + 1, text, p, c =>
    if c.atAnyMarker then fault "found unexpected document indicator" c.mark
    else if c.peek.isNone then fault "found unexpected end of stream" c.mark
    else do
      let (text, brokeLine, c) ← quotedWords single (c.rest.length + 1) text c
      if c.is (if single then '\'' else '"') then return (text, c.skip)
      let (brokeLine, p, c) ← gap none (c.rest.length + 1) brokeLine p c
      let (text, p) := Pending.join text p brokeLine
      quotedLines single fuel text p c

/-- A single- or double-quoted scalar. -/
def scanQuoted (single : Bool) (c : Cursor) : Except Fault (Token × Cursor) := do
  let (text, c) ← quotedLines single (c.rest.length + 1) "" {} c.skip
  return (.scalar text (if single then .singleQuoted else .doubleQuoted), c)

/-- The header of a block scalar after `|` or `>`: a chomping indicator (`+` keeps the
final breaks, `-` strips them) and an indentation digit, in either order. -/
def blockHeader (c : Cursor) : Except Fault (Int × Nat × Cursor) := do
  let chompOf (ch : Char) : Int := if ch == '+' then 1 else -1
  let digitOf (c : Cursor) : Except Fault (Option (Nat × Cursor)) :=
    match c.peek with
    | some ch =>
      if ch == '0' then fault "found an indentation indicator equal to 0" c.mark
      else if ch.isDigit then .ok (some (ch.toNat - '0'.toNat, c.skip))
      else .ok none
    | none => .ok none
  match c.peek with
  | some ch =>
    if ch == '+' || ch == '-' then
      match ← digitOf c.skip with
      | some (d, c') => return (chompOf ch, d, c')
      | none => return (chompOf ch, 0, c.skip)
    else
      match ← digitOf c with
      | some (d, c') =>
        match c'.peek with
        | some ch' => if ch' == '+' || ch' == '-' then return (chompOf ch', d, c'.skip) else return (0, d, c')
        | none => return (0, d, c')
      | none => return (0, 0, c)
  | none => return (0, 0, c)

/-- Steps over the spaces of a line up to the column `indent` (all of them while it is not
yet known). -/
def indentSpaces (indent : Nat) (c : Cursor) : Cursor :=
  let n := (c.rest.takeWhile (· == ' ')).length
  if indent == 0 then c.advance n
  else c.advance (min n (indent - min indent c.mark.column))

/-- The empty or blank lines before the next line of a block scalar, their breaks
collected; with the indentation not yet known, it is taken from the most indented of
them (at least one past the enclosing block, and at least one). -/
def blockBreaks (blockIndent : Int) : Nat → Nat → Nat → String → Cursor →
    Except Fault (Nat × String × Cursor)
  | 0, indent, _, breaks, c => .ok (indent, breaks, c)
  | fuel + 1, indent, widest, breaks, c =>
    let c := indentSpaces indent c
    let widest := max widest c.mark.column
    if (indent == 0 || c.mark.column < indent) && c.is '\t' then
      fault "found a tab character where an indentation space is expected" c.mark
    else match c.readBreak with
      | some (b, c') => blockBreaks blockIndent fuel indent widest (breaks ++ b) c'
      | none =>
        if indent == 0 then
          let found : Int := max (max (widest : Int) (blockIndent + 1)) 1
          .ok (found.toNat, breaks, c)
        else .ok (indent, breaks, c)

/-- The lines of a block scalar at its indentation. Literal blocks keep every break; folded
blocks turn the break between two lines that start without a blank into a space. -/
def blockLines (literal : Bool) (blockIndent : Int) (indent : Nat) : Nat → String → String →
    String → Bool → Cursor → Except Fault (String × String × String × Cursor)
  | 0, text, lead, breaks, _, c => .ok (text, lead, breaks, c)
  | fuel + 1, text, lead, breaks, leadingBlank, c =>
    if c.mark.column != indent || c.peek.isNone then .ok (text, lead, breaks, c)
    else do
      let trailingBlank := c.peek.any isBlank
      let text :=
        if !literal && lead.startsWith "\n" && !leadingBlank && !trailingBlank then
          if breaks.isEmpty then text.push ' ' else text
        else text ++ lead
      let text := text ++ breaks
      let leadingBlank := c.peek.any isBlank
      let (line, c) := c.readWhile (fun ch => !isBreak ch)
      let text := text ++ line
      let (lead, c) := match c.readBreak with
        | some (b, c') => (b, c')
        | none => ("", c)
      let (_, breaks, c) ← blockBreaks blockIndent (c.rest.length + 1) indent 0 "" c
      blockLines literal blockIndent indent fuel text lead breaks leadingBlank c

/-- A literal (`|`) or folded (`>`) block scalar. `blockIndent` is the indentation of the
enclosing block. -/
def scanBlock (literal : Bool) (blockIndent : Int) (c : Cursor) : Except Fault (Token × Cursor) := do
  let (chomp, increment, c) ← blockHeader c.skip
  let c := c.skipToLineEnd
  if !breakOrEnd c.peek then fault "did not find expected comment or line break" c.mark
  let c := c.skipBreak
  let indent : Nat :=
    if increment == 0 then 0
    else if 0 ≤ blockIndent then blockIndent.toNat + increment else increment
  let (indent, breaks, c) ← blockBreaks blockIndent (c.rest.length + 1) indent 0 "" c
  let (text, lead, breaks, c) ←
    blockLines literal blockIndent indent (c.rest.length + 1) "" "" breaks false c
  let text := if chomp != -1 then text ++ lead else text
  let text := if chomp == 1 then text ++ breaks else text
  return (.scalar text (if literal then .literal else .folded), c)

/-! ## The token stream -/

/-- A place where a simple key may have started. -/
structure SimpleKey where
  possible : Bool
  /-- A key at the indentation of its block must be followed by `:`. -/
  required : Bool
  /-- The number of tokens before it. -/
  number : Nat
  mark : Mark
  deriving Inhabited

/-- No candidate. -/
def SimpleKey.none : SimpleKey := ⟨false, false, 0, default⟩

/-- The state of cutting a text into tokens. -/
structure Lexer where
  cursor : Cursor
  tokens : Array Token
  /-- The column of the innermost block, `-1` outside all. -/
  indent : Int
  /-- The columns of the enclosing blocks, innermost first. -/
  indents : List Int
  /-- Whether a simple key may start at this point. -/
  allowKey : Bool
  /-- The key candidate of each level of brackets, innermost first. -/
  keys : List SimpleKey
  /-- The depth of brackets. -/
  flow : Nat
  finished : Bool

namespace Lexer

/-- The position of the next character. -/
def mark (l : Lexer) : Mark := l.cursor.mark

/-- Appends a token. -/
def emit (l : Lexer) (t : Token) : Lexer := { l with tokens := l.tokens.push t }

/-- Drops the innermost key candidate; one that was required is a fault. -/
def removeKey (l : Lexer) : Except Fault Lexer :=
  match l.keys with
  | k :: ks =>
    if k.possible && k.required then fault "could not find expected ':'" k.mark
    else .ok { l with keys := { k with possible := false } :: ks }
  | [] => .ok l

/-- Remembers that a simple key may start at this point. -/
def saveKey (l : Lexer) : Except Fault Lexer := do
  if !l.allowKey then return l
  let required := l.flow == 0 && l.indent == (l.mark.column : Int)
  let l ← l.removeKey
  let k : SimpleKey := ⟨true, required, l.tokens.size, l.mark⟩
  return { l with keys := k :: l.keys.tail }

/-- Drops candidates that can no longer be keys: a key stays on one line and within 1024
bytes. -/
def staleKeys (l : Lexer) : Except Fault Lexer := do
  let m := l.mark
  let keys ← l.keys.mapM fun k =>
    if k.possible && (k.mark.line < m.line || k.mark.index + 1024 < m.index) then
      if k.required then fault "could not find expected ':'" k.mark
      else .ok { k with possible := false }
    else .ok k
  return { l with keys }

/-- Opens a block at a column past the current one, placing its start token at `number`
(or at the end). -/
def rollIndent (l : Lexer) (column : Nat) (number : Option Nat) (t : Token) : Lexer :=
  if l.flow == 0 && l.indent < column then
    let tokens := match number with
      | some n => l.tokens.insertIdxIfInBounds n t
      | none => l.tokens.push t
    { l with indents := l.indent :: l.indents, indent := column, tokens }
  else l

/-- Closes the blocks indented past a column, one end token each. -/
def unrollFrom (column : Int) : Int → List Int → Array Token → Int × List Int × Array Token
  | indent, i :: is, ts =>
    if column < indent then unrollFrom column i is (ts.push .blockEnd) else (indent, i :: is, ts)
  | indent, [], ts => (indent, [], ts)

/-- Closes the blocks indented past a column; in brackets nothing closes. -/
def unrollIndent (l : Lexer) (column : Int) : Lexer :=
  if l.flow == 0 then
    let (indent, indents, tokens) := unrollFrom column l.indent l.indents l.tokens
    { l with indent, indents, tokens }
  else l

/-- Steps over blanks, comments and line breaks to the next token; a line break outside
brackets lets a simple key start. Tabs count as blanks only in brackets or where no simple
key may start. -/
def toNextToken : Nat → Lexer → Lexer
  | 0, l => l
  | fuel + 1, l =>
    let c := l.cursor
    let c := if c.mark.column == 0 && c.is '\uFEFF' then c.skip else c
    let c := c.skipWhile fun ch => ch == ' ' || ((l.flow > 0 || !l.allowKey) && ch == '\t')
    let c := if c.is '#' then c.skipWhile (fun ch => !isBreak ch) else c
    match c.readBreak with
    | some (_, c') => toNextToken fuel { l with cursor := c', allowKey := l.allowKey || l.flow == 0 }
    | none => { l with cursor := c }

/-- The end of the text closes every block. -/
def fetchStreamEnd (l : Lexer) : Except Fault Lexer := do
  let c := l.cursor
  let c := if c.mark.column != 0 then { c with mark := { c.mark with column := 0, line := c.mark.line + 1 } } else c
  let l ← ({ l with cursor := c }.unrollIndent (-1)).removeKey
  return { (l.emit .streamEnd) with allowKey := false, finished := true }

/-- A directive or document marker closes every block. -/
def fetchAtLineStart (l : Lexer) (scan : Cursor → Except Fault (Token × Cursor)) :
    Except Fault Lexer := do
  let l ← (l.unrollIndent (-1)).removeKey
  let (t, c) ← scan l.cursor
  return { (l.emit t) with allowKey := false, cursor := c }

/-- `[` or `{`: may start a key, and opens a level of brackets. -/
def fetchFlowStart (l : Lexer) (t : Token) : Except Fault Lexer := do
  let l ← l.saveKey
  return { (l.emit t) with
    keys := SimpleKey.none :: l.keys, flow := l.flow + 1, allowKey := true, cursor := l.cursor.skip }

/-- `]` or `}`: closes a level of brackets. -/
def fetchFlowEnd (l : Lexer) (t : Token) : Except Fault Lexer := do
  let l ← l.removeKey
  let l := if l.flow > 0 then { l with flow := l.flow - 1, keys := l.keys.tail } else l
  return { (l.emit t) with allowKey := false, cursor := l.cursor.skip }

/-- `,` between entries in brackets. -/
def fetchFlowEntry (l : Lexer) : Except Fault Lexer := do
  let l ← l.removeKey
  return { (l.emit .flowEntry) with allowKey := true, cursor := l.cursor.skip }

/-- `-` before an item: outside brackets it may open a block sequence at its column. -/
def fetchBlockEntry (l : Lexer) : Except Fault Lexer := do
  let l ← if l.flow == 0 then
      if !l.allowKey then fault "block sequence entries are not allowed in this context" l.mark
      else pure (l.rollIndent l.mark.column none .blockSequenceStart)
    else pure l
  let l ← l.removeKey
  return { (l.emit .blockEntry) with allowKey := true, cursor := l.cursor.skip }

/-- `?` before a key: outside brackets it may open a block mapping at its column. -/
def fetchKey (l : Lexer) : Except Fault Lexer := do
  let l ← if l.flow == 0 then
      if !l.allowKey then fault "mapping keys are not allowed in this context" l.mark
      else pure (l.rollIndent l.mark.column none .blockMappingStart)
    else pure l
  let l ← l.removeKey
  return { (l.emit .key) with allowKey := l.flow == 0, cursor := l.cursor.skip }

/-- `:` after a key written with `?`, or with no key: outside brackets it may open a block
mapping at its column. -/
def fetchComplexValue (l : Lexer) : Except Fault Lexer := do
  let l ← if l.flow == 0 then
      if !l.allowKey then fault "mapping values are not allowed in this context" l.mark
      else pure (l.rollIndent l.mark.column none .blockMappingStart)
    else pure l
  return { (l.emit .value) with allowKey := l.flow == 0, cursor := l.cursor.skip }

/-- `:` before a value. After a simple key the key token, and the start of a block mapping
at the key's column if one opens there, are placed before the key. -/
def fetchValue (l : Lexer) : Except Fault Lexer := do
  match l.keys with
  | k :: ks =>
    if k.possible then
      let l := { l with tokens := l.tokens.insertIdxIfInBounds k.number .key }
      let l := l.rollIndent k.mark.column (some k.number) .blockMappingStart
      return { (l.emit .value) with
        keys := { k with possible := false } :: ks, allowKey := false, cursor := l.cursor.skip }
    else l.fetchComplexValue
  | [] => l.fetchComplexValue

/-- A token that may start a simple key: an alias, an anchor, a tag, or a quoted scalar. -/
def fetchKeyable (l : Lexer) (scan : Cursor → Except Fault (Token × Cursor)) :
    Except Fault Lexer := do
  let l ← l.saveKey
  let (t, c) ← scan l.cursor
  return { (l.emit t) with allowKey := false, cursor := c }

/-- A block scalar: no key, and a simple key may start after it. -/
def fetchBlockScalar (l : Lexer) (literal : Bool) : Except Fault Lexer := do
  let l ← l.removeKey
  let (t, c) ← scanBlock literal l.indent l.cursor
  return { (l.emit t) with allowKey := true, cursor := c }

/-- A plain scalar; a simple key may start after it if it ended after a line break. -/
def fetchPlain (l : Lexer) : Except Fault Lexer := do
  let l ← l.saveKey
  let c := l.cursor
  let (text, brokeLine, c) ← plainLines (l.flow > 0) (l.indent + 1) (c.rest.length + 1) "" false {} c
  return { (l.emit (.scalar text .plain)) with allowKey := brokeLine, cursor := c }

/-- Whether a plain scalar can start with the next characters. -/
def startsPlain (l : Lexer) (c : Cursor) (ch : Char) : Bool :=
  !(isBlank ch || isBreak ch || isIndicator ch) ||
    (ch == '-' && !(c.ahead 1).any isBlank) ||
    (l.flow == 0 && (ch == '?' || ch == ':') && !blankOrEnd (c.ahead 1))

/-- Reads the next token (or several: block ends, and a key before a simple key). -/
def fetchNext (l : Lexer) : Except Fault Lexer := do
  let l := toNextToken (l.cursor.rest.length + 1) l
  let l ← l.staleKeys
  let l := l.unrollIndent l.mark.column
  let c := l.cursor
  match c.peek with
  | none => l.fetchStreamEnd
  | some ch =>
    if c.mark.column == 0 && ch == '%' then l.fetchAtLineStart scanDirective
    else if c.atMarker '-' then l.fetchAtLineStart fun c => .ok (.documentStart, c.advance 3)
    else if c.atMarker '.' then l.fetchAtLineStart fun c => .ok (.documentEnd, c.advance 3)
    else if ch == '[' then l.fetchFlowStart .flowSequenceStart
    else if ch == '{' then l.fetchFlowStart .flowMappingStart
    else if ch == ']' then l.fetchFlowEnd .flowSequenceEnd
    else if ch == '}' then l.fetchFlowEnd .flowMappingEnd
    else if ch == ',' then l.fetchFlowEntry
    else if ch == '-' && blankOrEnd (c.ahead 1) then l.fetchBlockEntry
    else if ch == '?' && (l.flow > 0 || blankOrEnd (c.ahead 1)) then l.fetchKey
    else if ch == ':' && (l.flow > 0 || blankOrEnd (c.ahead 1)) then l.fetchValue
    else if ch == '*' then l.fetchKeyable (scanAnchor true)
    else if ch == '&' then l.fetchKeyable (scanAnchor false)
    else if ch == '!' then l.fetchKeyable (scanTag (l.flow > 0))
    else if ch == '|' && l.flow == 0 then l.fetchBlockScalar true
    else if ch == '>' && l.flow == 0 then l.fetchBlockScalar false
    else if ch == '\'' then l.fetchKeyable (scanQuoted true)
    else if ch == '"' then l.fetchKeyable (scanQuoted false)
    else if l.startsPlain c ch then l.fetchPlain
    else fault "found character that cannot start any token" c.mark

/-- Reads tokens up to the end of the text. Every step but the last reads a character, so
one more step than there are characters suffices. -/
def run : Nat → Lexer → Except Fault (Array Token)
  | 0, l => fault "the text did not end" l.mark
  | fuel + 1, l => if l.finished then .ok l.tokens else do run fuel (← l.fetchNext)

end Lexer

/-- The tokens of a YAML text; control characters are refused. A byte order mark is kept as
text: between tokens, one at the start of a line is passed over like a blank. -/
def Token.scan (text : String) : Except Fault (List Token) := do
  let cs := text.toList
  if !cs.all isAllowed then fault "control characters are not allowed" ⟨0, 0, 0⟩
  let start : Lexer :=
    ⟨⟨cs, ⟨0, 0, 0⟩⟩, #[.streamStart], -1, [], true, [SimpleKey.none], 0, false⟩
  return (← start.run (cs.length + 2)).toList

end FluxAverage.Yaml
