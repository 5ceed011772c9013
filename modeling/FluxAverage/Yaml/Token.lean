-- The tokens of YAML text and the positions they are read at: indicators, directives, node
-- properties, aliases and scalars with their style, and the starts and ends of block collections
-- that indentation places. A tag's URI part is kept as bytes.

namespace FluxAverage.Yaml

/-- The bytes of a text in UTF-8. -/
def bytesOf (s : String) : List UInt8 := s.toUTF8.toList

/-- The bytes of a tag's part before its first zero byte: tags are passed on as strings that
a zero byte ends, so nothing after one is seen. -/
def untilZero (bs : List UInt8) : List UInt8 := bs.takeWhile (· != 0)

/-- A position in the text: bytes read (in UTF-8), line and column (in characters), all from
zero. -/
structure Mark where
  index : Nat
  line : Nat
  column : Nat
  deriving Repr, Inhabited, DecidableEq

/-- How a scalar is written. -/
inductive Style where
  /-- Unquoted. -/
  | plain
  /-- Between single quotes. -/
  | singleQuoted
  /-- Between double quotes, with escapes. -/
  | doubleQuoted
  /-- A block of lines kept as they are (`|`). -/
  | literal
  /-- A block of lines folded into one (`>`). -/
  | folded
  deriving Repr, Inhabited, DecidableEq

/-- A token of YAML text. -/
inductive Token where
  | streamStart
  | streamEnd
  /-- `%YAML major.minor`. -/
  | versionDirective (major minor : Nat)
  /-- `%TAG handle prefix`. -/
  | tagDirective (handle : String) (pfx : List UInt8)
  /-- `---`. -/
  | documentStart
  /-- `...`. -/
  | documentEnd
  | blockSequenceStart
  | blockMappingStart
  | blockEnd
  | flowSequenceStart
  | flowSequenceEnd
  | flowMappingStart
  | flowMappingEnd
  /-- `-` before an item of a block sequence. -/
  | blockEntry
  /-- `,` between the entries of a flow collection. -/
  | flowEntry
  /-- Before a key: written `?`, or placed before a simple key once its `:` is found. -/
  | key
  /-- `:` before a value. -/
  | value
  /-- `*name`. -/
  | alias (name : String)
  /-- `&name`. -/
  | anchor (name : String)
  /-- `!handle!suffix`, `!suffix` (handle `!`), `!<verbatim>` (empty handle). -/
  | tag (handle : String) (suffix : List UInt8)
  | scalar (text : String) (style : Style)
  deriving Repr, Inhabited, DecidableEq

/-- A reason the text is not YAML, and where it was found. -/
structure Fault where
  problem : String
  mark : Mark
  deriving Repr, Inhabited

end FluxAverage.Yaml
