-- The nodes of a YAML document: scalars with their style and tag, sequences, mappings with their
-- entries in order, and aliases. An alias names an anchored node by number, so an alias inside the
-- node it names is a reference and not an endless tree.
import FluxAverage.Yaml.Token

namespace FluxAverage.Yaml

/-- A node of a YAML document. -/
inductive Node where
  /-- A scalar: its text, how it was written, and the tag it was given, if any. -/
  | scalar (text : String) (style : Style) (tag : Option (List UInt8))
  | seq (items : List Node)
  | map (entries : List (Node × Node))
  /-- A later mention of an anchored node, by the anchor's number. -/
  | alias (anchor : Nat)
  /-- The document of a text that holds none. -/
  | empty
  deriving Repr, Inhabited

/-- The empty plain scalar: what a node left out reads as. -/
def Node.blank : Node := .scalar "" .plain none

/-- A document: its root node and the anchored nodes by number. -/
structure Document where
  root : Node
  anchored : Array Node
  deriving Inhabited

/-- The node an alias stands for; any other node stands for itself. -/
def Document.resolve (d : Document) : Node → Node
  | .alias i => d.anchored.getD i Node.blank
  | n => n

end FluxAverage.Yaml
