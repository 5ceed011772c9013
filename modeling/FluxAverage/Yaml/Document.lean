-- Reading the documents of YAML text from its tokens. Only the first document may be implicit. A
-- node is an alias, or its properties and then a scalar, a collection or nothing; anchors are
-- numbered by the names in force, and an alias resolves once the document is read.
import FluxAverage.Yaml.Lexer
import FluxAverage.Yaml.Node

namespace FluxAverage.Yaml

/-- What reading a document keeps: the anchor names in force with their numbers (latest
first, one entry a name), the node of every anchor met (in the order met), for each number
the anchor met last that took it, and the tag handles in force. -/
structure Composer where
  anchors : List (String × Nat) := []
  met : Array Node := #[]
  owners : Array Nat := #[]
  handles : List (String × List UInt8) := []

/-- Reading nodes, with the composer's state and a fault on failure. -/
abbrev Compose := StateT Composer (Except Fault)

/-- A fault of the document's structure; tokens carry no position. -/
def refuse {α : Type} (problem : String) : Compose α := throw ⟨problem, ⟨0, 0, 0⟩⟩

/-- The anchor and the tag before a node, in either order. -/
def properties : List Token → Option String × Option (String × List UInt8) × List Token
  | .anchor a :: .tag h s :: rest => (some a, some (h, s), rest)
  | .tag h s :: .anchor a :: rest => (some a, some (h, s), rest)
  | .anchor a :: rest => (some a, none, rest)
  | .tag h s :: rest => (none, some (h, s), rest)
  | ts => (none, none, ts)

/-- The full tag of a handle and suffix: the empty handle gives the suffix itself, another
handle its prefix in force; each part ends at its first zero byte. -/
def fullTag (handle : String) (suffix : List UInt8) : Compose (List UInt8) := do
  if handle.isEmpty then return untilZero suffix
  match (← get).handles.lookup handle with
  | some pfx => return untilZero pfx ++ untilZero suffix
  | none => refuse "found undefined tag handle"

/-- Sets an entry of an array, or adds it when it is the next one. -/
def setOrPush {α : Type} (xs : Array α) (i : Nat) (x : α) : Array α :=
  if i < xs.size then xs.setIfInBounds i x else xs.push x

/-- Meets an anchor: it takes the number of names in force (its name then stands for that
number, whatever it stood for before) and becomes that number's node. Gives where the
anchor's node is to be filled in once read. -/
def reserve (name : String) : Compose Nat := modifyGet fun st =>
  let number := st.anchors.length
  let here := st.met.size
  (here, { st with
    anchors := (name, number) :: st.anchors.filter (·.1 != name)
    met := st.met.push Node.blank
    owners := setOrPush st.owners number here })

/-- Records the node of an anchor met. -/
def fill (i : Nat) (n : Node) : Compose Unit :=
  modify fun st => { st with met := st.met.setIfInBounds i n }

/-- A node with properties but no content is the empty scalar; without properties it is a
fault. -/
def bare (hasProperties : Bool) (tag : Option (List UInt8)) (ts : List Token) : Compose (Node × List Token) :=
  if hasProperties then pure (.scalar "" .plain tag, ts) else refuse "did not find expected node content"

mutual
/-- A node. `block` allows block collections; `indentless` allows a sequence of items at
the current column (a mapping's key or value). The fuel bounds the calls. -/
def node : Nat → Bool → Bool → List Token → Compose (Node × List Token)
  | 0, _, _, _ => refuse "the document nests too deeply"
  | _ + 1, _, _, .alias name :: rest => do
    match (← get).anchors.lookup name with
    | some i => return (.alias i, rest)
    | none => refuse "found undefined alias"
  | fuel + 1, block, indentless, ts => do
    let (anchor, tag, ts) := properties ts
    let tag ← tag.mapM fun (h, s) => fullTag h s
    let slot ← anchor.mapM reserve
    let hasProperties := anchor.isSome || tag.isSome
    let (n, rest) ← match ts with
      | .blockEntry :: _ =>
        if indentless then indentlessSeq fuel [] ts else bare hasProperties tag ts
      | .scalar s st :: rest => pure (.scalar s st tag, rest)
      | .flowSequenceStart :: rest => flowSeq fuel true [] rest
      | .flowMappingStart :: rest => flowMap fuel true [] rest
      | .blockSequenceStart :: rest => if block then blockSeq fuel [] rest else bare hasProperties tag ts
      | .blockMappingStart :: rest => if block then blockMap fuel [] rest else bare hasProperties tag ts
      | _ => bare hasProperties tag ts
    if let some i := slot then fill i n
    return (n, rest)

/-- The items of a block sequence, up to its end. -/
def blockSeq : Nat → List Node → List Token → Compose (Node × List Token)
  | 0, _, _ => refuse "the document nests too deeply"
  | fuel + 1, acc, .blockEntry :: rest =>
    match rest with
    | .blockEntry :: _ | .blockEnd :: _ => blockSeq fuel (Node.blank :: acc) rest
    | _ => do
      let (n, rest) ← node fuel true false rest
      blockSeq fuel (n :: acc) rest
  | _ + 1, acc, .blockEnd :: rest => pure (.seq acc.reverse, rest)
  | _ + 1, _, _ => refuse "did not find expected '-' indicator"

/-- The items of a sequence at a mapping's column, while items follow. -/
def indentlessSeq : Nat → List Node → List Token → Compose (Node × List Token)
  | 0, _, _ => refuse "the document nests too deeply"
  | fuel + 1, acc, .blockEntry :: rest =>
    match rest with
    | .blockEntry :: _ | .key :: _ | .value :: _ | .blockEnd :: _ =>
      indentlessSeq fuel (Node.blank :: acc) rest
    | _ => do
      let (n, rest) ← node fuel true false rest
      indentlessSeq fuel (n :: acc) rest
  | _ + 1, acc, ts => pure (.seq acc.reverse, ts)

/-- The entries of a block mapping, up to its end; every entry starts with a key token. -/
def blockMap : Nat → List (Node × Node) → List Token → Compose (Node × List Token)
  | 0, _, _ => refuse "the document nests too deeply"
  | fuel + 1, acc, .key :: rest => do
    let (k, rest) ← match rest with
      | .key :: _ | .value :: _ | .blockEnd :: _ => pure (Node.blank, rest)
      | _ => node fuel true true rest
    let (v, rest) ← blockValue fuel rest
    blockMap fuel ((k, v) :: acc) rest
  | _ + 1, acc, .blockEnd :: rest => pure (.map acc.reverse, rest)
  | _ + 1, _, _ => refuse "did not find expected key"

/-- The value of a block mapping's entry; without `:` it is the empty scalar. -/
def blockValue : Nat → List Token → Compose (Node × List Token)
  | 0, _ => refuse "the document nests too deeply"
  | fuel + 1, .value :: rest =>
    match rest with
    | .key :: _ | .value :: _ | .blockEnd :: _ => pure (Node.blank, rest)
    | _ => node fuel true true rest
  | _ + 1, ts => pure (Node.blank, ts)

/-- The value of an entry in brackets, after its key; `closer` ends the collection. -/
def flowValue : Nat → Token → List Token → Compose (Node × List Token)
  | 0, _, _ => refuse "the document nests too deeply"
  | fuel + 1, closer, .value :: rest =>
    match rest with
    | .flowEntry :: _ => pure (Node.blank, rest)
    | t :: _ => if t == closer then pure (Node.blank, rest) else node fuel false false rest
    | [] => node fuel false false rest
  | _ + 1, _, ts => pure (Node.blank, ts)

/-- The items of a flow sequence after `[`, up to `]`; commas separate them, and one may
end the list. -/
def flowSeq : Nat → Bool → List Node → List Token → Compose (Node × List Token)
  | 0, _, _, _ => refuse "the document nests too deeply"
  | _ + 1, _, acc, .flowSequenceEnd :: rest => pure (.seq acc.reverse, rest)
  | fuel + 1, first, acc, ts => do
    let ts ← if first then pure ts else match ts with
      | .flowEntry :: rest => pure rest
      | _ => refuse "did not find expected ',' or ']'"
    match ts with
    | .flowSequenceEnd :: rest => pure (.seq acc.reverse, rest)
    | .key :: rest => do
      let (k, rest) ← match rest with
        | .value :: r | .flowEntry :: r | .flowSequenceEnd :: r => pure (Node.blank, r)
        | _ => node fuel false false rest
      let (v, rest) ← flowValue fuel .flowSequenceEnd rest
      flowSeq fuel false (.map [(k, v)] :: acc) rest
    | _ => do
      let (n, rest) ← node fuel false false ts
      flowSeq fuel false (n :: acc) rest

/-- The entries of a flow mapping after its opening bracket, up to the closing one; an entry
without `:` has the empty value. -/
def flowMap : Nat → Bool → List (Node × Node) → List Token → Compose (Node × List Token)
  | 0, _, _, _ => refuse "the document nests too deeply"
  | _ + 1, _, acc, .flowMappingEnd :: rest => pure (.map acc.reverse, rest)
  | fuel + 1, first, acc, ts => do
    let ts ← if first then pure ts else match ts with
      | .flowEntry :: rest => pure rest
      | _ => refuse "did not find expected ',' or the end of the mapping"
    match ts with
    | .flowMappingEnd :: rest => pure (.map acc.reverse, rest)
    | .key :: rest => do
      let (k, rest) ← match rest with
        | .value :: _ | .flowEntry :: _ | .flowMappingEnd :: _ => pure (Node.blank, rest)
        | _ => node fuel false false rest
      let (v, rest) ← flowValue fuel .flowMappingEnd rest
      flowMap fuel false ((k, v) :: acc) rest
    | _ => do
      let (k, rest) ← node fuel false false ts
      flowMap fuel false ((k, Node.blank) :: acc) rest
end

/-- The tag handles every document has unless its directives give them: `!` for local tags
and `!!` for the core schema. -/
def defaultHandles : List (String × List UInt8) :=
  [("!", bytesOf "!"), ("!!", bytesOf "tag:yaml.org,2002:")]

/-- The directives before a document: at most one `%YAML`, of version 1.1 or 1.2, and each
`%TAG` handle once; gives the handles in force and the tokens after the directives. -/
def directives : Bool → List (String × List UInt8) → List Token →
    Except Fault (List (String × List UInt8) × List Token)
  | seenVersion, hs, .versionDirective major minor :: rest =>
    if seenVersion then fault "found duplicate %YAML directive" ⟨0, 0, 0⟩
    else if major != 1 || (minor != 1 && minor != 2) then fault "found incompatible YAML document" ⟨0, 0, 0⟩
    else directives true hs rest
  | seenVersion, hs, .tagDirective h p :: rest =>
    if (hs.lookup h).isSome then fault "found duplicate %TAG directive" ⟨0, 0, 0⟩
    else directives seenVersion (hs ++ [(h, p)]) rest
  | _, hs, ts => .ok (hs ++ defaultHandles.filter (fun (h, _) => (hs.lookup h).isNone), ts)

/-- Whether a token opens a document's header or ends the text. -/
def opensDocument : Token → Bool
  | .versionDirective .. | .tagDirective .. | .documentStart | .streamEnd => true
  | _ => false

/-- Whether a token leaves an explicit document empty. -/
def endsContent : Token → Bool
  | .versionDirective .. | .tagDirective .. | .documentStart | .documentEnd | .streamEnd => true
  | _ => false

/-- Reads the root of a document with the handles in force, and the tokens after it. -/
def Document.content (handles : List (String × List UInt8)) (empty : Bool) (ts : List Token) :
    Except Fault (Document × List Token) := do
  if empty then return (⟨Node.blank, #[]⟩, ts)
  let ((root, rest), st) ← (node (3 * ts.length + 8) true false ts).run { handles }
  return (⟨root, st.owners.map fun k => st.met.getD k Node.blank⟩, rest)

/-- The documents from a point of the token list to its end. The first may be implicit;
after each, one `...` may follow, and before a later one any number. -/
def Document.sequence : Nat → Bool → List Document → List Token → Except Fault (List Document)
  | 0, _, _, _ => fault "the text did not end" ⟨0, 0, 0⟩
  | fuel + 1, first, docs, ts => do
    let ts := if first then ts else ts.dropWhile (· == .documentEnd)
    match ts with
    | [] => fault "the text did not end" ⟨0, 0, 0⟩
    | .streamEnd :: _ => return docs.reverse
    | t :: _ =>
      let (d, rest) ← if first && !opensDocument t then Document.content defaultHandles false ts
        else do
          let (handles, ts) ← directives false [] ts
          match ts with
          | .documentStart :: rest =>
            Document.content handles (rest.head?.all endsContent) rest
          | _ => fault "did not find expected <document start>" ⟨0, 0, 0⟩
      let rest := match rest with
        | .documentEnd :: r => r
        | r => r
      Document.sequence fuel false (d :: docs) rest

/-- The documents of a YAML text. -/
def Document.readAll (text : String) : Except Fault (List Document) := do
  match ← Token.scan text with
  | .streamStart :: ts => Document.sequence (ts.length + 1) true [] ts
  | _ => fault "did not find expected <stream-start>" ⟨0, 0, 0⟩

/-- The one document of a YAML text: a text without a document gives the empty node, and a
second document is refused. -/
def Document.read? (text : String) : Option Document :=
  match Document.readAll text with
  | .ok [] => some ⟨.empty, #[]⟩
  | .ok [d] => some d
  | _ => none

end FluxAverage.Yaml
