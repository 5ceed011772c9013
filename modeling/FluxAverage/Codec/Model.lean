-- The JSON form of attributes, particles, events and run headers: an attribute value is an object
-- of one member keyed by its type, and a record an object of its fields or an array of them in
-- order, where fields with a default may be left out and unknown fields are ignored.
import FluxAverage.Json.Value
import FluxAverage.Model.Event
import FluxAverage.Model.Run

namespace FluxAverage

namespace Json

/-- A flag. -/
def asBool? : Json → Option Bool
  | .bool b => some b
  | _ => none

/-- An integer of 64 signed bits. -/
def asI64? : Json → Option Int
  | .num (.nat n) => if n < Nat.pow 2 63 then some n else none
  | .num (.neg n) => some n
  | _ => none

/-- An integer of 32 signed bits. -/
def asI32? : Json → Option Int
  | .num (.nat n) => if n < Nat.pow 2 31 then some n else none
  | .num (.neg n) => if -Int.pow 2 31 ≤ n then some n else none
  | _ => none

/-- A natural of 64 bits. -/
def asU64? : Json → Option Nat
  | .num (.nat n) => some n
  | _ => none

/-- Any number, as binary64. -/
def asF64? : Json → Option Float
  | .num n => some n.toFloat
  | _ => none

/-- A text. -/
def asText? : Json → Option String
  | .str s => some s
  | _ => none

/-- An array whose items all read. -/
def asList? {α : Type} (f : Json → Option α) : Json → Option (List α)
  | .arr items => items.mapM f
  | _ => none

/-- The fields of a record, by name: from an object, each name's member (a name given twice
refused); from an array, the items in order, with no more items than fields. -/
def recordFields (names : List String) : Json → Option (List (Option Json))
  | .obj members =>
    names.mapM fun name =>
      match members.filter (·.1 == name) with
      | [] => some none
      | [(_, v)] => some (some v)
      | _ => none
  | .arr items =>
    if items.length ≤ names.length then
      some ((List.range names.length).map fun i => items[i]?)
    else none
  | _ => none

/-- A field with a default for its absence. -/
def withDefault {α : Type} (d : α) (f : Json → Option α) : Option Json → Option α
  | some v => f v
  | none => some d

end Json

namespace AttrValue

/-- The key of the value's type in its JSON form. -/
def tag : AttrValue → String
  | .bool _ => "bool"
  | .int _ => "int"
  | .double _ => "double"
  | .text _ => "string"
  | .ints _ => "int_vec"
  | .doubles _ => "double_vec"
  | .texts _ => "string_vec"

/-- The content of the value in JSON. -/
def content : AttrValue → Json
  | .bool b => .bool b
  | .int n => if 0 ≤ n then .num (.nat n.toNat) else .num (.neg n)
  | .double x => .num (.float x)
  | .text s => .str s
  | .ints ns => .arr (ns.map fun n => if 0 ≤ n then .num (.nat n.toNat) else .num (.neg n))
  | .doubles xs => .arr (xs.map fun x => .num (.float x))
  | .texts ss => .arr (ss.map .str)

/-- The JSON form: one member, keyed by type. -/
def toJson (v : AttrValue) : Json := .obj [(v.tag, v.content)]

/-- Reads the content of a value of the type a key names. -/
def ofTagged? (tag : String) (v : Json) : Option AttrValue :=
  match tag with
  | "bool" => AttrValue.bool <$> Json.asBool? v
  | "int" => AttrValue.int <$> Json.asI64? v
  | "double" => AttrValue.double <$> Json.asF64? v
  | "string" => AttrValue.text <$> Json.asText? v
  | "int_vec" => AttrValue.ints <$> Json.asList? Json.asI64? v
  | "double_vec" => AttrValue.doubles <$> Json.asList? Json.asF64? v
  | "string_vec" => AttrValue.texts <$> Json.asList? Json.asText? v
  | _ => none

/-- Reads the JSON form: an object with exactly one member. -/
def ofJson? : Json → Option AttrValue
  | .obj [(tag, v)] => ofTagged? tag v
  | _ => none

end AttrValue

namespace Attributes

/-- The JSON form: an object by name, in ascending order of name. -/
def toJson (a : Attributes) : Json := .obj (a.entries.map fun (k, v) => (k, v.toJson))

/-- Reads the JSON form; of a name given twice, the last value counts. -/
def ofJson? : Json → Option Attributes
  | .obj members =>
    members.foldlM (fun (a : Attributes) (k, v) => (a.insert k ·) <$> AttrValue.ofJson? v) empty
  | _ => none

end Attributes

namespace Particle

/-- The JSON form. -/
def toJson (p : Particle) : Json :=
  .obj [("pid", .num (if 0 ≤ p.pid then .nat p.pid.toNat else .neg p.pid)),
    ("status", .num (if 0 ≤ p.status then .nat p.status.toNat else .neg p.status))]

/-- Reads the JSON form; both fields are required. -/
def ofJson? (v : Json) : Option Particle := do
  match ← Json.recordFields ["pid", "status"] v with
  | [some pid, some status] => return ⟨← Json.asI32? pid, ← Json.asI32? status⟩
  | _ => none

end Particle

namespace Event

/-- The JSON form of a cross-section record. -/
def recordToJson (values : List Float) : Json :=
  .obj [("values", .arr (values.map fun x => .num (.float x)))]

/-- Reads a cross-section record; its values are required. -/
def recordOfJson? (v : Json) : Option (List Float) := do
  match ← Json.recordFields ["values"] v with
  | [some values] => Json.asList? Json.asF64? values
  | _ => none

/-- Reads an optional cross-section record: `null` is none. -/
def optionalRecordOfJson? : Json → Option (Option (List Float))
  | .null => some none
  | v => some <$> recordOfJson? v

/-- The JSON form. -/
def toJson (e : Event) : Json :=
  .obj [("number", .num (.nat e.number)),
    ("weights", .arr (e.weights.map fun x => .num (.float x))),
    ("particles", .arr (e.particles.map Particle.toJson)),
    ("attributes", e.attributes.toJson),
    ("cross_section", match e.crossSection with
      | some values => recordToJson values
      | none => .null)]

/-- Reads the JSON form; every field has a default. -/
def ofJson? (v : Json) : Option Event := do
  match ← Json.recordFields ["number", "weights", "particles", "attributes", "cross_section"] v with
  | [n, w, p, a, c] =>
    return ⟨← Json.withDefault 0 Json.asU64? n,
      ← Json.withDefault [] (Json.asList? Json.asF64?) w,
      ← Json.withDefault [] (Json.asList? Particle.ofJson?) p,
      ← Json.withDefault Attributes.empty Attributes.ofJson? a,
      ← Json.withDefault none optionalRecordOfJson? c⟩
  | _ => none

end Event

namespace Run

/-- The JSON form. -/
def toJson (r : Run) : Json :=
  .obj [("weight_names", .arr (r.weightNames.map .str)), ("attributes", r.attributes.toJson)]

/-- Reads the JSON form; both fields have a default. -/
def ofJson? (v : Json) : Option Run := do
  match ← Json.recordFields ["weight_names", "attributes"] v with
  | [w, a] =>
    return ⟨← Json.withDefault [] (Json.asList? Json.asText?) w,
      ← Json.withDefault Attributes.empty Attributes.ofJson? a⟩
  | _ => none

end Run

end FluxAverage
