-- Typed reads of attributes. A read either gives a value of the requested type or fails: a
-- missing attribute lists the names that are present, and a value of another type names both
-- types. A read with a default falls back only when the attribute is absent; a value of the
-- wrong type is still a failure.
import FluxAverage.Model.Attributes
import FluxAverage.Error

namespace FluxAverage

/-- A type that attribute values can be read as. -/
class AttrType (α : Type) where
  /-- The name of the type in messages. -/
  typeName : String
  /-- The value, if it is of this type. -/
  extract? : AttrValue → Option α

instance : AttrType Bool := ⟨"bool", fun | .bool b => some b | _ => none⟩
instance : AttrType Int := ⟨"int", fun | .int n => some n | _ => none⟩
instance : AttrType Float := ⟨"double", fun | .double x => some x | _ => none⟩
instance : AttrType String := ⟨"string", fun | .text s => some s | _ => none⟩
instance : AttrType (List Int) := ⟨"vector<int>", fun | .ints ns => some ns | _ => none⟩
instance : AttrType (List Float) := ⟨"vector<double>", fun | .doubles xs => some xs | _ => none⟩
instance : AttrType (List String) := ⟨"vector<string>", fun | .texts ss => some ss | _ => none⟩

namespace Attributes

variable {α : Type} [AttrType α]

/-- The value as the requested type, or a type mismatch naming both types. -/
def convert (name : String) (v : AttrValue) : Except Error α :=
  match AttrType.extract? v with
  | some a => .ok a
  | none => .error (.typeMismatch name (AttrType.typeName α) v.typeName)

/-- Reads a required attribute. -/
def read (a : Attributes) (name : String) : Except Error α :=
  match a.get? name with
  | some v => convert name v
  | none => .error (.missingAttribute name a.names)

/-- Reads an attribute, with a default for its absence. -/
def readOr (a : Attributes) (name : String) (default : α) : Except Error α :=
  match a.get? name with
  | some v => convert name v
  | none => .ok default

end Attributes

end FluxAverage
