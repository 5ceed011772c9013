-- Typed metadata. An attribute value is one of seven types: a flag, a 64-bit integer, a
-- binary64 number, a text, or a list of one of the last three. A set of attributes maps
-- names to values, kept in ascending order of name, a name at most once.

namespace FluxAverage

/-- A typed attribute value. -/
inductive AttrValue where
  | bool (b : Bool)
  | int (n : Int)
  | double (x : Float)
  | text (s : String)
  | ints (ns : List Int)
  | doubles (xs : List Float)
  | texts (ss : List String)
  deriving Inhabited

namespace AttrValue

/-- The name of the value's type. -/
def typeName : AttrValue → String
  | .bool _ => "bool"
  | .int _ => "int"
  | .double _ => "double"
  | .text _ => "string"
  | .ints _ => "vector<int>"
  | .doubles _ => "vector<double>"
  | .texts _ => "vector<string>"

end AttrValue

/-- Attributes by name, in ascending order of name. -/
structure Attributes where
  entries : List (String × AttrValue)
  deriving Inhabited

namespace Attributes

/-- No attributes. -/
def empty : Attributes := ⟨[]⟩

/-- Sets a name's value in a name-sorted list, in its place, replacing an earlier value. -/
def insertIn (name : String) (v : AttrValue) :
    List (String × AttrValue) → List (String × AttrValue)
  | [] => [(name, v)]
  | (k, w) :: rest =>
    if name < k then (name, v) :: (k, w) :: rest
    else if name = k then (name, v) :: rest
    else (k, w) :: insertIn name v rest

/-- Sets a name's value. -/
def insert (a : Attributes) (name : String) (v : AttrValue) : Attributes :=
  ⟨insertIn name v a.entries⟩

/-- The value under a name. -/
def get? (a : Attributes) (name : String) : Option AttrValue :=
  (a.entries.find? (·.1 == name)).map (·.2)

/-- Whether a name has a value. -/
def contains (a : Attributes) (name : String) : Bool := a.entries.any (·.1 == name)

/-- Removes a name and its value. -/
def erase (a : Attributes) (name : String) : Attributes :=
  ⟨a.entries.filter (·.1 != name)⟩

/-- The names, in ascending order. -/
def names (a : Attributes) : List String := a.entries.map (·.1)

/-- The number of names. -/
def size (a : Attributes) : Nat := a.entries.length

/-- Whether there are no attributes. -/
def isEmpty (a : Attributes) : Bool := a.entries.isEmpty

end Attributes

end FluxAverage
