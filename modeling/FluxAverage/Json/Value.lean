-- JSON values as the reader keeps them. A number keeps its kind, since an integer field refuses a
-- number with a point or an exponent; an object keeps its members in the order of the text; and a
-- value no field can hold is `unreadable`, skipped where ignored and refused where read.

namespace FluxAverage

/-- A JSON number and the kind it was read as. -/
inductive Number where
  /-- A natural below `2^64`. -/
  | nat (n : Nat)
  /-- A negative integer not below `-2^63`. -/
  | neg (n : Int)
  /-- Any other number, as binary64. -/
  | float (x : Float)
  deriving Inhabited

/-- A JSON value. -/
inductive Json where
  | null
  | bool (b : Bool)
  | num (n : Number)
  | str (s : String)
  | arr (items : List Json)
  | obj (members : List (String × Json))
  /-- A value the grammar allows but no field can hold; it can only be skipped. -/
  | unreadable
  deriving Inhabited

namespace Number

/-- The value as binary64, as a field of floating type reads any number. -/
def toFloat : Number → Float
  | .nat n => Float.ofNat n
  | .neg n => Float.ofInt n
  | .float x => x

/-- The value as an integer, if it was read as one. -/
def toInt? : Number → Option Int
  | .nat n => some n
  | .neg n => some n
  | .float _ => none

end Number

namespace Json

/-- The largest natural a number keeps as an integer. -/
def natLimit : Nat := Nat.pow 2 64

/-- Looks a key up; of repeated keys the last wins. -/
def find? (members : List (String × Json)) (key : String) : Option Json :=
  (members.reverse.find? (·.1 == key)).map (·.2)

/-- Inserts a member into a key-sorted list of members, replacing a member of the same key. -/
def insertSorted (key : String) (v : Json) : List (String × Json) → List (String × Json)
  | [] => [(key, v)]
  | (k, w) :: rest =>
    if key < k then (key, v) :: (k, w) :: rest
    else if key = k then (key, v) :: rest
    else (k, w) :: insertSorted key v rest

mutual
/-- The value read as a map: members sorted by key and, of repeated keys, the last kept. -/
def collapse : Json → Json
  | .arr items => .arr (collapseItems items)
  | .obj members => .obj (collapseMembers [] members)
  | v => v

/-- `collapse` on each item. -/
def collapseItems : List Json → List Json
  | [] => []
  | v :: rest => collapse v :: collapseItems rest

/-- Inserts each member, collapsed, into the sorted accumulator. -/
def collapseMembers (acc : List (String × Json)) : List (String × Json) → List (String × Json)
  | [] => acc
  | (k, v) :: rest => collapseMembers (insertSorted k (collapse v) acc) rest
end

/-- The value of a key of an object, `none` for any other value or a missing key. -/
def field? (v : Json) (key : String) : Option Json :=
  match v with
  | .obj members => find? members key
  | _ => none

end Json

end FluxAverage
