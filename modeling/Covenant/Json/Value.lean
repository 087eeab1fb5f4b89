/-!
# JSON values

A JSON value whose objects keep their members in insertion order. Numbers keep the three
kinds a reader produces: a non-negative integer below `2^64`, a negative integer not below
`-2^63`, and a double. Inserting a key that is already present replaces its value in place,
so an object read from text keeps each key at its first position with its last value.
-/

namespace Covenant

/-- A JSON number as read from text. -/
inductive Number where
  /-- An integer in `[0, 2^64)`. -/
  | nat (n : Nat)
  /-- An integer in `[-2^63, 0)`. -/
  | neg (n : Int)
  /-- Any other number, as a double. -/
  | float (f : Float)

/-- An integer as a number of the fitting kind. -/
def Number.ofInt (i : Int) : Number := if i ≥ 0 then .nat i.toNat else .neg i

/-- A JSON value; object members are in insertion order. -/
inductive Json where
  | null
  | bool (b : Bool)
  | num (n : Number)
  | str (s : String)
  | arr (items : List Json)
  | obj (fields : List (String × Json))

namespace Json

instance : Inhabited Json := ⟨.null⟩

/-- Sets `key` in a member list: an existing member keeps its position and takes the new
value, a new key goes last. -/
def setField (fields : List (String × Json)) (key : String) (value : Json) :
    List (String × Json) :=
  if fields.any (fun p => p.1 == key) then
    fields.map (fun p => if p.1 == key then (key, value) else p)
  else fields ++ [(key, value)]

/-- The value of `key` in an object, `none` for other values or a missing key. -/
def get? (v : Json) (key : String) : Option Json :=
  match v with
  | .obj fields => (fields.find? (fun p => p.1 == key)).map (·.2)
  | _ => none

/-- The element at `i` of an array, `none` for other values or an index out of range. -/
def at? (v : Json) (i : Nat) : Option Json :=
  match v with
  | .arr items => items[i]?
  | _ => none

/-- The text of a string value. -/
def getStr? : Json → Option String
  | .str s => some s
  | _ => none

/-- The truth value of a boolean. -/
def getBool? : Json → Option Bool
  | .bool b => some b
  | _ => none

/-- The items of an array. -/
def getArr? : Json → Option (List Json)
  | .arr items => some items
  | _ => none

/-- The members of an object. -/
def getObj? : Json → Option (List (String × Json))
  | .obj fields => some fields
  | _ => none

/-- The string of a member that holds a string. -/
def strField? (v : Json) (key : String) : Option String := (v.get? key).bind getStr?

/-- Whether a value is an object. -/
def isObj : Json → Bool
  | .obj _ => true
  | _ => false

/-- `x` occurs in `v`: it is `v` itself, or it occurs in an item or a member value of `v`. -/
inductive Occurs : Json → Json → Prop
  | refl (v : Json) : Occurs v v
  | item {x v : Json} {items : List Json} : v ∈ items → Occurs x v → Occurs x (.arr items)
  | field {x v : Json} {key : String} {fields : List (String × Json)} :
      (key, v) ∈ fields → Occurs x v → Occurs x (.obj fields)

theorem Occurs.trans {x y z : Json} (hxy : Occurs x y) (hyz : Occurs y z) : Occurs x z := by
  induction hyz with
  | refl => exact hxy
  | item hv _ ih => exact .item hv ih
  | field hv _ ih => exact .field hv ih

end Json

end Covenant
