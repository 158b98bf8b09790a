/-
  JSON values as this library reads and writes them.

  A number that is written as a plain integer is an `Int`; every other numeral (a fraction, an
  exponent, a negative zero) is kept as it was written, because no document here has a place for one
  and it only has to be recognised as no integer.  Objects keep their members in order and keep repeated
  names, since whether a repetition is an error depends on what is being read.

  A part of a text may be well-formed and still stand for no value: a string with one half of a surrogate
  pair, a numeral beyond all doubles, an array nested too deeply.  Such a part is UNFIT.  It may stand
  where nobody looks, so it is kept, and whether that is an error depends on what is being read, too.
-/

namespace TickScript

/-- The name of a member. -/
structure Json.Name where
  text : String
  /-- Whether it is written without escapes, as a name that stands for a number has to be. -/
  plain : Bool
  deriving Inhabited

instance : Coe String Json.Name := ⟨fun text => ⟨text, true⟩⟩

/-- A JSON value. -/
inductive Json where
  | null
  | bool (b : Bool)
  | int (n : Int)
  /-- A numeral that is not a plain integer, as written. -/
  | decimal (numeral : String)
  | str (s : String)
  | arr (items : List Json)
  | obj (members : List (Json.Name × Json))
  /-- Something well-formed that stands for no value. -/
  | unfit
  deriving Inhabited

namespace Json

/-- The members of an object by their names; nothing else has any. -/
def members : Json → List (String × Json)
  | .obj members => members.map fun m => (m.1.text, m.2)
  | _ => []

/-- The first member of that name, of an object. -/
def get? (name : String) (v : Json) : Option Json := v.members.lookup name

/-- The items of an array; nothing else has any. -/
def items : Json → List Json
  | .arr items => items
  | _ => []

/-! ## Fitness -/

mutual

/-- Whether no part of a value is unfit. -/
def isFit : Json → Bool
  | .unfit => false
  | .arr items => itemsFit items
  | .obj members => membersFit members
  | .null | .bool _ | .int _ | .decimal _ | .str _ => true

/-- Whether no item has an unfit part. -/
def itemsFit : List Json → Bool
  | [] => true
  | v :: vs => v.isFit && itemsFit vs

/-- Whether no member has an unfit part. -/
def membersFit : List (Name × Json) → Bool
  | [] => true
  | (_, v) :: ms => v.isFit && membersFit ms

end

/-- The value with only so many levels of arrays and objects: what is nested deeper is unfit. -/
def upToDepth : Nat → Json → Json
  | 0, .arr _ => .unfit
  | 0, .obj _ => .unfit
  | levels + 1, .arr items => .arr (items.map (upToDepth levels))
  | levels + 1, .obj members => .obj (members.map fun m => (m.1, upToDepth levels m.2))
  | _, v => v

end Json

end TickScript
