import TickScript.Json.Reader
import TickScript.Json.Printer
import TickScript.SortedMap

/-
  The JSON form of a type: how its values are written, and which JSON values stand for one.

  Records are objects.  Members of a name that the record does not know are passed over, fit or not; a
  KNOWN name given twice is refused.  A member may be required, may have a default when absent (but then
  `null` is no substitute for absence), or may be optional, when absence and `null` mean the same.  A type
  with alternatives is an object whose member "kind" names the alternative, at any place in the object;
  since that place may be the last one, such an object has to be fit as a whole.  Where no member is given
  at all, an empty list does for a record, and a list of the kind for an alternative.
-/

namespace TickScript

/-- Types whose values have a JSON form. -/
class JsonForm (α : Type) where
  toJson : α → Json
  ofJson? : Json → Option α

export JsonForm (toJson ofJson?)

namespace Json

/-! ## Scalars -/

/-- An integer between two limits, both allowed. -/
def intBetween? (least greatest : Int) : Json → Option Int
  | .int n => if least ≤ n && n ≤ greatest then some n else none
  | _ => none

/-- The name by which a value of a plain enumeration is given: a string, or an object whose only member
    has that name and says nothing more. -/
def name? : Json → Option String
  | .str name => some name
  | .obj [(name, .null)] => some name.text
  | _ => none

end Json

instance : JsonForm Json := ⟨id, some⟩

instance : JsonForm Bool where
  toJson := .bool
  ofJson?
    | .bool b => some b
    | _ => none

instance : JsonForm String where
  toJson := .str
  ofJson?
    | .str s => some s
    | _ => none

instance : JsonForm Int32 where
  toJson n := .int n.toInt
  ofJson? v := (v.intBetween? (-2147483648) 2147483647).map Int32.ofInt

instance : JsonForm Int64 where
  toJson n := .int n.toInt
  ofJson? v := (v.intBetween? (-9223372036854775808) 9223372036854775807).map Int64.ofInt

instance : JsonForm UInt8 where
  toJson n := .int n.toNat
  ofJson? v := (v.intBetween? 0 255).map fun n => UInt8.ofNat n.toNat

instance : JsonForm UInt32 where
  toJson n := .int n.toNat
  ofJson? v := (v.intBetween? 0 4294967295).map fun n => UInt32.ofNat n.toNat

instance : JsonForm UInt64 where
  toJson n := .int n.toNat
  ofJson? v := (v.intBetween? 0 18446744073709551615).map fun n => UInt64.ofNat n.toNat

/-! ## Containers -/

section Containers

variable {α : Type} [JsonForm α]

/-- Absence is `null`. -/
instance : JsonForm (Option α) where
  toJson
    | some a => toJson a
    | none => .null
  ofJson?
    | .null => some none
    | v => (ofJson? v).map some

instance : JsonForm (List α) where
  toJson as := .arr (as.map toJson)
  ofJson?
    | .arr items => items.mapM ofJson?
    | _ => none

instance : JsonForm (Array α) where
  toJson as := toJson as.toList
  ofJson? v := (ofJson? v : Option (List α)).map List.toArray

/-- A member of a map: its name is the key, written as a JSON integer. -/
def entryOfMember? (member : Json.Name × Json) : Option (Int32 × α) := do
  let n ← if member.1.plain then Json.readInt? member.1.text else none
  let key ← (ofJson? (.int n) : Option Int32)
  let value ← ofJson? member.2
  pure (key, value)

/-- A map from numbers is an object; of members with one key the last counts. -/
instance : JsonForm (SortedMap Int32 α) where
  toJson m := .obj (m.entries.map fun e => (toString e.1.toInt, toJson e.2))
  ofJson?
    | .obj members => (members.mapM entryOfMember?).map SortedMap.ofList
    | _ => none

end Containers

/-! ## Records -/

namespace Json

/-- The members of a record, in which none of the known names may occur twice. -/
def record? (known : List String) : Json → Option (List (String × Json))
  | .obj members =>
    let members := (Json.obj members).members
    if known.all fun name => (members.filter (·.1 = name)).length ≤ 1 then some members else none
  | .arr [] => some []
  | _ => none

/-- The alternative that the only "kind" names, and the record of the other members. -/
def tagged? : Json → Option (String × Json)
  | .obj members => do
    let v := Json.obj members
    match (← v.record? ["kind"]).lookup "kind" with
    | some (.str kind) =>
      if v.isFit then some (kind, .obj (members.filter (·.1.text ≠ "kind"))) else none
    | _ => none
  | .arr [.str kind] => some (kind, .arr [])
  | _ => none

/-- An object whose first member names its alternative. -/
def withKind (kind : String) : Json → Json
  | .obj members => .obj (("kind", .str kind) :: members)
  | v => v

section Members

variable {α : Type} [JsonForm α]

/-- A member that has to be there. -/
def required (name : String) (members : List (String × Json)) : Option α := do
  ofJson? (← members.lookup name)

/-- A member that stands for `default` when it is absent. -/
def defaulted (name : String) (default : α) (members : List (String × Json)) : Option α :=
  match members.lookup name with
  | some v => ofJson? v
  | none => some default

/-- A member whose absence and whose `null` both mean that there is none. -/
def optional (name : String) (members : List (String × Json)) : Option (Option α) :=
  defaulted name none members

end Members

end Json

/-- The value that a JSON text stands for. -/
def ofText? {α : Type} [JsonForm α] (text : String) : Option α := (Json.read? text).bind ofJson?

/-- The compact JSON text of a value. -/
def toText {α : Type} [JsonForm α] (a : α) : String := (toJson a).compact

end TickScript
