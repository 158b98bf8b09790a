import TickScript.Json.Form

/-
  Coordinates of the map, and their packed form.

  A packed coordinate has 14 bits each for the level, x and z.  On the int stack it has only 32 bits, so
  that a level keeps its low three bits there and the bit above them fills the rest by its sign.
-/

namespace TickScript

/-- A square of the map. -/
structure Coord where
  level : Int32
  x : Int32
  z : Int32
  deriving DecidableEq, Inhabited

instance : JsonForm Coord where
  toJson c := .obj [("level", toJson c.level), ("x", toJson c.x), ("z", toJson c.z)]
  ofJson? v := do
    let members ← v.record? ["level", "x", "z"]
    pure {
      level := ← Json.required "level" members
      x := ← Json.required "x" members
      z := ← Json.required "z" members }

namespace Coord

def origin : Coord := ⟨0, 0, 0⟩

/-- Fourteen bits. -/
def mask : Int64 := 0x3fff

def pack (c : Coord) : Int64 :=
  ((c.level.toInt64 &&& mask) <<< 28) ||| ((c.x.toInt64 &&& mask) <<< 14) ||| (c.z.toInt64 &&& mask)

def unpack (packed : Int64) : Coord where
  level := ((packed >>> 28) &&& mask).toInt32
  x := ((packed >>> 14) &&& mask).toInt32
  z := (packed &&& mask).toInt32

/-- The packed form on the int stack. -/
def toScriptInt (c : Coord) : Int32 := c.pack.toInt32

/-- The square that a packed form on the int stack stands for. -/
def ofScriptInt (packed : Int32) : Coord := unpack packed.toInt64

/-- The square so far away along each axis. -/
def translate (c : Coord) (dx dLevel dz : Int32) : Coord :=
  ⟨c.level + dLevel, c.x + dx, c.z + dz⟩

/-- The distance along the longer axis, whatever the levels. -/
def flatDistance (a b : Coord) : Int32 := max (a.x - b.x).abs (a.z - b.z).abs

/-- The distance along the longer axis, for squares of one level. -/
def distance? (a b : Coord) : Option Int32 :=
  if a.level = b.level then some (a.flatDistance b) else none

/-- Whether the square lies in the box between two corners. -/
def isBetween (c a b : Coord) : Bool :=
  within c.level a.level b.level && within c.x a.x b.x && within c.z a.z b.z
where
  within (n a b : Int32) : Bool := min a b ≤ n && n ≤ max a b

/-- The zone of eight by eight squares that the square belongs to. -/
def zone (c : Coord) : Int32 × Int32 × Int32 := (c.level, c.x >>> 3, c.z >>> 3)

/-- The square as a fault message shows it. -/
def shown (c : Coord) : String :=
  "Coord \x7b level: " ++ toString c.level.toInt ++ ", x: " ++ toString c.x.toInt ++ ", z: " ++
    toString c.z.toInt ++ " \x7d"

end Coord

end TickScript
