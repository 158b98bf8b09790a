import TickScript.Op

/-
  Instructions about the clock and the map, for which no entity has to be bound.
-/

namespace TickScript.Op.Surroundings

def mapClock : Handler := do pushInt (← observe fun w => .ok w.clock)

def mapMembers : Handler := do pushBool (← observe fun w => .ok w.members)

def mapPlayercount : Handler := do pushInt (← observe fun w => .ok w.playerCount)

def coordx : Handler := do pushInt (← popCoord).x

def coordy : Handler := do pushInt (← popCoord).level

def coordz : Handler := do pushInt (← popCoord).z

def movecoord : Handler := do
  let (coord, dx, dLevel, dz) ← popInt4
  pushInt ((Coord.ofScriptInt coord).translate dx dLevel dz).toScriptInt

/-- The distance of two squares, whatever their levels. -/
def distance : Handler := do
  let destination ← popCoord
  let origin ← popCoord
  pushInt (origin.flatDistance destination)

/-- Whether the topmost square lies in the box between the two below it. -/
def inzone : Handler := do
  let coord ← popCoord
  let b ← popCoord
  let a ← popCoord
  pushBool (coord.isBetween a b)

def worldDelay : Handler := do suspendFor .worldSuspended (← popInt)

def table : List (Opcode × Handler) := [
  (.mapClock, mapClock),
  (.mapMembers, mapMembers),
  (.mapPlayercount, mapPlayercount),
  (.coordx, coordx),
  (.coordy, coordy),
  (.coordz, coordz),
  (.movecoord, movecoord),
  (.distance, distance),
  (.worldDelay, worldDelay),
  (.inzone, inzone),
  (.mapFindsquare, unimplemented),
  (.lineofwalk, unimplemented),
  (.projanimPl, unimplemented)]

end TickScript.Op.Surroundings
