import TickScript.Op

/-
  Instructions about what stands or lies on the ground: locs and objs, those of the selected slot and new
  ones.
-/

namespace TickScript.Op.Ground

/-! ## Locs -/

/-- Adds a loc; of the angle only the four directions count. -/
def locAdd : Handler := do
  let (coord, typeId, angle, shape, duration) ← popInt5
  let loc : Loc := ⟨typeId, .ofScriptInt coord, shape, angle &&& 3⟩
  effect fun w => .ok (w.addLoc loc duration)

def locDel : Handler := do
  let duration ← popInt
  let loc ← requireLoc
  effect (·.removeLoc loc duration)

def locAngle : Handler := do pushInt (← requireLoc).angle

def locCategory : Handler := do
  let loc ← requireLoc
  pushInt (← fromConfig (·.loc loc.typeId)).category

def locCoord : Handler := do pushInt (← requireLoc).coord.toScriptInt

def locParam : Handler := do
  let param ← popInt
  let loc ← requireLoc
  let type ← fromConfig (·.loc loc.typeId)
  let (varType, value) ← fromConfig (·.resolveParam type.params param)
  pushTyped varType value

def locType : Handler := do pushInt (← requireLoc).typeId

def locName : Handler := do
  let loc ← requireLoc
  pushName (← fromConfig (·.loc loc.typeId)).name

def locShape : Handler := do pushInt (← requireLoc).shape

/-! ## Objs -/

/-- Drops an obj of a known type, for the eyes of the bound player if there is one. -/
def objAdd : Handler := do
  let (coord, typeId, count, duration) ← popInt4
  let _ ← fromConfig (·.obj typeId)
  let receiver ← creditedPlayer
  let obj : Obj := ⟨typeId, .ofScriptInt coord, count⟩
  effect fun w => .ok (w.addObj obj receiver duration)

def objDel : Handler := do
  let obj ← requireObj
  effect (·.removeObj obj 0)

def objCoord : Handler := do pushInt (← requireObj).coord.toScriptInt

def objCount : Handler := do pushInt (← requireObj).count

def objName : Handler := do
  let obj ← requireObj
  pushName (← fromConfig (·.obj obj.typeId)).name

def objParam : Handler := do
  let param ← popInt
  let obj ← requireObj
  let type ← fromConfig (·.obj obj.typeId)
  let (varType, value) ← fromConfig (·.resolveParam type.params param)
  pushTyped varType value

def objType : Handler := do pushInt (← requireObj).typeId

def locTable : List (Opcode × Handler) := [
  (.locAdd, locAdd),
  (.locAngle, locAngle),
  (.locAnim, unimplemented),
  (.locCategory, locCategory),
  (.locChange, unimplemented),
  (.locCoord, locCoord),
  (.locDel, locDel),
  (.locFindallzone, unimplemented),
  (.locFindnext, unimplemented),
  (.locParam, locParam),
  (.locType, locType),
  (.locName, locName),
  (.locShape, locShape)]

def objTable : List (Opcode × Handler) := [
  (.objAdd, objAdd),
  (.objAddall, unimplemented),
  (.objCoord, objCoord),
  (.objCount, objCount),
  (.objDel, objDel),
  (.objName, objName),
  (.objParam, objParam),
  (.objType, objType),
  (.objTakeitem, unimplemented)]

end TickScript.Op.Ground
