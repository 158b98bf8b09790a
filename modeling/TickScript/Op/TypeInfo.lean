import TickScript.Op

/-
  Instructions about types: what the config says of an npc, a loc or an obj type, and enums.
-/

namespace TickScript.Op.TypeInfo

/-! ## Npc and loc types

The instructions for the two are the same but for the table that they read. -/

/-- The type in `table` whose id is on top of the stack. -/
def popType {α : Type} (table : Config → Int32 → Except Fault α) : Op α := do
  let id ← popInt
  fromConfig (table · id)

def category (table : Config → Int32 → Except Fault EntityType) : Handler := do
  pushInt (← popType table).category

def debugname (table : Config → Int32 → Except Fault EntityType) : Handler := do
  pushString (← popType table).debugname

def desc (table : Config → Int32 → Except Fault EntityType) : Handler := do
  pushName (← popType table).desc

def name (table : Config → Int32 → Except Fault EntityType) : Handler := do
  pushName (← popType table).name

def param (table : Config → Int32 → Except Fault EntityType) : Handler := do
  let (id, param) ← popInt2
  let type ← fromConfig (table · id)
  let (varType, value) ← fromConfig (·.resolveParam type.params param)
  pushTyped varType value

def npcTable : List (Opcode × Handler) := [
  (.ncCategory, category Config.npc),
  (.ncDebugname, debugname Config.npc),
  (.ncDesc, desc Config.npc),
  (.ncName, name Config.npc),
  (.ncParam, param Config.npc)]

def locTable : List (Opcode × Handler) := [
  (.lcCategory, category Config.loc),
  (.lcDebugname, debugname Config.loc),
  (.lcDesc, desc Config.loc),
  (.lcName, name Config.loc),
  (.lcParam, param Config.loc)]

/-! ## Obj types -/

/-- Pushes an int that is known of the obj type on top of the stack. -/
def pushOfObj (f : ObjType → Int32) : Handler := do pushInt (f (← popType Config.obj))

def ocDebugname : Handler := do pushString (← popType Config.obj).debugname

def ocDesc : Handler := do pushName (← popType Config.obj).desc

def ocName : Handler := do pushName (← popType Config.obj).name

def ocParam : Handler := do
  let (id, param) ← popInt2
  let type ← fromConfig (·.obj id)
  let (varType, value) ← fromConfig (·.resolveParam type.params param)
  pushTyped varType value

def objTable : List (Opcode × Handler) := [
  (.ocCategory, pushOfObj (·.category)),
  (.ocCost, pushOfObj (·.cost)),
  (.ocDebugname, ocDebugname),
  (.ocDesc, ocDesc),
  (.ocMembers, pushOfObj fun o => Arithmetic.ofBool o.members),
  (.ocName, ocName),
  (.ocParam, ocParam),
  (.ocStackable, pushOfObj fun o => Arithmetic.ofBool o.stackable),
  (.ocWeight, pushOfObj (·.weight))]

/-! ## Enums -/

/-- The value at a key of an enum, which has to be read with the types that it declares. -/
def enum : Handler := do
  let (input, output, id, key) ← popInt4
  let e ← fromConfig (·.enum id)
  if VarType.ofCharCode? input = some e.inputType ∧ VarType.ofCharCode? output = some e.outputType then
    pushTyped e.outputType (e.get key)
  else fail (.wrongEnum id e.inputType.charCode e.outputType.charCode input output)

def enumGetoutputcount : Handler := do
  pushInt (Arithmetic.ofLength (← popType Config.enum).values.size)

def enumTable : List (Opcode × Handler) := [
  (.enum, enum),
  (.enumGetoutputcount, enumGetoutputcount)]

end TickScript.Op.TypeInfo
