import TickScript.Op

/-
  Instructions about the npc of the selected slot.

  Operands are taken before permission is checked.
-/

namespace TickScript.Op.Npc

/-! ## Finding -/

/-- The npc that a uid stands for, if it is in the world and still of that type.  A look-up that fails is
    an answer here. -/
def resolve (uid : Int32) (w : World) : Except Fault (Option NpcRef) :=
  let wanted := NpcRef.ofUid uid
  match w.npcInfo wanted.nid with
  | .ok info => .ok (if info.typeId = wanted.typeId then some ⟨info.nid, info.typeId⟩ else none)
  | .error f => if f.kind.isRecoverable then .ok none else .error f

/-- Binds the slot to the npc of a uid and grants the permission, or clears the slot and revokes it. -/
def npcFinduid : Handler := do
  let uid ← popInt
  let slot ← selectedSlot
  let found ← observe (resolve uid)
  update fun i => { i with npcs := i.npcs.set slot found }
  if found.isSome then
    update (·.grant (.npc slot))
    pushInt 1
  else
    note .debug ("npc uid " ++ toString uid.toInt ++ " no longer resolves")
    update (·.revoke (.npc slot))
    pushInt 0

/-! ## Asking -/

def npcBasestat : Handler := do
  let stat ← popInt
  let npc ← requireNpc
  pushInt (← observe (·.npcStat npc.nid stat)).base

def npcStat : Handler := do
  let stat ← popInt
  let npc ← requireNpc
  pushInt (← observe (·.npcStat npc.nid stat)).level

def npcCategory : Handler := do
  let npc ← requireNpc
  pushInt (← fromConfig (·.npc npc.typeId)).category

def npcCoord : Handler := do
  let npc ← requireNpc
  pushInt (← observe (·.npcInfo npc.nid)).coord.toScriptInt

def npcFindhero : Handler := do
  let npc ← requireNpc
  pushInt (← observe (·.npcInfo npc.nid)).hero

def npcParam : Handler := do
  let param ← popInt
  let npc ← requireNpc
  let type ← fromConfig (·.npc npc.typeId)
  let (varType, value) ← fromConfig (·.resolveParam type.params param)
  pushTyped varType value

/-- The distance to a square, or -1 across levels. -/
def npcRange : Handler := do
  let coord ← popCoord
  let npc ← requireNpc
  let info ← observe (·.npcInfo npc.nid)
  pushInt ((info.coord.distance? coord).getD (-1))

def npcType : Handler := do pushInt (← requireNpc).typeId

def npcName : Handler := do
  let npc ← requireNpc
  pushName (← fromConfig (·.npc npc.typeId)).name

def npcUid : Handler := do pushInt (← requireNpc).uid

/-! ## Acting -/

def npcAnim : Handler := do
  let (seq, delay) ← popInt2
  let npc ← requireNpc
  effect (·.npcAnim npc.nid seq delay)

def npcDel : Handler := do
  let npc ← requireNpc
  effect (·.npcRemove npc.nid)

def npcDelay : Handler := do
  let ticks ← popInt
  let _ ← requireNpc
  suspendFor .npcSuspended ticks

/-- Puts off the script that is registered for one of the npc's queues, if there is one.  Queues are
    counted from one. -/
def npcQueue : Handler := do
  let (queue, delay) ← popInt2
  let trigger ← orFail (.badQueue queue) (Trigger.queue? (queue - 1))
  let npc ← requireNpc
  let type ← fromConfig (·.npc npc.typeId)
  match ← fromLibrary fun l => .ok (l.byTrigger? trigger type.id type.category) with
  | some script => effect (·.queueNpcScript npc.nid script.id delay)
  | none => pure ()

def npcSay : Handler := do
  let text ← popString
  let npc ← requireNpc
  effect (·.npcSay npc.nid text)

def npcDamage : Handler := do
  let (damageType, amount) ← popInt2
  let npc ← requireNpc
  let source ← creditedPlayer
  effect (·.npcDamage npc.nid damageType amount source)

def npcSettimer : Handler := do
  let interval ← popInt
  let npc ← requireNpc
  effect (·.npcSetTimer npc.nid interval)

def spotanimNpc : Handler := do
  let (spotanim, height, delay) ← popInt3
  let npc ← requireNpc
  effect (·.npcSpotanim npc.nid spotanim height delay)

def table : List (Opcode × Handler) := [
  (.npcFinduid, npcFinduid),
  (.npcAdd, unimplemented),
  (.npcAnim, npcAnim),
  (.npcBasestat, npcBasestat),
  (.npcCategory, npcCategory),
  (.npcCoord, npcCoord),
  (.npcDel, npcDel),
  (.npcDelay, npcDelay),
  (.npcFacesquare, unimplemented),
  (.npcFindexact, unimplemented),
  (.npcFindhero, npcFindhero),
  (.npcParam, npcParam),
  (.npcQueue, npcQueue),
  (.npcRange, npcRange),
  (.npcSay, npcSay),
  (.npcSethunt, unimplemented),
  (.npcSethuntmode, unimplemented),
  (.npcSetmode, unimplemented),
  (.npcStat, npcStat),
  (.npcStatheal, unimplemented),
  (.npcType, npcType),
  (.npcDamage, npcDamage),
  (.npcName, npcName),
  (.npcUid, npcUid),
  (.npcSettimer, npcSettimer),
  (.spotanimNpc, spotanimNpc)]

end TickScript.Op.Npc
