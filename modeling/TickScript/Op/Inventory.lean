import TickScript.Op

/-
  Instructions about the inventories of the player of the selected slot.

  Looking needs the plain permission; changing needs protected access.
-/

namespace TickScript.Op.Inventory

/-- Puts in an amount of an obj, as far as there is room. -/
def invAdd : Handler := do
  let (inv, obj, count) ← popInt3
  let player ← requireProtectedPlayer
  let type ← fromConfig (·.obj obj)
  let slots ← observe (·.itemSlots player.pid inv)
  let (slots, left) := slots.add type.stackable obj count
  if 0 < left then
    note .debug ("inv " ++ toString inv.toInt ++ " of player " ++ toString player.pid.toInt ++
      " is full, " ++ toString left ++ " x " ++ toString obj.toInt ++ " dropped")
  effect (·.setItemSlots player.pid inv slots)

def invClear : Handler := do
  let inv ← popInt
  let player ← requireProtectedPlayer
  let slots ← observe (·.itemSlots player.pid inv)
  effect (·.setItemSlots player.pid inv (slots.map fun _ => none))

/-- Takes out an amount of an obj, as far as there is any. -/
def invDel : Handler := do
  let (inv, obj, count) ← popInt3
  let player ← requireProtectedPlayer
  let slots ← observe (·.itemSlots player.pid inv)
  effect (·.setItemSlots player.pid inv (slots.remove obj count))

def invFreespace : Handler := do
  let inv ← popInt
  let player ← requirePlayer
  pushInt (Arithmetic.ofLength (← observe (·.itemSlots player.pid inv)).freeCount)

def invSize : Handler := do
  let inv ← popInt
  let player ← requirePlayer
  pushInt (Arithmetic.ofLength (← observe (·.itemSlots player.pid inv)).length)

def invTotal : Handler := do
  let (inv, obj) ← popInt2
  let player ← requirePlayer
  pushInt ((← observe (·.itemSlots player.pid inv)).total obj)

def table : List (Opcode × Handler) := [
  (.invAdd, invAdd),
  (.invClear, invClear),
  (.invDel, invDel),
  (.invFreespace, invFreespace),
  (.invSize, invSize),
  (.invTotal, invTotal)]

end TickScript.Op.Inventory
