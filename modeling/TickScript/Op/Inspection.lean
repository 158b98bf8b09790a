import TickScript.Op

/-
  Instructions that look at the invocation itself: raising a fault, and asking what is bound.

  Asking needs no permission, since it tells nothing about the entity.
-/

namespace TickScript.Op.Inspection

/-- Fails with the message on top of the stack. -/
def error : Handler := do fail (.raised (← popString))

/-- Pushes whether the selected slot of a category is bound. -/
def isBound {α : Type} (slots : Invocation → Slots α) : Handler := do
  let slot ← selectedSlot
  pushBool (← ask fun i => ((slots i).get slot).isSome)

def table : List (Opcode × Handler) := [
  (.error, error),
  (.activeNpc, isBound (·.npcs)),
  (.activePlayer, isBound (·.players)),
  (.activeLoc, isBound (·.locs)),
  (.activeObj, isBound (·.objs))]

end TickScript.Op.Inspection
