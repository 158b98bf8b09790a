/-
  The two slots of each category of entity that an invocation may act on.

  An instruction says by its operand which of the two it means: the operand 1 means the secondary slot
  and every other the primary.
-/

namespace TickScript

/-- One of the two slots of a category. -/
inductive Slot where
  | primary
  | secondary
  deriving DecidableEq

namespace Slot

/-- The slot that an instruction's operand selects. -/
def ofOperand (operand : Int32) : Slot := if operand = 1 then secondary else primary

/-- The slot's position among the two. -/
def index : Slot → Nat
  | primary => 0
  | secondary => 1

/-- The slot at a position, if there is one. -/
def ofIndex? : Nat → Option Slot
  | 0 => some primary
  | 1 => some secondary
  | _ => none

/-- Of two things the one that belongs to the slot. -/
def pick {α : Type} (s : Slot) (first second : α) : α :=
  match s with
  | primary => first
  | secondary => second

end Slot

end TickScript
