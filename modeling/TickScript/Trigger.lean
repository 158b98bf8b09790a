/-
  Triggers: the events of the game that scripts are registered for.

  A script is registered under one number, its lookup key, which joins the trigger with how specific the
  registration is: for one type of entity, for one category of types, or for everything.  A lookup tries
  the three keys in that order.
-/

namespace TickScript

/-- A trigger, by its number. -/
structure Trigger where
  code : UInt8
  deriving DecidableEq

namespace Trigger

/-- The first of the npc queue triggers. -/
def firstQueue : Trigger := ⟨20⟩

/-- The number of npc queues. -/
def queueCount : Int32 := 20

/-- The trigger of an npc queue, counted from zero. -/
def queue? (index : Int32) : Option Trigger :=
  if 0 ≤ index && index < queueCount then some ⟨firstQueue.code + UInt8.ofNat index.toNatClampNeg⟩
  else none

/-- The trigger's number as a script int. -/
def toInt32 (t : Trigger) : Int32 := Int32.ofNat t.code.toNat

/-- The key of a registration for one type. -/
def typeKey (t : Trigger) (type : Int32) : Int32 := t.toInt32 ||| ((2 : Int32) <<< 8) ||| (type <<< 10)

/-- The key of a registration for one category. -/
def categoryKey (t : Trigger) (category : Int32) : Int32 :=
  t.toInt32 ||| ((1 : Int32) <<< 8) ||| (category <<< 10)

/-- The key of a registration for everything. -/
def defaultKey (t : Trigger) : Int32 := t.toInt32

/-- The keys in the order in which a lookup tries them. -/
def keys (t : Trigger) (type category : Int32) : List Int32 :=
  [t.typeKey type, t.categoryKey category, t.defaultKey]

end Trigger

end TickScript
