import TickScript.Arithmetic
import TickScript.Json.Form

/-
  Inventories: rows of slots, each empty or holding a number of objs of one type.

  An obj that stacks goes to the slot that already has it, or else to the first empty one, in any number;
  one that does not takes an empty slot for each.  What finds no room is dropped.
-/

namespace TickScript

/-- What a slot holds. -/
structure ItemStack where
  obj : Int32
  count : Int32
  deriving DecidableEq

/-- The slots of an inventory. -/
abbrev ItemSlots := List (Option ItemStack)

/-- An inventory as it is stored: slots that were never written may be missing at the end. -/
structure Inventory where
  size : UInt64
  items : ItemSlots
  deriving DecidableEq

instance : JsonForm ItemStack where
  toJson i := .obj [("obj", toJson i.obj), ("count", toJson i.count)]
  ofJson? v := do
    let members ← v.record? ["obj", "count"]
    pure {
      obj := ← Json.required "obj" members
      count := ← Json.required "count" members }

instance : JsonForm Inventory where
  toJson i := .obj [("size", toJson i.size), ("items", toJson i.items)]
  ofJson? v := do
    let members ← v.record? ["size", "items"]
    pure {
      size := ← Json.required "size" members
      items := ← Json.defaulted "items" [] members }

namespace Inventory

/-- All slots, as many as the size says. -/
def slots (i : Inventory) : ItemSlots :=
  i.items.take i.size.toNat ++ List.replicate (i.size.toNat - i.items.length) none

/-- The inventory with those slots, as far as there is room. -/
def withSlots (i : Inventory) (slots : ItemSlots) : Inventory :=
  { i with items := slots.take i.size.toNat }

end Inventory

namespace ItemSlots

open Arithmetic

/-! ## Putting in -/

/-- Raises the count of the first slot with the obj, if there is one. -/
def raise? (obj amount : Int32) : ItemSlots → Option ItemSlots
  | [] => none
  | some item :: rest =>
    if item.obj = obj then
      some (some { item with count := saturatingAdd item.count amount } :: rest)
    else (raise? obj amount rest).map (some item :: ·)
  | none :: rest => (raise? obj amount rest).map (none :: ·)

/-- Puts a stack into the first empty slot, if there is one. -/
def occupy? (item : ItemStack) : ItemSlots → Option ItemSlots
  | [] => none
  | some other :: rest => (occupy? item rest).map (some other :: ·)
  | none :: rest => some (some item :: rest)

/-- Puts one obj into each empty slot until the amount is used up; also gives what is left of it. -/
def spread (obj : Int32) : Nat → ItemSlots → ItemSlots × Nat
  | left, [] => ([], left)
  | left, some item :: rest =>
    let (rest, left) := spread obj left rest
    (some item :: rest, left)
  | 0, none :: rest => (none :: rest, 0)
  | left + 1, none :: rest =>
    let (rest, left) := spread obj left rest
    (some ⟨obj, 1⟩ :: rest, left)

/-- Puts in an amount of an obj; also gives what found no room. -/
def add (stackable : Bool) (obj count : Int32) (slots : ItemSlots) : ItemSlots × Nat :=
  let amount := max count 0
  if stackable then
    match (raise? obj amount slots).orElse fun _ => occupy? ⟨obj, amount⟩ slots with
    | some slots => (slots, 0)
    | none => (slots, amount.toNatClampNeg)
  else spread obj amount.toNatClampNeg slots

/-! ## Taking out -/

/-- Takes an amount of an obj from the slots that have it, front to back. -/
def take (obj : Int32) : Int32 → ItemSlots → ItemSlots
  | _, [] => []
  | left, none :: rest => none :: take obj left rest
  | left, some item :: rest =>
    if left = 0 then some item :: rest
    else if item.obj = obj then
      let taken := min item.count left
      let kept := item.count - taken
      (if kept = 0 then none else some { item with count := kept }) :: take obj (left - taken) rest
    else some item :: take obj left rest

/-- Takes out an amount of an obj. -/
def remove (obj count : Int32) (slots : ItemSlots) : ItemSlots := take obj (max count 0) slots

/-! ## Counting -/

/-- How many slots are empty. -/
def freeCount (slots : ItemSlots) : Nat := slots.countP Option.isNone

/-- How many of an obj there are, as far as a script int can say. -/
def total (obj : Int32) (slots : ItemSlots) : Int32 :=
  (slots.reduceOption.filter (·.obj = obj)).foldl (fun n item => saturatingAdd n item.count) 0

end ItemSlots

end TickScript
