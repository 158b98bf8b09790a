import TickScript.Fault
import TickScript.Opcode
import TickScript.Script

/-
  Registries: which handler an instruction number calls.

  A registry is a table indexed by instruction number, with gaps, so that a look-up is one step however
  many handlers there are.  It is merged from tables that must not claim an instruction twice.
-/

namespace TickScript

/-- Handlers of type `η` by instruction number. -/
structure Registry (η : Type) where
  entries : Array (Option (Opcode × η))

namespace Registry

variable {η : Type}

def empty : Registry η := ⟨#[]⟩

instance : Inhabited (Registry η) := ⟨empty⟩

/-- The table with gaps appended until it has the position. -/
def padded (r : Registry η) (position : Nat) : Array (Option (Opcode × η)) :=
  r.entries ++ Array.replicate (position + 1 - r.entries.size) none

/-- The registry with one more handler, for an instruction that none has claimed. -/
def claim (r : Registry η) (entry : Opcode × η) : Except Fault (Registry η) :=
  let entries := r.padded entry.1.number
  match entries[entry.1.number]? with
  | some (some _) => .error (.sameOpcode entry.1.name)
  | _ => .ok ⟨entries.setIfInBounds entry.1.number (some entry)⟩

/-- The registry with all handlers of a table. -/
def claimAll (r : Registry η) (table : List (Opcode × η)) : Except Fault (Registry η) :=
  table.foldlM claim r

/-- The merge of tables. -/
def build (tables : List (List (Opcode × η))) : Except Fault (Registry η) :=
  tables.foldlM claimAll empty

/-- What is registered under an instruction number. -/
def entry? (r : Registry η) (id : Int32) : Option (Opcode × η) := do
  (← r.entries[← position? id]?)

def handler? (r : Registry η) (id : Int32) : Option η := (r.entry? id).map (·.2)

def opcode? (r : Registry η) (id : Int32) : Option Opcode := (r.entry? id).map (·.1)

/-- The number of handlers. -/
def size (r : Registry η) : Nat := r.entries.countP Option.isSome

end Registry

end TickScript
