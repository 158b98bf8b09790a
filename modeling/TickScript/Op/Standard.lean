import TickScript.Op.Database
import TickScript.Op.Ground
import TickScript.Op.Inspection
import TickScript.Op.Inventory
import TickScript.Op.Language
import TickScript.Op.Npc
import TickScript.Op.Number
import TickScript.Op.Player
import TickScript.Op.Surroundings
import TickScript.Op.Text
import TickScript.Op.TypeInfo
import TickScript.Registry

/-
  The standard registry: every instruction with its handler.
-/

namespace TickScript.Op

/-- The tables of all groups of instructions. -/
def standardTables : List (List (Opcode × Handler)) := [
  Language.table,
  Surroundings.table,
  Player.table,
  Npc.table,
  Ground.locTable,
  Ground.objTable,
  TypeInfo.npcTable,
  TypeInfo.locTable,
  TypeInfo.objTable,
  Inventory.table,
  TypeInfo.enumTable,
  Text.table,
  Number.table,
  Database.table,
  Inspection.table]

/-- The merge of all tables, or the fault that two of them clash. -/
def standard? : Except Fault (Registry Handler) := Registry.build standardTables

/-- The merge of all tables. -/
def standard : Registry Handler := standard?.toOption.getD .empty

end TickScript.Op
