import TickScript.Execution
import TickScript.Pointers
import TickScript.Entity
import TickScript.Value

/-
  What can go wrong in an invocation, as causes.

  A fault says what happened with the data of that case; its kind, by which programs tell faults apart,
  and its message, which people read, are functions of the cause.  A fault never carries more: where it
  happened is added by the report of the aborted run.
-/

namespace TickScript

/-- The kinds of fault. -/
inductive FaultKind where
  | stackUnderflow
  | invalidProgramCounter
  | instructionBudgetExceeded
  | unknownOpcode
  | unimplementedOpcode
  | capacityViolation
  | entityLookupFailure
  | pointerMissing
  | registryConflict
  | runtime
  deriving DecidableEq

namespace FaultKind

def all : List FaultKind :=
  [stackUnderflow, invalidProgramCounter, instructionBudgetExceeded, unknownOpcode,
   unimplementedOpcode, capacityViolation, entityLookupFailure, pointerMissing, registryConflict,
   runtime]

/-- The name of the kind, in messages and in JSON documents. -/
def code : FaultKind → String
  | stackUnderflow => "STACK_UNDERFLOW"
  | invalidProgramCounter => "INVALID_PROGRAM_COUNTER"
  | instructionBudgetExceeded => "INSTRUCTION_BUDGET_EXCEEDED"
  | unknownOpcode => "UNKNOWN_OPCODE"
  | unimplementedOpcode => "UNIMPLEMENTED_OPCODE"
  | capacityViolation => "CAPACITY_VIOLATION"
  | entityLookupFailure => "ENTITY_LOOKUP_FAILURE"
  | pointerMissing => "POINTER_MISSING"
  | registryConflict => "REGISTRY_CONFLICT"
  | runtime => "RUNTIME"

/-- A look-up that fails may be answered by an opcode instead of ending the run; nothing else may. -/
def isRecoverable (k : FaultKind) : Bool := k = entityLookupFailure

/-- A message with its kind in front. -/
def headed (k : FaultKind) (message : String) : String := k.code ++ ": " ++ message

end FaultKind

instance : JsonForm FaultKind where
  toJson k := .str k.code
  ofJson? v := do
    let name ← v.name?
    FaultKind.all.find? (·.code = name)

/-- The two kinds of stack and of local. -/
inductive ValueSort where
  | int
  | string
  deriving DecidableEq

namespace ValueSort

/-- The name inside a sentence. -/
def name : ValueSort → String
  | int => "int"
  | string => "string"

/-- The name at the head of a sentence. -/
def title : ValueSort → String
  | int => "Int"
  | string => "String"

end ValueSort

/-- The tables of the config, as messages name their entries. -/
inductive ConfigTable where
  | param | npc | loc | obj | enum | dbTable | dbRow
  deriving DecidableEq

/-- The name of an entry of the table. -/
def ConfigTable.entryName : ConfigTable → String
  | param => "Param"
  | npc => "Npc type"
  | loc => "Loc type"
  | obj => "Obj type"
  | enum => "Enum"
  | dbTable => "Db table"
  | dbRow => "Db row"

/-- Why an invocation cannot go on, or could not be set up. -/
inductive Fault where
  /-- A stack had fewer values than were to be taken. -/
  | emptyStack (stack : ValueSort)
  /-- The program counter left a script of `length` instructions. -/
  | pcOutside (pc : Int32) (length : Nat)
  | budgetExceeded (executed : UInt32)
  | unknownOpcode (id : Int32)
  | unimplemented (name : String) (id : Int32)
  /-- Both slots of the category are taken. -/
  | slotsFull
  | callsTooDeep
  | notGranted (pointer : Pointers)
  | notBound (pointer : Pointers)
  | noStringOperand (pc : Int32)
  | branchOverflow (offset pc : Int32)
  | noSwitchTable (index : Int32)
  | badLocalIndex (index : Int32)
  | localUnset (sort : ValueSort) (index : Nat)
  | localOutside (sort : ValueSort) (index : Nat)
  | noScript (id : Int32)
  | sameScriptId (id : Int32)
  | noEntry (table : ConfigTable) (id : Int32)
  /-- Two handlers claim one opcode. -/
  | sameOpcode (name : String)
  | noPlayer (pid : Int32)
  | noNpc (nid : Int32)
  | noInventory (pid inv : Int32)
  | noLoc (typeId : Int32) (coord : Coord)
  | noObj (typeId : Int32) (coord : Coord)
  | wrongValue (value : Value) (type : VarType)
  /-- An enum was read as if it mapped other types. -/
  | wrongEnum (id input output readInput readOutput : Int32)
  | badCharCode (code : Int32)
  | divisionByZero
  | badBit (index : Int32)
  | badExponent (exponent : Int32)
  | badRoot (exponent number : Int32)
  | badQueue (queue : Int32)
  | noColumn (table column : Int32)
  | rowElsewhere (row table : Int32)
  | noQuery
  /-- A snapshot was asked for while nothing was waiting. -/
  | notSuspended (execution : Execution)
  | snapshotSchema (found : String)
  | snapshotExecution (execution : Execution)
  | snapshotPc (pc : Int32) (script : String)
  /-- The script itself raised it. -/
  | raised (message : String)
  deriving DecidableEq

namespace Fault

def kind : Fault → FaultKind
  | emptyStack _ => .stackUnderflow
  | pcOutside .. | branchOverflow .. => .invalidProgramCounter
  | budgetExceeded _ => .instructionBudgetExceeded
  | unknownOpcode _ => .unknownOpcode
  | unimplemented .. => .unimplementedOpcode
  | slotsFull | callsTooDeep => .capacityViolation
  | notGranted _ | notBound _ => .pointerMissing
  | noPlayer _ | noNpc _ | noLoc .. | noObj .. => .entityLookupFailure
  | sameOpcode _ => .registryConflict
  | _ => .runtime

/-- Numbers in messages are plain decimals. -/
private def num (n : Int32) : String := toString n.toInt

def message : Fault → String
  | emptyStack stack => "Attempted to pop from an empty " ++ stack.name ++ " stack."
  | pcOutside pc length =>
    "Invalid program counter: " ++ num pc ++ ", max expected: " ++ toString length
  | budgetExceeded executed =>
    "Too many instructions: " ++ toString executed.toNat ++ " executed without finishing."
  | unknownOpcode id => "Unknown opcode " ++ num id
  | unimplemented name id => "Unimplemented opcode " ++ name ++ " (" ++ num id ++ ")"
  | slotsFull => "Attempting to have more than 2 active entities of the same type."
  | callsTooDeep => "Call stack overflow: more than 50 frames."
  | notGranted p => "Required pointer " ++ p.shown ++ " is not granted."
  | notBound p => "Pointer " ++ p.shown ++ " has no bound entity."
  | noStringOperand pc => "Missing string operand at pc " ++ num pc ++ "."
  | branchOverflow offset pc => "Branch offset " ++ num offset ++ " overflows pc " ++ num pc ++ "."
  | noSwitchTable index => "Missing switch table " ++ num index ++ "."
  | badLocalIndex index => "Invalid local index " ++ num index ++ "."
  | localUnset sort index => sort.title ++ " local " ++ toString index ++ " is not set."
  | localOutside sort index => sort.title ++ " local " ++ toString index ++ " is out of range."
  | noScript id => "Script " ++ num id ++ " does not exist."
  | sameScriptId id => "Duplicate script id " ++ num id ++ "."
  | noEntry table id => table.entryName ++ " " ++ num id ++ " does not exist."
  | sameOpcode name => "Opcode " ++ name ++ " is registered twice."
  | noPlayer pid => "Player " ++ num pid ++ " is not in the world."
  | noNpc nid => "Npc " ++ num nid ++ " is not in the world."
  | noInventory pid inv => "Player " ++ num pid ++ " has no inventory " ++ num inv ++ "."
  | noLoc typeId coord => "Loc " ++ num typeId ++ " is not at " ++ coord.shown ++ "."
  | noObj typeId coord => "Obj " ++ num typeId ++ " is not at " ++ coord.shown ++ "."
  | wrongValue value type =>
    "Param value " ++ value.shown ++ " does not match its declared type " ++ type.title ++ "."
  | wrongEnum id input output readInput readOutput =>
    "Enum " ++ num id ++ " is " ++ num input ++ ":" ++ num output ++ " but was read as " ++
      num readInput ++ ":" ++ num readOutput ++ "."
  | badCharCode code => "Invalid char code " ++ num code ++ "."
  | divisionByZero => "Division by zero."
  | badBit index => "Bit " ++ num index ++ " is out of range."
  | badExponent exponent => "Invalid exponent " ++ num exponent ++ "."
  | badRoot exponent number => "Cannot take root " ++ num exponent ++ " of " ++ num number ++ "."
  | badQueue queue => "Invalid ai_queue: " ++ num queue
  | noColumn table column => "Db table " ++ num table ++ " has no column " ++ num column ++ "."
  | rowElsewhere row table => "Db row " ++ num row ++ " is not in table " ++ num table ++ "."
  | noQuery => "No db query is active."
  | notSuspended execution =>
    "Snapshot is only allowed while suspended, state is " ++ execution.name ++ "."
  | snapshotSchema found => "Unsupported snapshot schema \"" ++ found ++ "\"."
  | snapshotExecution execution =>
    "Snapshot execution state " ++ execution.name ++ " is not a suspension."
  | snapshotPc pc script => "Snapshot pc " ++ num pc ++ " is outside " ++ script ++ "."
  | raised message => message

/-- The message with the kind in front, as it is logged. -/
def headline (f : Fault) : String := f.kind.headed f.message

end Fault

end TickScript
