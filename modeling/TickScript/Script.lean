import TickScript.Text.Split
import TickScript.Value

/-
  Compiled scripts.

  A script is a row of opcodes with an int and a string operand each, some counts of arguments and
  locals, and switch tables.  The compiler may attach metadata: a name, the source file and which source
  line each instruction comes from.  Positions are script ints, so they may be negative or past the end,
  and every look-up here answers for those too.
-/

namespace TickScript

/-- The position in a list that a script int means; a negative one means none. -/
def position? (n : Int32) : Option Nat := if n < 0 then none else some n.toNatClampNeg

/-- What the compiler notes about a script. -/
structure ScriptInfo where
  scriptName : String
  sourceFilePath : String
  /-- The key under which triggers find the script; -1 means that none does. -/
  lookupKey : Int32
  parameterTypes : List VarType
  /-- Where the instructions of each source line start; `lines` has the line numbers. -/
  pcs : Array Int32
  lines : Array Int32
  deriving DecidableEq

/-- A compiled script. -/
structure Script where
  id : Int32
  info : Option ScriptInfo
  intLocalCount : UInt64
  stringLocalCount : UInt64
  intArgCount : UInt64
  stringArgCount : UInt64
  opcodes : Array Int32
  intOperands : Array Int32
  stringOperands : Array (Option String)
  switchTables : Array (SortedMap Int32 Int32)
  deriving DecidableEq

/-! ## JSON forms -/

instance : JsonForm ScriptInfo where
  toJson i := .obj [
    ("scriptName", toJson i.scriptName),
    ("sourceFilePath", toJson i.sourceFilePath),
    ("lookupKey", toJson i.lookupKey),
    ("parameterTypes", toJson i.parameterTypes),
    ("pcs", toJson i.pcs),
    ("lines", toJson i.lines)]
  ofJson? v := do
    let members ← v.record?
      ["scriptName", "sourceFilePath", "lookupKey", "parameterTypes", "pcs", "lines"]
    pure {
      scriptName := ← Json.required "scriptName" members
      sourceFilePath := ← Json.required "sourceFilePath" members
      lookupKey := ← Json.defaulted "lookupKey" (-1) members
      parameterTypes := ← Json.defaulted "parameterTypes" [] members
      pcs := ← Json.defaulted "pcs" #[] members
      lines := ← Json.defaulted "lines" #[] members }

instance : JsonForm Script where
  toJson s := .obj [
    ("id", toJson s.id),
    ("info", toJson s.info),
    ("intLocalCount", toJson s.intLocalCount),
    ("stringLocalCount", toJson s.stringLocalCount),
    ("intArgCount", toJson s.intArgCount),
    ("stringArgCount", toJson s.stringArgCount),
    ("opcodes", toJson s.opcodes),
    ("intOperands", toJson s.intOperands),
    ("stringOperands", toJson s.stringOperands),
    ("switchTables", toJson s.switchTables)]
  ofJson? v := do
    let members ← v.record?
      ["id", "info", "intLocalCount", "stringLocalCount", "intArgCount", "stringArgCount", "opcodes",
       "intOperands", "stringOperands", "switchTables"]
    pure {
      id := ← Json.required "id" members
      info := ← Json.optional "info" members
      intLocalCount := ← Json.defaulted "intLocalCount" 0 members
      stringLocalCount := ← Json.defaulted "stringLocalCount" 0 members
      intArgCount := ← Json.defaulted "intArgCount" 0 members
      stringArgCount := ← Json.defaulted "stringArgCount" 0 members
      opcodes := ← Json.required "opcodes" members
      intOperands := ← Json.defaulted "intOperands" #[] members
      stringOperands := ← Json.defaulted "stringOperands" #[] members
      switchTables := ← Json.defaulted "switchTables" #[] members }

namespace Script

/-! ## Look-ups by position -/

/-- The number of instructions. -/
def length (s : Script) : Nat := s.opcodes.size

def opcode? (s : Script) (pc : Int32) : Option Int32 := do s.opcodes[← position? pc]?

/-- The int operand; one that is missing counts as zero, which also selects the primary slot. -/
def intOperand (s : Script) (pc : Int32) : Int32 := (do s.intOperands[← position? pc]?).getD 0

def stringOperand? (s : Script) (pc : Int32) : Option String := do
  (← s.stringOperands[← position? pc]?)

def switchTable? (s : Script) (index : Int32) : Option (SortedMap Int32 Int32) := do
  s.switchTables[← position? index]?

/-! ## Names and lines -/

/-- The name that stands for missing metadata. -/
def unknownName : String := "<unknown>"

def name (s : Script) : String := (s.info.map (·.scriptName)).getD unknownName

/-- What stands after the last slash, of either slant, of a path. -/
def lastComponent (path : String) : String := Text.afterLast (fun c => c = '/' || c = '\\') path

def fileName (s : Script) : String :=
  (s.info.map fun i => lastComponent i.sourceFilePath).getD unknownName

/-- Halves a stretch of `width` starts from `base` on until one is left, keeping to the half that still
    begins at or before `pc`. -/
def narrow (starts : Array Int32) (pc : Int32) (base width : Nat) : Nat :=
  if width ≤ 1 then base
  else
    let half := width / 2
    narrow starts pc (if starts.getD (base + half) 0 ≤ pc then base + half else base) (width - half)
termination_by width
decreasing_by omega

/-- How many of the ascending starts are at or before `pc`, by bisection. -/
def startsUpTo (starts : Array Int32) (pc : Int32) : Nat :=
  if starts.isEmpty then 0
  else
    let base := narrow starts pc 0 starts.size
    if starts.getD base 0 ≤ pc then base + 1 else base

/-- The source line of an instruction: that of the last start at or before it.  Before the first start
    the first line counts; a missing line is line zero. -/
def lineNumber (s : Script) (pc : Int32) : Int32 :=
  match s.info with
  | none => 0
  | some i => i.lines.getD (startsUpTo i.pcs pc - 1) 0

end Script

end TickScript
