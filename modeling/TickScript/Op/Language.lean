import TickScript.Op

/-
  The instructions of the language itself: constants, variables, locals, branches and calls.
-/

namespace TickScript.Op.Language

/-! ## Constants and discards -/

def pushConstantInt : Handler := do pushInt (← intOperand)

def pushConstantString : Handler := do pushString (← stringOperand)

def popIntDiscard : Handler := do let _ ← popInt

def popStringDiscard : Handler := do let _ ← popString

/-! ## Variables of players and npcs -/

/-- The variable that the operand names, in its low half, and the slot, in the bit above. -/
def varOperand : Op (Int32 × Slot) := do
  let operand ← intOperand
  pure (operand &&& 0xffff, .ofOperand ((operand >>> 16) &&& 1))

def pushVarp : Handler := do
  let (var, slot) ← varOperand
  let player ← requirePlayerAt slot
  pushInt (← observe (·.varp player.pid var))

/-- Permission is checked before the value is taken. -/
def popVarp : Handler := do
  let (var, slot) ← varOperand
  let player ← requireProtectedPlayerAt slot
  let value ← popInt
  effect (·.setVarp player.pid var value)

def pushVarn : Handler := do
  let (var, slot) ← varOperand
  let npc ← requireNpcAt slot
  pushInt (← observe (·.varn npc.nid var))

def popVarn : Handler := do
  let (var, slot) ← varOperand
  let npc ← requireNpcAt slot
  let value ← popInt
  effect (·.setVarn npc.nid var value)

/-! ## Locals -/

/-- The operand as a position or a count. -/
def index : Op Nat := do
  let operand ← intOperand
  orFail (.badLocalIndex operand) (position? operand)

def pushIntLocal : Handler := do
  let index ← index
  pushInt (← orFail (.localUnset .int index) (← ask (·.intLocals[index]?)))

def popIntLocal : Handler := do
  let index ← index
  let value ← popInt
  tryUpdate fun i =>
    if index < i.intLocals.length then .ok { i with intLocals := i.intLocals.set index value }
    else .error (.localOutside .int index)

def pushStringLocal : Handler := do
  let index ← index
  pushString (← orFail (.localUnset .string index) (← ask (·.stringLocals[index]?)))

def popStringLocal : Handler := do
  let index ← index
  let value ← popString
  tryUpdate fun i =>
    if index < i.stringLocals.length then
      .ok { i with stringLocals := i.stringLocals.set index value }
    else .error (.localOutside .string index)

/-- Joins as many strings as the operand says. -/
def joinString : Handler := do
  let parts ← popStrings (← index)
  pushString (String.join parts)

/-! ## Branches -/

def branch : Handler := do branchBy (← intOperand)

/-- Compares the two topmost ints and moves on by the operand if they pass. -/
def branchIf (taken : Int32 → Int32 → Bool) : Handler := do
  let b ← popInt
  let a ← popInt
  if taken a b then branch

def switch : Handler := do
  let key ← popInt
  let index ← intOperand
  let table ← orFail (.noSwitchTable index) (← ask (·.script.switchTable? index))
  match table.get? key with
  | some offset => branchBy offset
  | none => pure ()

/-! ## Calls -/

/-- The script that the operand names. -/
def callee : Op Script := do
  let id ← intOperand
  fromLibrary (·.require id)

/-- The arguments that a script declares: its strings are on top of one stack and its ints on top of the
    other. -/
def popArguments (s : Script) : Op (List Value) := do
  let strings ← popStrings s.stringArgCount.toNat
  let ints ← popInts s.intArgCount.toNat
  pure (ints.map .int ++ strings.map .text)

def gosub : Handler := do call (← callee) []

def gosubWithParams : Handler := do
  let target ← callee
  let args ← popArguments target
  call target args

def jump : Handler := do
  let target ← callee
  update (·.jump target [])

def jumpWithParams : Handler := do
  let target ← callee
  let args ← popArguments target
  update (·.jump target args)

/-- Goes back to the caller; without one the script is finished. -/
def leave : Handler := update fun i => i.leave?.getD { i with execution := .finished }

def table : List (Opcode × Handler) := [
  (.pushConstantInt, pushConstantInt),
  (.pushVarp, pushVarp),
  (.popVarp, popVarp),
  (.pushConstantString, pushConstantString),
  (.pushVarn, pushVarn),
  (.popVarn, popVarn),
  (.branch, branch),
  (.branchNot, branchIf fun a b => a ≠ b),
  (.branchEquals, branchIf fun a b => a = b),
  (.branchLessThan, branchIf fun a b => a < b),
  (.branchGreaterThan, branchIf fun a b => b < a),
  (.leave, leave),
  (.gosub, gosub),
  (.jump, jump),
  (.switch, switch),
  (.branchLessThanOrEquals, branchIf fun a b => a ≤ b),
  (.branchGreaterThanOrEquals, branchIf fun a b => b ≤ a),
  (.pushIntLocal, pushIntLocal),
  (.popIntLocal, popIntLocal),
  (.pushStringLocal, pushStringLocal),
  (.popStringLocal, popStringLocal),
  (.joinString, joinString),
  (.popIntDiscard, popIntDiscard),
  (.popStringDiscard, popStringDiscard),
  (.gosubWithParams, gosubWithParams),
  (.jumpWithParams, jumpWithParams)]

end TickScript.Op.Language
