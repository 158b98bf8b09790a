import TickScript.Opcode
import TickScript.Scene

/-
  Operations: what the handlers of instructions are made of.

  An operation reads the environment, changes the scene and may fail.  A failure keeps the changes made
  before it: operands that were taken stay taken.  Handlers touch the scene through the few operations
  below and in no other way, so that a property which each of these has, and which sequencing keeps, is a
  property of every handler.
-/

namespace TickScript

/-- An operation with a result. -/
abbrev Op (α : Type) : Type := ReaderT Env (EStateM Fault Scene) α

/-- What an instruction does. -/
abbrev Handler : Type := Op Unit

namespace Op

variable {α : Type}

/-! ## The scene as a whole -/

/-- Fails. -/
def fail (f : Fault) : Op α := fun _ s => .error f s

/-- A result that may be missing, and the fault that this would be. -/
def orFail (f : Fault) : Option α → Op α
  | some a => pure a
  | none => fail f

/-- Something that the invocation tells. -/
@[inline] def ask (f : Invocation → α) : Op α := fun _ s => .ok (f s.invocation) s

/-- Changes the invocation. -/
@[inline] def update (f : Invocation → Invocation) : Op Unit :=
  fun _ s => .ok () { s with invocation := f s.invocation }

/-- Changes the invocation, or fails and leaves it. -/
def tryUpdate (f : Invocation → Except Fault Invocation) : Op Unit := fun _ s =>
  match f s.invocation with
  | .ok i => .ok () { s with invocation := i }
  | .error e => .error e s

/-- Something that the world tells. -/
def observe (f : World → Except Fault α) : Op α := fun _ s =>
  match f s.world with
  | .ok a => .ok a s
  | .error e => .error e s

/-- Changes the world, or fails and leaves it. -/
def effect (f : World → Except Fault World) : Op Unit := fun _ s =>
  match f s.world with
  | .ok w => .ok () { s with world := w }
  | .error e => .error e s

/-- A random number below the bound. -/
def random (bound : Int32) : Op Int32 := fun _ s =>
  let (n, world) := s.world.random bound
  .ok n { s with world }

/-- Something in the library. -/
def fromLibrary (f : Library → Except Fault α) : Op α := fun env s =>
  match f env.library with
  | .ok a => .ok a s
  | .error e => .error e s

/-- Something in the config. -/
def fromConfig (f : Config → Except Fault α) : Op α := fun env s =>
  match f env.config with
  | .ok a => .ok a s
  | .error e => .error e s

/-- Makes a remark. -/
def note (level : LogLevel) (text : String) : Op Unit := fun _ s => .ok () (s.note level text)

/-! ## The stacks -/

def pushInt (n : Int32) : Op Unit := update fun i => { i with ints := n :: i.ints }

def pushString (t : String) : Op Unit := update fun i => { i with strings := t :: i.strings }

/-- Pushes onto the stack that the value lives on. -/
def push : Value → Op Unit
  | .int n => pushInt n
  | .text t => pushString t

def pushBool (b : Bool) : Op Unit := pushInt (Arithmetic.ofBool b)

/-- Takes from the int stack what `take` finds on top of it, all or nothing. -/
def takeInts (take : List Int32 → Option (α × List Int32)) : Op α := fun _ s =>
  match take s.invocation.ints with
  | some (a, rest) => .ok a { s with invocation := { s.invocation with ints := rest } }
  | none => .error (.emptyStack .int) s

/-- Takes from the string stack what `take` finds on top of it, all or nothing. -/
def takeStrings (take : List String → Option (α × List String)) : Op α := fun _ s =>
  match take s.invocation.strings with
  | some (a, rest) => .ok a { s with invocation := { s.invocation with strings := rest } }
  | none => .error (.emptyStack .string) s

def popInt : Op Int32 := takeInts fun
  | a :: rest => some (a, rest)
  | _ => none

/-- The two topmost ints in the order in which they were pushed, and likewise below. -/
def popInt2 : Op (Int32 × Int32) := takeInts fun
  | b :: a :: rest => some ((a, b), rest)
  | _ => none

def popInt3 : Op (Int32 × Int32 × Int32) := takeInts fun
  | c :: b :: a :: rest => some ((a, b, c), rest)
  | _ => none

def popInt4 : Op (Int32 × Int32 × Int32 × Int32) := takeInts fun
  | d :: c :: b :: a :: rest => some ((a, b, c, d), rest)
  | _ => none

def popInt5 : Op (Int32 × Int32 × Int32 × Int32 × Int32) := takeInts fun
  | e :: d :: c :: b :: a :: rest => some ((a, b, c, d, e), rest)
  | _ => none

def popString : Op String := takeStrings fun
  | t :: rest => some (t, rest)
  | _ => none

/-- The `n` topmost items of a stack in the order in which they were pushed, and what is below. -/
def splitTop? {α : Type} (n : Nat) (stack : List α) : Option (List α × List α) :=
  go [] n stack
where
  go (taken : List α) : Nat → List α → Option (List α × List α)
    | 0, rest => some (taken, rest)
    | _ + 1, [] => none
    | n + 1, a :: rest => go (a :: taken) n rest

def popInts (n : Nat) : Op (List Int32) := takeInts (splitTop? n)

def popStrings (n : Nat) : Op (List String) := takeStrings (splitTop? n)

def popCoord : Op Coord := do pure (.ofScriptInt (← popInt))

/-- Pushes a value that a table declares to be of a type, if it is. -/
def pushTyped (type : VarType) (value : Value) : Op Unit :=
  if type.admits value then push value else fail (.wrongValue value type)

/-- Pushes a text, or the word for a missing one. -/
def pushName (name : Option String) : Op Unit := pushString (name.getD "null")

/-! ## The current instruction -/

def intOperand : Op Int32 := ask (·.intOperand)

def stringOperand : Op String := do
  let (operand, pc) ← ask fun i => (i.script.stringOperand? i.pc, i.pc)
  orFail (.noStringOperand pc) operand

def selectedSlot : Op Slot := ask (·.selectedSlot)

/-- The handler of an instruction that exists in name only. -/
def unimplemented : Handler := do
  let id ← ask fun i => (i.script.opcode? i.pc).getD (-1)
  fail (.unimplemented (((Opcode.ofId? id).map (·.name)).getD "?") id)

/-! ## Bound entities -/

/-- What a slot is bound to, for an invocation that has the permission. -/
def require (pointer : Pointers) (slot : Invocation → Option α) : Op α := do
  if ← ask (·.pointers.includes pointer) then
    orFail (.notBound pointer) (← ask slot)
  else fail (.notGranted pointer)

def requirePlayerAt (slot : Slot) : Op PlayerRef :=
  require (.player slot) (·.players.get slot)

/-- The player of a slot, for changing what belongs to the player. -/
def requireProtectedPlayerAt (slot : Slot) : Op PlayerRef :=
  require (.protectedAccess slot) (·.players.get slot)

def requireNpcAt (slot : Slot) : Op NpcRef := require (.npc slot) (·.npcs.get slot)

def requirePlayer : Op PlayerRef := do requirePlayerAt (← selectedSlot)

def requireProtectedPlayer : Op PlayerRef := do requireProtectedPlayerAt (← selectedSlot)

def requireNpc : Op NpcRef := do requireNpcAt (← selectedSlot)

def requireLoc : Op Loc := do
  let slot ← selectedSlot
  require (.loc slot) (·.locs.get slot)

def requireObj : Op Obj := do
  let slot ← selectedSlot
  require (.obj slot) (·.objs.get slot)

/-- The player to whom an effect is credited: the first that is bound, permitted or not. -/
def creditedPlayer : Op (Option Int32) := ask fun i => i.players.first.map (·.pid)

/-! ## Control -/

/-- Moves on by a branch offset. -/
def branchBy (offset : Int32) : Op Unit :=
  tryUpdate fun i =>
    match Arithmetic.checkedAdd? i.pc offset with
    | some pc => .ok { i with pc }
    | none => .error (.branchOverflow offset i.pc)

/-- Stops to wait. -/
def suspend (execution : Execution) (delay : Option Int32) : Op Unit :=
  update (·.suspend execution delay)

/-- Stops to wait for so many ticks, and one more for the tick that is under way. -/
def suspendFor (execution : Execution) (ticks : Int32) : Op Unit :=
  suspend execution (some (Arithmetic.saturatingAdd ticks 1))

/-- Enters a script. -/
def call (callee : Script) (args : List Value) : Op Unit := do
  tryUpdate (·.call callee args)
  let depth ← ask (·.frames.length)
  note .trace ("gosub " ++ callee.name ++ " (fp=" ++ toString depth ++ ")")

end Op

end TickScript
