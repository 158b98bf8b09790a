import TickScript.Arithmetic
import TickScript.Fault
import TickScript.Script

/-
  Invocations: one run of a script, from its start to its end, across all its waits.

  An invocation knows the script that it is in and how it got there, the two operand stacks, the locals,
  what it may touch and what it is bound to, and what it waits for.  Stacks are lists with the top first,
  and so are the frames of the calls that wait for the current script to return.
-/

namespace TickScript

/-! ## Parts -/

/-- A call that waits for its callee: where it will go on, and with which locals. -/
structure Frame where
  script : Script
  /-- The position of the call instruction. -/
  pc : Int32
  intLocals : List Int32
  stringLocals : List String
  deriving DecidableEq

/-- The two slots of a category of entity. -/
structure Slots (α : Type) where
  primary : Option α
  secondary : Option α
  deriving DecidableEq

namespace Slots

variable {α : Type}

def empty : Slots α := ⟨none, none⟩

def get (s : Slots α) : Slot → Option α
  | .primary => s.primary
  | .secondary => s.secondary

def set (s : Slots α) (slot : Slot) (a : Option α) : Slots α :=
  match slot with
  | .primary => { s with primary := a }
  | .secondary => { s with secondary := a }

/-- Binds the first free slot, and tells which it is. -/
def bind (s : Slots α) (a : α) : Except Fault (Slot × Slots α) :=
  if s.primary.isNone then .ok (.primary, s.set .primary (some a))
  else if s.secondary.isNone then .ok (.secondary, s.set .secondary (some a))
  else .error .slotsFull

/-- What the first slot that is bound is bound to. -/
def first (s : Slots α) : Option α := s.primary.or s.secondary

/-- How many slots are bound. -/
def count (s : Slots α) : Nat := s.primary.toList.length + s.secondary.toList.length

end Slots

/-- The slots in order, in an object of their own. -/
instance {α : Type} [JsonForm α] : JsonForm (Slots α) where
  toJson s := .obj [("slots", toJson [s.primary, s.secondary])]
  ofJson? v := do
    let members ← v.record? ["slots"]
    match (← Json.required "slots" members : List (Option α)) with
    | [a, b] => pure ⟨a, b⟩
    | _ => none

/-- A search of the database: the rows that it found, and how many of them were already taken.
    The table -1 means that there was no search. -/
structure DbQuery where
  table : Int32
  rows : List Int32
  cursor : UInt64
  deriving DecidableEq

def DbQuery.inactive : DbQuery := ⟨-1, [], 0⟩

/-- What is left of an invocation that failed. -/
structure AbortReport where
  kind : FaultKind
  message : String
  /-- The source file of the script that failed. -/
  file : String
  /-- The positions in the script that failed and in its callers, innermost first. -/
  backtrace : List String
  deriving DecidableEq

instance : JsonForm AbortReport where
  toJson r := .obj [("kind", toJson r.kind), ("message", toJson r.message),
    ("file", toJson r.file), ("backtrace", toJson r.backtrace)]
  ofJson? v := do
    let members ← v.record? ["kind", "message", "file", "backtrace"]
    pure {
      kind := ← Json.required "kind" members
      message := ← Json.required "message" members
      file := ← Json.required "file" members
      backtrace := ← Json.required "backtrace" members }

/-- The lines that tell people of the failure. -/
def AbortReport.lines (r : AbortReport) : List String :=
  ["script error: " ++ r.message, "file: " ++ r.file, "", "stack backtrace:"] ++
    r.backtrace.mapIdx fun i entry => "    " ++ toString (i + 1) ++ ": " ++ entry

/-! ## The invocation -/

/-- One run of a script. -/
structure Invocation where
  /-- The script that is executed at the moment. -/
  script : Script
  execution : Execution
  /-- The states in which it was entered, oldest first. -/
  history : List Execution
  /-- The position of the instruction executed last, -1 before the first. -/
  pc : Int32
  /-- The number of instructions executed since the last entry. -/
  opcount : UInt32
  /-- The callers, innermost first. -/
  frames : List Frame
  /-- The int stack, top first. -/
  ints : List Int32
  /-- The string stack, top first. -/
  strings : List String
  intLocals : List Int32
  stringLocals : List String
  pointers : Pointers
  /-- The entity that the script is about. -/
  self : Option Entity
  players : Slots PlayerRef
  npcs : Slots NpcRef
  locs : Slots Loc
  objs : Slots Obj
  /-- The answer to the last count dialog. -/
  lastInt : Int32
  /-- The ticks asked for by a timed wait. -/
  delay : Option Int32
  query : DbQuery
  abort : Option AbortReport
  /-- The script that was invoked, and its arguments, for starting anew. -/
  root : Script
  args : List Value
  deriving DecidableEq

namespace Invocation

/-- A list filled up to a length. -/
def filled {α : Type} (n : Nat) (a : α) (as : List α) : List α :=
  as ++ List.replicate (n - as.length) a

/-- The int locals with which a script starts: the int arguments and zeros up to the declared count. -/
def startInts (s : Script) (args : List Value) : List Int32 :=
  filled s.intLocalCount.toNat 0 (args.filterMap Value.asInt?)

/-- The string locals with which a script starts. -/
def startStrings (s : Script) (args : List Value) : List String :=
  filled s.stringLocalCount.toNat "" (args.filterMap Value.asText?)

/-- An invocation before its first instruction, bound to nothing. -/
def new (s : Script) (args : List Value) : Invocation where
  script := s
  execution := .ready
  history := []
  pc := -1
  opcount := 0
  frames := []
  ints := []
  strings := []
  intLocals := startInts s args
  stringLocals := startStrings s args
  pointers := .none
  self := none
  players := .empty
  npcs := .empty
  locs := .empty
  objs := .empty
  lastInt := 0
  delay := none
  query := .inactive
  abort := none
  root := s
  args := args

/-- Back to the start of the script that was invoked, with its arguments; what it is bound to, what it
    may touch and what was answered stay. -/
def reset (i : Invocation) : Invocation :=
  { i with
    script := i.root
    pc := -1
    opcount := 0
    frames := []
    ints := []
    strings := []
    intLocals := startInts i.root i.args
    stringLocals := startStrings i.root i.args
    delay := none
    query := .inactive
    abort := none }

/-! ## Bindings and permissions -/

/-- Binds an entity to the first free slot of its category.  The permission is granted separately. -/
def bind (i : Invocation) : Entity → Except Fault (Slot × Invocation)
  | .player p => (i.players.bind p).map fun (slot, players) => (slot, { i with players })
  | .npc n => (i.npcs.bind n).map fun (slot, npcs) => (slot, { i with npcs })
  | .loc l => (i.locs.bind l).map fun (slot, locs) => (slot, { i with locs })
  | .obj o => (i.objs.bind o).map fun (slot, objs) => (slot, { i with objs })

def bindAll (i : Invocation) (entities : List Entity) : Except Fault Invocation :=
  entities.foldlM (fun i e => (i.bind e).map (·.2)) i

/-- An invocation of a script about `self`, with further active entities. -/
def start (s : Script) (self : Option Entity) (active : List Entity) (pointers : Pointers)
    (args : List Value) : Except Fault Invocation :=
  { new s args with self, pointers := Pointers.none.union pointers }.bindAll (self.toList ++ active)

def grant (i : Invocation) (p : Pointers) : Invocation := { i with pointers := i.pointers.union p }

def revoke (i : Invocation) (p : Pointers) : Invocation :=
  { i with pointers := i.pointers.without p }

/-- All permissions that the bound slots allow: for each category as many as slots are bound. -/
def boundPointers (i : Invocation) : List Pointers :=
  [Pointers.activePlayer.union .protectedPlayer,
    Pointers.activePlayer2.union .protectedPlayer2].take i.players.count ++
  [Pointers.activeNpc, .activeNpc2].take i.npcs.count ++
  [Pointers.activeLoc, .activeLoc2].take i.locs.count ++
  [Pointers.activeObj, .activeObj2].take i.objs.count

/-- Grants what the bound slots allow. -/
def grantBound (i : Invocation) : Invocation := i.boundPointers.foldl grant i

/-! ## The current instruction -/

def intOperand (i : Invocation) : Int32 := i.script.intOperand i.pc

/-- The slot that the current instruction selects. -/
def selectedSlot (i : Invocation) : Slot := .ofOperand i.intOperand

/-! ## Calls -/

/-- The greatest number of calls that may wait. -/
def maxFrames : Nat := 50

/-- Enters a script; the current one waits for it. -/
def call (i : Invocation) (callee : Script) (args : List Value) : Except Fault Invocation :=
  if maxFrames ≤ i.frames.length then .error .callsTooDeep
  else .ok { i with
    script := callee
    pc := -1
    intLocals := startInts callee args
    stringLocals := startStrings callee args
    frames := ⟨i.script, i.pc, i.intLocals, i.stringLocals⟩ :: i.frames }

/-- Goes on in another script; neither the current one nor its callers come back. -/
def jump (i : Invocation) (target : Script) (args : List Value) : Invocation :=
  { i with
    script := target
    pc := -1
    intLocals := startInts target args
    stringLocals := startStrings target args
    frames := [] }

/-- Goes back to the caller, if there is one. -/
def leave? (i : Invocation) : Option Invocation :=
  match i.frames with
  | [] => none
  | f :: frames => some { i with
      script := f.script
      pc := f.pc
      intLocals := f.intLocals
      stringLocals := f.stringLocals
      frames }

/-- Stops to wait. -/
def suspend (i : Invocation) (execution : Execution) (delay : Option Int32) : Invocation :=
  { i with execution, delay }

end Invocation

end TickScript
