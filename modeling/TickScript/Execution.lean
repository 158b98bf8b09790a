import TickScript.Json.Form

/-
  How far an invocation of a script has come.

  A run ends, or stops to wait.  The timed waits go on by themselves at a later tick; the two dialogs
  need an answer from outside first.
-/

namespace TickScript

/-- The states of an invocation. -/
inductive Execution where
  /-- Bound to its script, nothing executed yet. -/
  | ready
  | running
  | finished
  | aborted
  /-- Waits with the player for some ticks. -/
  | suspended
  /-- Waits for a button. -/
  | pauseButton
  /-- Waits for a number. -/
  | countDown
  /-- Waits with the npc for some ticks. -/
  | npcSuspended
  /-- Waits with the world for some ticks. -/
  | worldSuspended
  deriving DecidableEq, Inhabited

namespace Execution

def all : List Execution :=
  [ready, running, finished, aborted, suspended, pauseButton, countDown, npcSuspended, worldSuspended]

/-- Nothing happens any more unless the invocation is reset. -/
def isTerminal : Execution → Bool
  | finished | aborted => true
  | _ => false

/-- Waits for ticks, so that a later tick alone lets it go on. -/
def isTimedWait : Execution → Bool
  | suspended | npcSuspended | worldSuspended => true
  | _ => false

/-- Waits for an answer. -/
def isDialog : Execution → Bool
  | pauseButton | countDown => true
  | _ => false

/-- Waits for anything. -/
def isSuspended (e : Execution) : Bool := e.isTimedWait || e.isDialog

/-- The name in messages. -/
def name : Execution → String
  | ready => "READY"
  | running => "RUNNING"
  | finished => "FINISHED"
  | aborted => "ABORTED"
  | suspended => "SUSPENDED"
  | pauseButton => "PAUSEBUTTON"
  | countDown => "COUNTDOWN"
  | npcSuspended => "NPC_SUSPENDED"
  | worldSuspended => "WORLD_SUSPENDED"

/-- The name in JSON documents. -/
def key : Execution → String
  | ready => "ready"
  | running => "running"
  | finished => "finished"
  | aborted => "aborted"
  | suspended => "suspended"
  | pauseButton => "pauseButton"
  | countDown => "countDown"
  | npcSuspended => "npcSuspended"
  | worldSuspended => "worldSuspended"

/-- The name in the report of a failed expectation. -/
def title : Execution → String
  | ready => "Ready"
  | running => "Running"
  | finished => "Finished"
  | aborted => "Aborted"
  | suspended => "Suspended"
  | pauseButton => "PauseButton"
  | countDown => "CountDown"
  | npcSuspended => "NpcSuspended"
  | worldSuspended => "WorldSuspended"

end Execution

instance : JsonForm Execution where
  toJson e := .str e.key
  ofJson? v := do
    let name ← v.name?
    Execution.all.find? (·.key = name)

end TickScript
