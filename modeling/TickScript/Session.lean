import TickScript.Pack
import TickScript.Snapshot

/-
  Sessions: one invocation driven in a world of its own.

  After each entry the script has ended or waits.  A timed wait is over when the world's clock has moved on;
  a dialog needs an answer.  Whatever does not fit the state that the script is in is refused, and then
  nothing changes.
-/

namespace TickScript

/-- A session under way. -/
structure Session where
  runner : Runner
  scene : Scene

/-- How a session starts. -/
structure SessionStart where
  entry : String
  self : Option Entity
  active : List Entity
  /-- The permissions; none named means all that the bound entities allow. -/
  pointers : Option Pointers
  args : List Value
  /-- The world, in place of the pack's. -/
  world : Option World
  budget : Option UInt32

/-- A waiting script and its world, in a form that can be stored. -/
structure SessionSnapshot where
  schemaVersion : String
  script : Snapshot
  world : World
  deriving DecidableEq

instance : JsonForm SessionSnapshot where
  toJson s := .obj [("schemaVersion", toJson s.schemaVersion), ("script", toJson s.script),
    ("world", toJson s.world)]
  ofJson? v := do
    let members ← v.record? ["schemaVersion", "script", "world"]
    pure {
      schemaVersion := ← Json.required "schemaVersion" members
      script := ← Json.required "script" members
      world := ← Json.required "world" members }

/-- The version of the form, which every session snapshot names. -/
def SessionSnapshot.schema : String := "lc-session-snapshot.v1"

namespace Session

/-! ## Starting and resuming -/

/-- A session that is bound to its script; nothing has run yet. -/
def start (p : Pack) (o : SessionStart) : Except SessionError Session := do
  let script ← p.resolveEntry o.entry
  let invocation ← (Invocation.start script o.self o.active (o.pointers.getD .none) o.args).mapError
    SessionError.fault
  let invocation := if o.pointers.isNone then invocation.grantBound else invocation
  pure ⟨p.runner o.budget, ⟨invocation, (o.world.or p.world).getD .empty, []⟩⟩

/-- The session of a snapshot, with the scripts of a pack. -/
def resume (p : Pack) (s : SessionSnapshot) (budget : Option UInt32) : Except SessionError Session := do
  if s.schemaVersion ≠ SessionSnapshot.schema then throw (.snapshotSchema s.schemaVersion)
  let invocation ← (s.script.restore p.library).mapError .fault
  pure ⟨p.runner budget, ⟨invocation, s.world, []⟩⟩

/-- The snapshot of a session that waits. -/
def snapshot (s : Session) : Except SessionError SessionSnapshot := do
  let script ← (Snapshot.capture s.scene.invocation).mapError .fault
  pure ⟨SessionSnapshot.schema, script, s.scene.world⟩

/-! ## Looking -/

def execution (s : Session) : Execution := s.scene.invocation.execution

def world (s : Session) : World := s.scene.world

def withWorld (s : Session) (world : World) : Session := { s with scene := { s.scene with world } }

/-- The events so far, and the session with its log of events emptied. -/
def takeEvents (s : Session) : Array WorldEvent × Session :=
  (s.world.events, s.withWorld s.world.clearEvents)

/-! ## Going on -/

/-- One entry. -/
def step (s : Session) : Session := { s with scene := s.runner.execute false false s.scene }

/-- The ticks that a timed wait lasts: those asked for, and at least one. -/
def waitTicks (i : Invocation) : Int32 := max (i.delay.getD 1) 1

/-- The scene after its timed wait. -/
def waited (s : Scene) : Scene :=
  let ticks := waitTicks s.invocation
  let world := s.world.advance ticks
  { s with world }.note .debug
    ("waited " ++ toString ticks.toInt ++ " ticks, clock=" ++ toString world.clock.toInt)

/-- Lets a timed wait pass, and enters again. -/
def wait (s : Session) : Except SessionError Session :=
  if s.execution.isTimedWait then .ok { s with scene := waited s.scene }.step
  else .error (.notWaiting s.execution)

/-- Delivers the answer to a dialog, and enters again. -/
def continueDialog (s : Session) (lastInt : Option Int32) : Except SessionError Session :=
  match s.execution, lastInt with
  | .pauseButton, _ => .ok s.step
  | .countDown, some n =>
    .ok { s with scene := { s.scene with invocation := { s.scene.invocation with lastInt := n } } }.step
  | .countDown, none => .error .lastIntMissing
  | e, _ => .error (.notWaiting e)

/-- Lets timed waits pass, at most so many, until the script has ended or asks for an answer.  The session
    that it comes to, and whether the waits sufficed. -/
def pass : Nat → Session → Session × Bool
  | left, s =>
    if !s.execution.isTimedWait then (s, true)
    else match left with
      | 0 => (s, false)
      | left + 1 => pass left { s with scene := waited s.scene }.step

/-- Lets timed waits pass until the script has ended or asks for an answer.  If it takes more than so many
    waits, the session stands where they led. -/
def settle (s : Session) (maxWaits : Nat) : Session × Except SessionError Execution :=
  let (s, settled) := pass maxWaits s
  (s, if settled then .ok s.execution else .error (.waitLimit maxWaits))

end Session

end TickScript
