import TickScript.Command
import TickScript.Command.Failure
import TickScript.Files
import TickScript.SavedSession

/-
  Carrying out commands.

  A command takes a session to its next stop: the end of the script, or a dialog.  The events up to there
  are handed out and not saved, so that a chain of saved sessions tells every event once.
-/

namespace TickScript.Command

/-! ## From one stop to the next -/

/-- What there is to tell when a script stops. -/
structure Stop where
  execution : Execution
  events : List WorldEvent
  abort : Option AbortReport
  deriving DecidableEq

/-- The stop that a session comes to after its timed waits, and the session there. -/
def settle (s : Session) (maxWaits : Nat) : Except SessionError (Stop × Session) :=
  match s.settle maxWaits with
  | (s, .ok execution) =>
    let (events, s) := s.takeEvents
    .ok (⟨execution, events.toList, s.scene.invocation.abort⟩, s)
  | (_, .error e) => .error e

/-- The first stop of a script that is launched with a pack. -/
def firstStop (l : Launch) (p : Pack) (maxWaits : Nat) : Except SessionError (Stop × Session) := do
  let session ← Session.start p {
    entry := l.entry
    self := l.self
    active := l.active
    pointers := none
    args := l.args
    world := none
    budget := l.budget }
  settle session.step maxWaits

/-- Lets a waiting session go on: a dialog gets the answer, and a timed wait passes. -/
def goOn (s : Session) (lastInt : Option Int32) : Except SessionError Session :=
  if s.execution.isDialog then s.continueDialog lastInt else s.wait

/-- The next stop of a saved session. -/
def nextStop (p : Pack) (saved : SavedSession) (lastInt : Option Int32) (maxWaits : Nat) :
    Except SessionError (Stop × Session) := do
  let session ← Session.resume p saved.snapshot saved.budget
  settle (← goOn session lastInt) maxWaits

/-- What a command prints at a stop. -/
def Stop.lines (stop : Stop) (stateOut : Option String) : List String :=
  ["RESULT:OK", "EXECUTION:" ++ stop.execution.name] ++
    stop.events.map (fun e => "EVENT_JSON:" ++ toText e) ++
    stop.abort.toList.map (fun report => "ABORT_JSON:" ++ toText report) ++
    ["STATE_OUT:" ++ stateOut.getD "NONE"]

/-! ## Packs and saved sessions on files -/

section OnFiles

variable {m : Type → Type} [Monad m] [FileAccess m]

/-- An absolute path, relative ones being taken from the working directory. -/
def absolutePath (path : String) : m String := do
  if path.startsWith "/" then pure path
  else pure (Files.join (← FileAccess.workingDir) path)

/-- Reads the pack of a directory. -/
def loadPack (root : String) : ExceptT Failure m Pack := do
  match ← FileAccess.kind? (m := m) root with
  | none => throw (.packMissing root)
  | some .file => throw (.packNotDirectory root)
  | some .directory =>
    let files ← (Files.readDocuments (m := m) root).adapt fun
      | .unreadable path => .packUnreadable path
      | .noDocuments => .packWithoutDocuments root
    (Pack.ofFiles files).mapError Failure.session

/-- What stands before the directory in the name of a pack. -/
def packScheme : String := "pack-dir:"

/-- The directory that a pack's name tells. -/
def packDir? (id : String) : Option String :=
  if packScheme.toList.isPrefixOf id.toList then
    some (String.ofList (id.toList.drop packScheme.length))
  else none

/-- Reads the pack that a saved session names. -/
def loadPackOf (id : String) : ExceptT Failure m Pack := do
  match packDir? id with
  | none => throw (.unknownPackRef id)
  | some dir => loadPack (← absolutePath (m := m) dir)

/-- Reads a saved session. -/
def loadState (path : String) : ExceptT Failure m SavedSession := do
  if (← FileAccess.kind? (m := m) path).isNone then throw (.stateMissing path)
  match ← FileAccess.readText? (m := m) path with
  | none => throw (.stateUnreadable path)
  | some text =>
    match (ofText? text : Option SavedSession) with
    | none => throw (.stateInvalid path)
    | some saved =>
      if saved.schemaVersion ≠ SavedSession.schema then throw (.stateSchema saved.schemaVersion)
      pure saved

/-- Saves a session that waits for an answer. -/
def saveState (path : String) (saved : SavedSession) : ExceptT Failure m Unit := do
  if !(← FileAccess.writeText (m := m) path (toText saved)) then throw (.stateUnwritable path)

/-- Ends a command at a stop: the session is saved if it asks for an answer. -/
def endAt (stop : Stop) (session : Session) (stateOut packId entry : String) (budget : Option UInt32) :
    ExceptT Failure m (List String) := do
  if stop.execution.isDialog then
    let snapshot ← session.snapshot.mapError Failure.session
    saveState stateOut ⟨SavedSession.schema, packId, entry, budget, snapshot⟩
    pure (stop.lines (some stateOut))
  else pure (stop.lines none)

/-- Carries out a command.  The lines are for the standard output. -/
def execute : Command → ExceptT Failure m (List String)
  | .run launch maxWaits => do
    let pack ← loadPack (← absolutePath (m := m) launch.packDir)
    let (stop, _) ← (firstStop launch pack maxWaits).mapError Failure.session
    pure (stop.lines none)
  | .start launch maxWaits stateOut => do
    let root ← absolutePath (m := m) launch.packDir
    let pack ← loadPack root
    let (stop, session) ← (firstStop launch pack maxWaits).mapError Failure.session
    endAt stop session stateOut (packScheme ++ root) launch.entry launch.budget
  | .resume stateIn stateOut lastInt maxWaits => do
    let saved ← loadState stateIn
    let pack ← loadPackOf saved.packId
    let (stop, session) ← (nextStop pack saved lastInt maxWaits).mapError Failure.session
    endAt stop session stateOut saved.packId saved.entry saved.budget

/-! ## Whole command lines -/

/-- How a command line ends. -/
inductive Ending where
  | done (lines : List String)
  | failed (f : Failure)
  | refused (r : Refusal)
  deriving DecidableEq

/-- Carries out the command that arguments mean. -/
def runLine (args : List String) : m Ending := do
  match Command.read args with
  | .error r => pure (.refused r)
  | .ok command =>
    match ← (command.execute : ExceptT Failure m (List String)).run with
    | .ok lines => pure (.done lines)
    | .error f => pure (.failed f)

end OnFiles

namespace Ending

/-- The exit code. -/
def exitCode : Ending → UInt8
  | done _ => 0
  | failed _ => 1
  | refused .help => 0
  | refused .usage => 2

/-- How to call the program. -/
def usage : List String := [
  "Runs compiled script packs against a sandbox world",
  "",
  "Usage: run --pack-dir DIR --entry NAME [launch options] [--max-waits N]",
  "       agent start --pack-dir DIR --entry NAME --state-out FILE [launch options] [--max-waits N]",
  "       agent resume --state-in FILE --state-out FILE [--last-int N] [--max-waits N]",
  "",
  "Launch options: --self ENTITY, --active ENTITY ..., --arg VALUE ..., --budget N",
  "  ENTITY is player:PID, npc:NID:TYPE, loc:TYPE:LEVEL:X:Z:SHAPE:ANGLE or obj:TYPE:LEVEL:X:Z:COUNT.",
  "  VALUE is an int, or str:TEXT."]

/-- The lines for the standard output. -/
def output : Ending → List String
  | done lines => lines
  | failed f => f.lines
  | refused .help => usage
  | refused .usage => []

/-- The lines for the standard error. -/
def complaint : Ending → List String
  | refused .usage => usage
  | _ => []

end Ending

end TickScript.Command
