import TickScript.Files
import TickScript.Session

/-
  Test cases: a script with the answers that a player gives, and what should come of it.

  A case is run against a pack.  Whenever the script stops at a dialog the next action answers it; timed
  waits pass by themselves.  The run is good if the script ends with every action used up, and the case
  passes if moreover it ended in the expected state with exactly the expected events.
-/

namespace TickScript

/-- The player's answer to a dialog. -/
inductive TestAction where
  | pauseButton
  | lastInt (value : Int32)
  deriving DecidableEq

namespace TestAction

/-- The name in JSON documents and in messages. -/
def kind : TestAction → String
  | pauseButton => "pauseButton"
  | lastInt _ => "lastInt"

/-- Whether the action answers a script that stopped like this. -/
def answers : TestAction → Execution → Bool
  | pauseButton, .pauseButton => true
  | lastInt _, .countDown => true
  | _, _ => false

/-- The number that the action enters. -/
def value? : TestAction → Option Int32
  | pauseButton => none
  | lastInt value => some value

end TestAction

/-- A script, the answers to its dialogs, and what should come of it. -/
structure TestCase where
  schemaVersion : String
  entry : String
  self : Option Entity
  active : List Entity
  args : List Value
  actions : List TestAction
  expectedExecution : Execution
  expectedEvents : List WorldEvent
  deriving DecidableEq

/-! ## JSON forms -/

instance : JsonForm TestAction where
  toJson a :=
    match a with
    | .pauseButton => .obj [("kind", .str a.kind)]
    | .lastInt value => .obj [("kind", .str a.kind), ("value", toJson value)]
  ofJson? v := do
    let (kind, record) ← v.tagged?
    match kind with
    | "pauseButton" => some .pauseButton
    | "lastInt" =>
      let members ← record.record? ["value"]
      pure (.lastInt (← Json.required "value" members))
    | _ => none

instance : JsonForm TestCase where
  toJson c := .obj [
    ("schemaVersion", toJson c.schemaVersion),
    ("entryScript", toJson c.entry),
    ("self", toJson c.self),
    ("active", toJson c.active),
    ("args", toJson c.args),
    ("actions", toJson c.actions),
    ("expectedExecution", toJson c.expectedExecution),
    ("expectedEvents", toJson c.expectedEvents)]
  ofJson? v := do
    let members ← v.record? ["schemaVersion", "entryScript", "self", "active", "args", "actions",
      "expectedExecution", "expectedEvents"]
    pure {
      schemaVersion := ← Json.required "schemaVersion" members
      entry := ← Json.required "entryScript" members
      self := ← Json.optional "self" members
      active := ← Json.defaulted "active" [] members
      args := ← Json.defaulted "args" [] members
      actions := ← Json.defaulted "actions" [] members
      expectedExecution := ← Json.defaulted "expectedExecution" .finished members
      expectedEvents := ← Json.defaulted "expectedEvents" [] members }

/-! ## What can go wrong -/

/-- Why a case cannot be run, or does not pass. -/
inductive CaseError where
  /-- A file is not there, or is not a text. -/
  | unreadable (path : String)
  /-- The text is no test case. -/
  | invalid (path : String)
  | schema (found : String)
  | noDocuments (dir : String)
  | session (e : SessionError)
  /-- The script stopped at a dialog with all actions used up. -/
  | missingAction (used : Nat) (execution : Execution)
  | wrongAction (used : Nat) (execution : Execution) (action : TestAction)
  /-- The script ended before all actions were used. -/
  | unusedActions (used total : Nat)
  | tooManySteps (limit : Nat)
  | wrongExecution (expected actual : Execution)
  | wrongEventCount (expected : Nat) (observed : List WorldEvent)
  | wrongEvent (index : Nat) (expected actual : WorldEvent)
  deriving DecidableEq

namespace TestCase

/-- The version of the form, which every test case names. -/
def schema : String := "lc-tool-case.v1"

end TestCase

def CaseError.message : CaseError → String
  | unreadable path => "Failed to read file " ++ path ++ "."
  | invalid path => "Failed to parse testcase " ++ path ++ "."
  | schema found =>
    "Invalid testcase schema version \"" ++ found ++ "\", expected \"" ++ TestCase.schema ++ "\"."
  | noDocuments dir => "No .json files under " ++ dir ++ "."
  | session e => "Pack error: " ++ e.message
  | missingAction used execution =>
    "Action missing at wait " ++ toString used ++ ": script is " ++ execution.name ++ "."
  | wrongAction used execution action =>
    "Action kind mismatch at wait " ++ toString used ++ ": script is " ++ execution.name ++ ", got " ++
      action.kind ++ "."
  | unusedActions used total =>
    "Unused actions: used " ++ toString used ++ " of " ++ toString total ++ "."
  | tooManySteps limit => "Guard exceeded: max_steps=" ++ toString limit ++ "."
  | wrongExecution expected actual =>
    "Expected execution " ++ expected.title ++ ", actual " ++ actual.title ++ "."
  | wrongEventCount expected observed =>
    "Expected event count " ++ toString expected ++ ", actual " ++ toString observed.length ++
      ". observed=" ++ (toJson observed).indented
  | wrongEvent index expected actual =>
    "Event mismatch at index " ++ toString index ++ ". expected=" ++ toText expected ++ " actual=" ++
      toText actual

namespace TestCase

/-! ## Running -/

/-- A run of a case under way: the session, and how many actions it has used. -/
structure Progress where
  session : Session
  used : Nat

/-- What came of a run. -/
structure Report where
  execution : Execution
  events : List WorldEvent
  usedActions : Nat
  /-- How often the script was entered. -/
  steps : Nat
  deriving DecidableEq

/-- How many times a run may enter its script. -/
def maxSteps : Nat := 5000

/-- A session for the case; nothing has run yet. -/
def begin (c : TestCase) (p : Pack) : Except SessionError Session :=
  Session.start p {
    entry := c.entry
    self := c.self
    active := c.active
    pointers := none
    args := c.args
    world := none
    budget := none }

/-- Answers a dialog by the next action. -/
def answer (c : TestCase) (r : Progress) : Except CaseError Progress :=
  let execution := r.session.execution
  match c.actions[r.used]? with
  | none => .error (.missingAction r.used execution)
  | some action =>
    if action.answers execution then do
      let session ← (r.session.continueDialog action.value?).mapError .session
      pure ⟨session, r.used + 1⟩
    else .error (.wrongAction r.used execution action)

/-- Lets a script that has not ended go on from where it stopped. -/
def goOn (c : TestCase) (r : Progress) : Except CaseError Progress :=
  if r.session.execution.isDialog then c.answer r
  else if r.session.execution.isTimedWait then do
    pure { r with session := ← r.session.wait.mapError .session }
  else .ok { r with session := r.session.step }

/-- The report of a run whose script has ended, provided that no action is left. -/
def report (c : TestCase) (r : Progress) (steps : Nat) : Except CaseError Report :=
  if r.used = c.actions.length then
    .ok ⟨r.session.execution, r.session.world.events.toList, r.used, steps⟩
  else .error (.unusedActions r.used c.actions.length)

/-- Follows a script that has been entered `steps` times to its end, for at most so many entries more. -/
def follow (c : TestCase) : Nat → Nat → Progress → Except CaseError Report
  | 0, _, _ => .error (.tooManySteps maxSteps)
  | left + 1, steps, r =>
    if r.session.execution.isTerminal then c.report r steps
    else do c.follow left (steps + 1) (← c.goOn r)

/-- Runs the case with a pack. -/
def run (c : TestCase) (p : Pack) : Except CaseError Report := do
  let session ← (c.begin p).mapError .session
  c.follow maxSteps 1 ⟨session.step, 0⟩

/-! ## Judging -/

/-- The first event that is not the expected one. -/
def firstMismatch : Nat → List WorldEvent → List WorldEvent → Option (Nat × WorldEvent × WorldEvent)
  | index, e :: expected, a :: actual =>
    if e = a then firstMismatch (index + 1) expected actual else some (index, e, a)
  | _, _, _ => none

/-- Whether a report is as the case expects it. -/
def check (c : TestCase) (r : Report) : Except CaseError Unit :=
  if r.execution ≠ c.expectedExecution then
    .error (.wrongExecution c.expectedExecution r.execution)
  else if r.events.length ≠ c.expectedEvents.length then
    .error (.wrongEventCount c.expectedEvents.length r.events)
  else match firstMismatch 0 c.expectedEvents r.events with
    | some (index, expected, actual) => .error (.wrongEvent index expected actual)
    | none => .ok ()

/-! ## On files -/

/-- The case that a text stands for. -/
def ofText (path text : String) : Except CaseError TestCase :=
  match (ofText? text : Option TestCase) with
  | none => .error (.invalid path)
  | some c => if c.schemaVersion = schema then .ok c else .error (.schema c.schemaVersion)

section OnFiles

variable {m : Type → Type} [Monad m] [FileAccess m]

/-- Reads a case from a file. -/
def read (path : String) : ExceptT CaseError m TestCase := do
  match ← FileAccess.readText? (m := m) path with
  | some text => ofText path text
  | none => throw (.unreadable path)

/-- The files of a pack, read from a directory. -/
def readPack (dir : String) : ExceptT CaseError m (SortedMap String String) :=
  (Files.readDocuments dir).adapt fun
    | .unreadable path => .unreadable path
    | .noDocuments => .noDocuments dir

/-- Runs the case with the pack of a directory. -/
def runIn (c : TestCase) (dir : String) : ExceptT CaseError m Report := do
  let pack ← (Pack.ofFiles (← readPack dir)).mapError CaseError.session
  c.run pack

/-- Reads a case, runs it with the pack of a directory, and judges it. -/
def assertIn (dir path : String) : ExceptT CaseError m Unit := do
  let c ← read path
  c.check (← c.runIn dir)

end OnFiles

end TestCase

end TickScript
