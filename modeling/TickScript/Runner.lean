import TickScript.Op.Standard

/-
  Running a script: from one entry to the next stop.

  `execute` enters an invocation and dispatches instructions until it is no longer running.  The loop
  recurs on the number of instructions that may still be executed, so it is total whatever the scripts do.
  A fault ends the run: the invocation is aborted, and a report goes to the player whom the script is
  about, or to the log.
-/

namespace TickScript

/-- What a script runs with. -/
structure Runner where
  library : Library
  config : Config
  registry : Registry Handler
  /-- The number of instructions that one entry may execute. -/
  budget : UInt32

namespace Runner

/-- The budget of a runner for which none is named. -/
def defaultBudget : UInt32 := 500000

/-- A runner with the standard registry. -/
def standard (library : Library) (config : Config) (budget : Option UInt32) : Runner :=
  ⟨library, config, Op.standard, budget.getD defaultBudget⟩

def env (r : Runner) : Env := ⟨r.library, r.config⟩

/-! ## One instruction -/

/-- Calls the handler of an instruction. -/
def dispatch (r : Runner) (opcode : Int32) : Op Unit :=
  match r.registry.handler? opcode with
  | some handler => handler
  | none => .fail (.unknownOpcode opcode)

/-- The scene with the next instruction counted and made the current one. -/
def advance (s : Scene) : Scene :=
  { s with invocation := { s.invocation with
      opcount := s.invocation.opcount + 1
      pc := s.invocation.pc + 1 } }

/-- Executes the next instruction; there may be none left. -/
def step (r : Runner) (s : Scene) : EStateM.Result Fault Scene Unit :=
  let s := advance s
  match s.invocation.script.opcode? s.invocation.pc with
  | some opcode => r.dispatch opcode r.env s
  | none => .error (.pcOutside s.invocation.pc s.invocation.script.length) s

/-- Whether the position is one from which a script of that length can go on. -/
def inRange (pc : Int32) (length : Nat) : Bool := -1 ≤ pc && pc.toInt < length

/-- Executes instructions until the invocation stops running, at most so many. -/
def loop (r : Runner) : Nat → Scene → EStateM.Result Fault Scene Unit
  | left, s =>
    let i := s.invocation
    if i.execution ≠ .running then .ok () s
    else if !inRange i.pc i.script.length then .error (.pcOutside i.pc i.script.length) s
    else match left with
      | 0 => .error (.budgetExceeded i.opcount) s
      | left + 1 =>
        match r.step s with
        | .ok () s => loop r left s
        | .error f s => .error f s

/-! ## The report of a failed run -/

/-- A position as it appears in a backtrace. -/
def traceEntry (script : Script) (pc : Int32) : String :=
  script.name ++ " - " ++ script.fileName ++ ":" ++ toString (script.lineNumber pc).toInt

/-- The report of a fault in an invocation. -/
def report (i : Invocation) (f : Fault) : AbortReport where
  kind := f.kind
  message := f.message
  file := i.script.fileName
  backtrace := traceEntry i.script i.pc :: i.frames.map fun frame => traceEntry frame.script frame.pc

/-- Delivers one line of a report: as a message to the player whom the script is about, and to the log
    if there is none or the player is gone. -/
def deliver (s : Scene) (line : String) : Scene :=
  match s.invocation.self with
  | some (.player p) =>
    match s.world.message p.pid line with
    | .ok world => { s with world }
    | .error f =>
      (s.note .warn ("could not deliver script error to " ++ toString p.pid.toInt ++ ": " ++
        f.headline)).note .error line
  | _ => s.note .error line

/-- Aborts the invocation. -/
def abort (s : Scene) (f : Fault) : Scene :=
  let report := report s.invocation f
  let s := report.lines.foldl deliver (s.note .error f.headline)
  { s with invocation := { s.invocation with abort := some report, execution := .aborted } }

/-! ## One entry -/

/-- The number of instructions that an entry may execute.  A benchmark is not held to the budget, but it is
    aborted here when its counter of 32 bits has run full.  The program has no such stop: at 2 ^ 32 counted
    instructions it panics where overflows are checked, and otherwise counts on from zero.  What is proved
    about benchmarks is meant up to there. -/
def allowance (r : Runner) (benchmark : Bool) (i : Invocation) : Nat :=
  if benchmark then 4294967296 - i.opcount.toNat else r.budget.toNat

/-- The invocation as it enters the loop: counted from zero, except for a benchmark, and with the state
    that it comes from noted in its history. -/
def entered (benchmark : Bool) (i : Invocation) : Invocation :=
  { i with
    opcount := if benchmark then i.opcount else 0
    history := if i.execution = .running then i.history else i.history ++ [i.execution]
    execution := .running
    delay := none }

/-- Enters the invocation and runs it until it stops. -/
def run (r : Runner) (benchmark : Bool) (s : Scene) : Scene :=
  let i := entered benchmark s.invocation
  match r.loop (r.allowance benchmark i) { s with invocation := i } with
  | .ok () s => s
  | .error f s => abort s f

/-- One entry.  A script without metadata is refused, and so is an invocation that has ended, unless it
    is to start anew. -/
def execute (r : Runner) (reset benchmark : Bool) (s : Scene) : Scene :=
  let i := s.invocation
  if i.script.info.isNone then { s with invocation := { i with execution := .aborted } }
  else if reset then r.run benchmark { s with invocation := i.reset }
  else if i.execution.isTerminal then
    s.note .warn (i.script.name ++ " is " ++ i.execution.name ++
      " and was not reset; refusing to re-enter")
  else r.run benchmark s

end Runner

end TickScript
