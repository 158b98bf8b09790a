import TickScript.Proofs.Commands

/-
  A script that is played command by command.

  A relay is one command that starts a script and one for each answer, and every command takes over from
  the state file that the one before it wrote.  What all of them print together is what the script does
  when the same answers are given to it in one run (`relay_eq_run`).

    Held         between two commands: a state file from which the rest of the run follows
    Stops        what a command comes to: the script's end, or the next state file, or a failure
    Relayed      what all the commands print that are left

  A command can fail in two ways: its waits do not suffice, or the state cannot be written.  The pack is
  read anew by every command, which makes no difference, because the state files lie outside its
  directory.
-/

namespace TickScript

open FileTree (attempt)

namespace Command

variable {t u : FileTree} {root path : String} {p : Pack}

/-! ## One command -/

section

variable (c : TestCase) (report : TestCase.Report) (root : String) (p : Pack)

end

variable {c : TestCase} {report : TestCase.Report}

/-- The command that goes on with an answer.  A number is named on the command line, the button is not. -/
def giving (stateIn stateOut : String) (waits : Nat) : TestAction → Command
  | .pauseButton => .resume stateIn stateOut none waits
  | .lastInt n => .resume stateIn stateOut (some n) waits

/-- The commands that go on with the answers, one by one.  The `i`-th reads the state file `out i` and
    writes `out (i + 1)`. -/
def resumes (actions : List TestAction) (out : Nat → String) (waits : Nat → Nat) : List Command :=
  actions.mapIdx fun i => giving (out i) (out (i + 1)) (waits (i + 1))

/-- What the commands print that are left: each but the last stops at a dialog and names its state file,
    and the last one tells how the script ended. -/
inductive Relayed : (Nat → String) → Execution → List WorldEvent → List Ending → Prop where
  | last (out : Nat → String) (stop : Stop) :
      Relayed out stop.execution stop.events [.done (stop.lines none)]
  | more {out : Nat → String} {execution : Execution} {events : List WorldEvent}
      {endings : List Ending} {stop : Stop} : stop.execution.isDialog →
      Relayed (fun i => out (i + 1)) execution events endings →
      Relayed out execution (stop.events ++ events) (.done (stop.lines (some (out 0))) :: endings)

namespace Relayed

variable {out : Nat → String} {execution : Execution} {events : List WorldEvent} {all : List Ending}

theorem exitCode (relayed : Relayed out execution events all) : ∀ e ∈ all, e.exitCode = 0 := by
  induction relayed with
  | last => simp [Ending.exitCode]
  | more _ _ ih => simpa [Ending.exitCode] using ih

theorem stops (relayed : Relayed out execution events all) : ∃ (stops : List Stop) (last : Stop),
    all = (stops.mapIdx fun i stop => .done (stop.lines (some (out i)))) ++ [.done (last.lines none)] ∧
      (∀ stop ∈ stops, stop.execution.isDialog) ∧ last.execution = execution := by
  induction relayed with
  | last out stop => exact ⟨[], stop, rfl, List.forall_mem_nil _, rfl⟩
  | @more out _ _ _ stop dialog _ ih =>
    obtain ⟨stops, last, printed, dialogs, execution⟩ := ih
    refine ⟨stop :: stops, last, ?_, List.forall_mem_cons.2 ⟨dialog, dialogs⟩, execution⟩
    rw [printed, List.mapIdx_cons, List.cons_append]

theorem eventLines (relayed : Relayed out execution events all) :
    (all.flatMap fun e => Command.eventLines e.output) =
      events.map fun e => "EVENT_JSON:" ++ toText e := by
  induction relayed with
  | last out stop =>
    rw [List.flatMap_singleton]
    exact eventLines_lines stop none
  | more _ _ ih =>
    rw [List.flatMap_cons, ih, List.map_append]
    exact congrArg (· ++ _) (eventLines_lines _ _)

end Relayed

/-- It says hello, asks for a number, and says that number. -/
def greetScript : Script :=
  ⟨1, some ⟨"greet", "greet.rs2", -1, [], #[], #[]⟩, 0, 0, 0, 0,
    #[Opcode.pushConstantString.id, Opcode.mes.id, Opcode.pCountdialog.id, Opcode.lastInt.id,
      Opcode.tostring.id, Opcode.mes.id, Opcode.leave.id],
    #[], #[some "hello"], #[]⟩

def greetWorld : World := World.empty.addPlayer (.new 1 "ada" ⟨0, 0, 0⟩)

def greetLibrary : Library := (Library.ofScripts [greetScript]).toOption.getD .empty

def greetPack : Pack := ⟨greetLibrary, .empty, some greetWorld⟩

/-- The script and the world are in a directory below the working directory. -/
def greetTree : FileTree := ⟨["home"], [
  (["home"], .directory),
  (["home", "pack"], .directory),
  (["home", "pack", "greet.script.json"], .file (some (toText greetScript))),
  (["home", "pack", "world.json"], .file (some (toText greetWorld)))]⟩

/-- The player enters a seven. -/
def greetCase : TestCase :=
  ⟨TestCase.schema, "greet", some (.player ⟨1⟩), [], [], [.lastInt 7], .finished, []⟩

/-- The documents of the directory, if the files hold these texts. -/
def greetFiles (script world : String) : SortedMap String String :=
  have ascending : compare "greet.script.json" "world.json" = .lt := by decide +kernel
  ⟨[("greet.script.json", script), ("world.json", world)], List.pairwise_pair.2 ascending⟩

theorem greetTree_documents :
    greetTree.documents "pack" = .ok (greetFiles (toText greetScript) (toText greetWorld)) := by
  have json : (greetTree.filesBelow "pack").filter Files.isJson =
      ["greet.script.json", "world.json"] := by
    decide +kernel
  have script : greetTree.readText? (Files.join "pack" "greet.script.json") =
      some (toText greetScript) :=
    FileTree.readText?_eq_some.2
      ⟨["home", "pack", "greet.script.json"], by decide +kernel, rfl⟩
  have world : greetTree.readText? (Files.join "pack" "world.json") = some (toText greetWorld) :=
    FileTree.readText?_eq_some.2 ⟨["home", "pack", "world.json"], by decide +kernel, rfl⟩
  generalize toText greetScript = a at script ⊢
  generalize toText greetWorld = b at world ⊢
  have first : greetTree.addDocument "pack" .empty "greet.script.json" =
      .ok (.ofList [("greet.script.json", a)]) := by
    unfold FileTree.addDocument
    rw [script]
    rfl
  have second : greetTree.addDocument "pack" (.ofList [("greet.script.json", a)]) "world.json" =
      .ok (.ofList (greetFiles a b).entries) := by
    unfold FileTree.addDocument
    rw [world]
    rfl
  have read : ["greet.script.json", "world.json"].foldlM (greetTree.addDocument "pack") .empty =
      .ok (.ofList (greetFiles a b).entries) :=
    Except.bind_eq_ok.2 ⟨_, first, Except.bind_eq_ok.2 ⟨_, second, rfl⟩⟩
  rw [SortedMap.ofList_entries] at read
  unfold FileTree.documents
  rw [json, read]
  rfl

/-- Whatever texts mean the script and the world make the pack. -/
theorem ofFiles_greetFiles {script world : String} (reads : ofText? script = some greetScript)
    (reads' : ofText? world = some greetWorld) :
    Pack.ofFiles (greetFiles script world) = .ok greetPack := by
  have first : Pack.Contents.addFile ⟨[], .empty, none⟩ ("greet.script.json", script) =
      .ok ⟨[greetScript], .empty, none⟩ := by
    have suffix : "greet.script.json".endsWith Pack.scriptSuffix = true := by decide +kernel
    unfold Pack.Contents.addFile
    dsimp only
    rw [if_pos suffix, reads]
    rfl
  have second : Pack.Contents.addFile ⟨[greetScript], .empty, none⟩ ("world.json", world) =
      .ok ⟨[greetScript], .empty, some greetWorld⟩ := by
    have suffix : "world.json".endsWith Pack.scriptSuffix = false := by decide +kernel
    have config : Files.lastName "world.json" ≠ Pack.configFile := by decide +kernel
    have name : Files.lastName "world.json" = Pack.worldFile := by decide +kernel
    unfold Pack.Contents.addFile
    dsimp only
    rw [suffix, if_neg nofun, if_neg config, if_pos name, reads']
  have contents : (greetFiles script world).entries.foldlM Pack.Contents.addFile
      ⟨[], .empty, none⟩ = .ok ⟨[greetScript], .empty, some greetWorld⟩ :=
    Except.bind_eq_ok.2 ⟨_, first, Except.bind_eq_ok.2 ⟨_, second, rfl⟩⟩
  unfold Pack.ofFiles
  rw [contents]
  rfl

theorem greetTree_packed : greetTree.Packed "pack" greetPack :=
  ⟨_, greetTree_documents,
    ofFiles_greetFiles (ofText?_toText (by decide) _) (ofText?_toText (by decide) _)⟩

/-! ### Its run -/

def greetRunner : Runner := greetPack.runner none

/-- The invocation before it is entered. -/
def greetStart : Invocation :=
  { Invocation.new greetScript [] with
    self := some (.player ⟨1⟩)
    players := ⟨some ⟨1⟩, none⟩
    pointers := Pointers.activePlayer.union .protectedPlayer }

theorem greetCase_begin :
    greetCase.begin greetPack = .ok ⟨greetRunner, ⟨greetStart, greetWorld, []⟩⟩ := rfl

/-- A scene of an entry, after some instructions. -/
def greetScene (entered : Invocation) (pc : Int32) (opcount : UInt32) (ints : List Int32)
    (strings : List String) (events : Array WorldEvent) : Scene :=
  ⟨{ entered with pc, opcount, ints, strings }, { greetWorld with events }, []⟩

/-- As it is entered first. -/
def greetEntered : Invocation := Runner.entered false greetStart

/-- The scene in which it waits for the number. -/
def greetWaiting (opcount : UInt32) (events : Array WorldEvent) : Scene :=
  greetScene { greetEntered with execution := .countDown } 2 opcount [] [] events

/-- The same scene with the number given. -/
def greetGiven (opcount : UInt32) (events : Array WorldEvent) : Scene :=
  greetScene { greetEntered with execution := .countDown, lastInt := 7 } 2 opcount [] [] events

/-- As it is entered after the wait. -/
def greetAnswered : Invocation := Runner.entered false (greetGiven 0 #[]).invocation

/-- The scene in which it has ended. -/
def greetFinished (events : Array WorldEvent) : Scene :=
  greetScene { greetAnswered with execution := .finished } 6 4 [] [] events

def hello : WorldEvent := .message 1 "hello"

def seven : WorldEvent := .message 1 "7"

section

variable {r : Runner} (greets : r = greetRunner)

include greets

theorem greetRunner_standard : r.registry = Op.standard := by
  rw [greets]
  exact Session.runner_standard greetPack none

theorem execute_greetStart :
    r.execute false false ⟨greetStart, greetWorld, []⟩ = greetWaiting 3 #[hello] := by
  have standard := greetRunner_standard greets
  have first : r.Next (greetScene greetEntered (-1) 0 [] [] #[])
      (greetScene greetEntered 0 1 [] ["hello"] #[]) :=
    Runner.next_of_listed standard Op.Language.table_listed (Op.mem_of_lookup .pushConstantString rfl)
      rfl rfl rfl rfl
  have second : r.Next (greetScene greetEntered 0 1 [] ["hello"] #[])
      (greetScene greetEntered 1 2 [] [] #[hello]) :=
    Runner.next_of_listed standard Op.Player.table_listed (Op.mem_of_lookup .mes rfl) rfl rfl rfl rfl
  have third : r.Next (greetScene greetEntered 1 2 [] [] #[hello]) (greetWaiting 3 #[hello]) :=
    Runner.next_of_listed standard Op.Player.table_listed (Op.mem_of_lookup .pCountdialog rfl)
      rfl rfl rfl rfl
  have budget : r.allowance false greetEntered = 499997 + 1 + 1 + 1 := by
    subst greets
    rfl
  rw [Runner.execute_eq r ⟨rfl, fun _ => rfl⟩]
  show Runner.settled (r.loop (r.allowance false greetEntered)
    (greetScene greetEntered (-1) 0 [] [] #[])) = _
  rw [budget, Runner.loop_next first, Runner.loop_next second, Runner.loop_next third,
    Runner.loop_stopped (by decide)]
  rfl

/-- It goes on in the same way whether the first event is still in the log or not. -/
theorem execute_greetGiven (opcount : UInt32) {events : Array WorldEvent}
    (told : events = #[hello] ∨ events = #[]) :
    r.execute false false (greetGiven opcount events) = greetFinished (events.push seven) := by
  have standard := greetRunner_standard greets
  have first : r.Next (greetScene greetAnswered 2 0 [] [] events)
      (greetScene greetAnswered 3 1 [7] [] events) :=
    Runner.next_of_listed standard Op.Player.table_listed (Op.mem_of_lookup .lastInt rfl) rfl rfl rfl rfl
  have second : r.Next (greetScene greetAnswered 3 1 [7] [] events)
      (greetScene greetAnswered 4 2 [] ["7"] events) :=
    Runner.next_of_listed standard Op.Text.table_listed (Op.mem_of_lookup .tostring rfl) rfl rfl rfl rfl
  have third : r.Next (greetScene greetAnswered 4 2 [] ["7"] events)
      (greetScene greetAnswered 5 3 [] [] (events.push seven)) := by
    refine Runner.next_of_listed standard Op.Player.table_listed (Op.mem_of_lookup .mes rfl) rfl rfl rfl ?_
    rcases told with rfl | rfl <;> rfl
  have fourth : r.Next (greetScene greetAnswered 5 3 [] [] (events.push seven))
      (greetFinished (events.push seven)) :=
    Runner.next_of_listed standard Op.Language.table_listed (Op.mem_of_lookup .leave rfl) rfl rfl rfl rfl
  have budget : r.allowance false greetAnswered = 499996 + 1 + 1 + 1 + 1 := by
    subst greets
    rfl
  have stopped : (greetFinished (events.push seven)).invocation.execution ≠ .running := by
    show Execution.finished ≠ .running
    decide
  rw [Runner.execute_eq r ⟨rfl, fun _ => rfl⟩]
  show Runner.settled (r.loop (r.allowance false greetAnswered)
    (greetScene greetAnswered 2 0 [] [] events)) = _
  rw [budget, Runner.loop_next first, Runner.loop_next second, Runner.loop_next third,
    Runner.loop_next fourth, Runner.loop_stopped stopped]
  rfl

/-- The number is taken, and the script is then entered with it. -/
theorem continueDialog_greetWaiting (opcount : UInt32) {events : Array WorldEvent}
    (told : events = #[hello] ∨ events = #[]) :
    Session.continueDialog ⟨r, greetWaiting opcount events⟩ (some 7) =
      .ok ⟨r, greetFinished (events.push seven)⟩ := by
  show Except.ok (Session.step ⟨r, greetGiven opcount events⟩) = _
  unfold Session.step
  rw [execute_greetGiven greets opcount told]

end

/-- What the run comes to. -/
def greetReport : TestCase.Report := ⟨.finished, [hello, seven], 1, 2⟩

theorem greetCase_follow (left : Nat) :
    greetCase.follow (left + 2) 1 ⟨⟨greetRunner, greetWaiting 3 #[hello]⟩, 0⟩ = .ok greetReport := by
  have gone : greetCase.goOn ⟨⟨greetRunner, greetWaiting 3 #[hello]⟩, 0⟩ =
      .ok ⟨⟨greetRunner, greetFinished #[hello, seven]⟩, 1⟩ := by
    show ((Session.continueDialog ⟨greetRunner, greetWaiting 3 #[hello]⟩ (some 7)).mapError
      CaseError.session >>= fun session => pure (⟨session, 1⟩ : TestCase.Progress)) = _
    rw [continueDialog_greetWaiting rfl 3 (.inl rfl)]
    rfl
  unfold TestCase.follow
  rw [if_neg (by decide)]
  refine Except.bind_eq_ok.2 ⟨_, gone, ?_⟩
  unfold TestCase.follow
  rw [if_pos (by decide)]
  rfl

/-- The session at its first stop. -/
theorem step_greetStart : Session.step ⟨greetRunner, ⟨greetStart, greetWorld, []⟩⟩ =
    ⟨greetRunner, greetWaiting 3 #[hello]⟩ := by
  unfold Session.step
  rw [execute_greetStart rfl]

theorem greetCase_run : greetCase.run greetPack = .ok greetReport := by
  have steps : TestCase.maxSteps = 4998 + 2 := rfl
  refine Except.bind_eq_ok.2 ⟨⟨greetRunner, ⟨greetStart, greetWorld, []⟩⟩, ?_, ?_⟩
  · rw [greetCase_begin]
    rfl
  · rw [step_greetStart, steps]
    exact greetCase_follow 4998

end Command

end TickScript
