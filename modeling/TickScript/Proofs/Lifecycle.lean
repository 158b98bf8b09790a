import TickScript.Proofs.Resumption
import TickScript.Proofs.Suspension

/-
  The life of a session.

  Whoever drives a session may call upon it in any order: enter the script, let a timed wait pass, answer a
  dialog, or let it settle.  Each of these has its own guard, and the script in between sets its state, its
  delay and its report wherever an instruction stops it.  Still a session is only ever found in a few ways
  between two calls, and `Invocation.Stage` lists them: it is ready and was never entered, or it has ended
  or waits and its history tells every state that it was entered in.

    Invocation.Underway    inside an entry: history and report are left alone, and a state is given up only
                           for the end or for a wait with its delay
    Invocation.Stage       between two calls
    Outcome.stage          an entry leads from one stage to the next
    Lives.call             so does every call, whether it enters the script not at all, once or many times
    lifecycle              hence every list of calls

  All scripts of the pack have metadata: an entry that is refused for want of it would leave an aborted
  session without a report.
-/

namespace TickScript

/-! ## Inside an entry -/

/-- The states in which a script was entered: ready at first, and then after one wait after the other. -/
def StartsReady (entered : List Execution) : Prop :=
  ∃ waits, entered = .ready :: waits ∧ ∀ e ∈ waits, e.isSuspended

namespace Invocation

/-- In the middle of an entry, which has started with that history. -/
structure Underway (i : Invocation) (history : List Execution) : Prop where
  history : i.history = history
  unreported : i.abort = none
  delay : i.delay.isSome = i.execution.isTimedWait
  state : i.execution = .running ∨ i.execution = .finished ∨ i.execution.isSuspended

/-- Between two calls, when the script has been entered in these states. -/
structure Stage (i : Invocation) (entered : List Execution) : Prop where
  history : i.history = entered
  delay : i.delay.isSome = i.execution.isTimedWait
  report : i.abort.isSome ↔ i.execution = .aborted
  state : i.execution = .ready ∧ entered = [] ∨ i.execution.Rests ∧ StartsReady entered

variable {i : Invocation} {history entered : List Execution}

theorem Underway.unset_of_running (h : i.Underway history) (running : i.execution = .running) :
    i.delay = none := by
  have delay := h.delay
  rw [running] at delay
  exact Option.isSome_eq_false_iff.1 delay |> Option.isNone_iff_eq_none.1

/-- An entry that is not aborted ends in the next stage. -/
theorem Underway.stage (h : i.Underway entered) (stopped : i.execution ≠ .running)
    (past : StartsReady entered) : i.Stage entered where
  history := h.history
  delay := h.delay
  report := by
    rw [h.unreported]
    refine ⟨nofun, fun aborted => ?_⟩
    rcases h.state with running | finished | suspended
    · exact absurd running stopped
    · nomatch finished.symm.trans aborted
    · rw [aborted] at suspended
      nomatch suspended
  state := by
    refine .inr ⟨?_, past⟩
    rcases h.state with running | finished | suspended
    · exact absurd running stopped
    · exact .inl (by rw [finished]; rfl)
    · exact .inr suspended

/-- The state that an entry leaves is the first, or a wait behind the others. -/
theorem Stage.startsReady (h : i.Stage entered) (live : i.execution.isTerminal = false) :
    StartsReady (entered ++ [i.execution]) := by
  rcases h.state with ⟨ready, rfl⟩ | ⟨terminal | suspended, waits, rfl, all⟩
  · exact ⟨[], by rw [ready]; rfl, List.forall_mem_nil _⟩
  · rw [live] at terminal
    nomatch terminal
  · refine ⟨waits ++ [i.execution], rfl, ?_⟩
    exact List.forall_mem_append.2 ⟨all, List.forall_mem_singleton.2 suspended⟩

theorem Stage.ne_running (h : i.Stage entered) : i.execution ≠ .running := by
  intro running
  rcases h.state with ⟨ready, -⟩ | ⟨terminal | suspended, -⟩
  · nomatch running.symm.trans ready
  · rw [running] at terminal
    nomatch terminal
  · rw [running] at suspended
    nomatch suspended

theorem Stage.ready_iff (h : i.Stage entered) : i.execution = .ready ↔ entered = [] := by
  rcases h.state with ⟨ready, none⟩ | ⟨rests, waits, rfl, -⟩
  · exact ⟨fun _ => none, fun _ => ready⟩
  · refine ⟨fun ready => ?_, nofun⟩
    rw [ready] at rests
    rcases rests with terminal | suspended
    · nomatch terminal
    · nomatch suspended

end Invocation

/-! ## One instruction -/

theorem Scene.Restacked.underway {s t : Scene} {history : List Execution} (h : s.Restacked t)
    (hs : s.invocation.Underway history) : t.invocation.Underway history := by
  obtain ⟨_, _, _, rfl⟩ := h
  exact ⟨hs.history, hs.unreported, hs.delay, hs.state⟩

/-- One change gives up the state only for the end, or for a wait that has a delay if it is a timed one. -/
theorem Change.underway {env : Env} {o : Opcode} {s t : Scene} {history : List Execution}
    (c : Change env o s t) (running : s.invocation.execution = .running)
    (hs : s.invocation.Underway history) : t.invocation.Underway history := by
  have unset := hs.unset_of_running running
  cases c with
  | call args _ _ entered =>
    obtain ⟨-, rfl⟩ := Invocation.call_eq_ok entered
    exact ⟨hs.history, hs.unreported, hs.delay, hs.state⟩
  | leave _ back =>
    obtain ⟨_, _, -, rfl⟩ := Invocation.leave?_eq_some back
    exact ⟨hs.history, hs.unreported, hs.delay, hs.state⟩
  | finish => exact ⟨hs.history, hs.unreported, congrArg Option.isSome unset, .inr (.inl rfl)⟩
  | wait execution delay suspended timed =>
    exact ⟨hs.history, hs.unreported, timed, .inr (.inr suspended)⟩
  | nothing | branch | intLocal | stringLocal | jump | search | found | lost | world | random =>
    exact ⟨hs.history, hs.unreported, hs.delay, hs.state⟩

namespace Runner

variable {r : Runner} {s t : Scene} {f : Fault} {history entered : List Execution}

theorem underway_advance (hs : s.invocation.Underway history) :
    (advance s).invocation.Underway history := ⟨hs.history, hs.unreported, hs.delay, hs.state⟩

theorem Next.underway (standard : r.registry = Op.standard) (next : r.Next s t)
    (hs : s.invocation.Underway history) : t.invocation.Underway history := by
  obtain ⟨o, -, u, v, before, change, after⟩ := step_ok standard next.step
  have hu := before.underway (underway_advance hs)
  have running : u.invocation.execution = .running := by
    obtain ⟨_, _, _, rfl⟩ := before
    exact next.running
  exact after.underway (change.underway running hu)

theorem Fails.underway (standard : r.registry = Op.standard) (fails : r.Fails s f t)
    (hs : s.invocation.Underway history) : t.invocation.Underway history :=
  (step_error standard fails.step).1.underway (underway_advance hs)

theorem Fails.runningAfter (standard : r.registry = Op.standard) (fails : r.Fails s f t) :
    t.invocation.execution = .running := by
  obtain ⟨_, _, _, rfl⟩ := (step_error standard fails.step).1
  exact fails.running

theorem Passes.underway (standard : r.registry = Op.standard) (passes : r.Passes s t)
    (hs : s.invocation.Underway history) : t.invocation.Underway history := by
  induction passes with
  | refl => exact hs
  | tail _ next ih => exact next.underway standard ih

/-! ## One entry -/

/-- An invocation that has not ended notes the state that it comes from, and gives up its delay. -/
theorem underway_started {benchmark : Bool} (stage : s.invocation.Stage entered)
    (live : s.invocation.execution.isTerminal = false) :
    (started false benchmark s).invocation.Underway (entered ++ [s.invocation.execution]) where
  history := by
    rw [← stage.history]
    exact if_neg stage.ne_running
  unreported := by
    cases report : s.invocation.abort with
    | none => exact report
    | some _ =>
      have aborted := stage.report.1 (by rw [report]; rfl)
      rw [aborted] at live
      nomatch live
  delay := rfl
  state := .inl rfl

/-- A fault leaves the delay of the instruction that was running, which is none. -/
theorem stage_abort (hs : s.invocation.Underway entered) (running : s.invocation.execution = .running)
    (past : StartsReady entered) (f : Fault) : (abort s f).invocation.Stage entered := by
  rw [abort_invocation]
  refine ⟨hs.history, ?_, ⟨fun _ => rfl, fun _ => rfl⟩, .inr ⟨.inl rfl, past⟩⟩
  exact congrArg Option.isSome (hs.unset_of_running running)

/-- An entry into a script with metadata that has not ended leads to the next stage. -/
theorem Outcome.stage (standard : r.registry = Op.standard) {benchmark : Bool}
    (outcome : r.Outcome false benchmark s t) (named : s.invocation.script.info.isSome)
    (stage : s.invocation.Stage entered) (live : s.invocation.execution.isTerminal = false) :
    t.invocation.Stage (entered ++ [s.invocation.execution]) := by
  have past := stage.startsReady live
  have start : (started false benchmark s).invocation.Underway _ := underway_started stage live
  cases outcome with
  | unnamed unnamed =>
    rw [unnamed] at named
    nomatch named
  | refused _ terminal =>
    rw [live] at terminal
    nomatch terminal
  | stopped _ passes stopped => exact (passes.underway standard start).stage stopped past
  | aborted _ passes running found =>
    have hu := passes.underway standard start
    rcases found with rfl | fails
    · exact stage_abort hu running past _
    · exact stage_abort (fails.underway standard hu) (fails.runningAfter standard) past _

/-- Where all scripts have metadata, every part of an entry leads to a script that has it. -/
theorem keeps_labelled (standard : r.registry = Op.standard) (library : r.library.Labelled) :
    r.Keeps fun s => s.invocation.script.info.isSome ∧ s.invocation.Labelled where
  started _ _ _ h := labelled_started h.1 h.2
  next next h := next.labelled standard library h.1 h.2
  fails fails h := by
    have failed := (step_error standard fails.step).1
    rw [failed.script]
    exact ⟨h.1, failed.labelled ⟨h.2.frames, h.2.root⟩⟩
  reported f h := by
    rw [abort_invocation]
    exact ⟨h.1, ⟨h.2.frames, h.2.root⟩⟩
  unnamed h := ⟨h.1, ⟨h.2.frames, h.2.root⟩⟩
  refused _ h := h

end Runner

/-! ## Calls -/

namespace Session

/-- Something that is asked of a session. -/
inductive Call where
  | step
  | wait
  | continueDialog (lastInt : Option Int32)
  | settle (maxWaits : Nat)

/-- The session that a call leads to, and the state that it answers; one that is refused leaves the session
    as it was. -/
def answered (s : Session) : Except SessionError Session → Session × Except SessionError Execution
  | .ok t => (t, .ok t.execution)
  | .error e => (s, .error e)

theorem answered_of_error {s : Session} {outcome : Except SessionError Session} {e : SessionError}
    (refused : (s.answered outcome).2 = .error e) : (s.answered outcome).1 = s := by
  cases outcome with
  | ok t => nomatch refused
  | error _ => rfl

/-- The session after a call, and the answer. -/
def Call.perform : Call → Session → Session × Except SessionError Execution
  | step, s => s.answered (.ok s.step)
  | wait, s => s.answered s.wait
  | continueDialog lastInt, s => s.answered (s.continueDialog lastInt)
  | settle maxWaits, s => s.settle maxWaits

/-- The states that so many timed waits at most leave. -/
def passed : Nat → Session → List Execution
  | 0, _ => []
  | left + 1, s =>
    if s.execution.isTimedWait then s.execution :: passed left { s with scene := waited s.scene }.step
    else []

/-- The states in which a call enters the script: none if it is refused or has nothing to do, and one for
    every wait that it lets pass. -/
def Call.enters : Call → Session → List Execution
  | step, s => if s.execution.isTerminal then [] else [s.execution]
  | wait, s => if s.execution.isTimedWait then [s.execution] else []
  | continueDialog lastInt, s =>
    if s.execution = .pauseButton ∨ s.execution = .countDown ∧ lastInt.isSome then [s.execution] else []
  | settle maxWaits, s => passed maxWaits s

/-- The session after some calls, one after the other. -/
def performAll (calls : List Call) (s : Session) : Session :=
  calls.foldl (fun s c => (c.perform s).1) s

/-- The states in which some calls, one after the other, enter the script. -/
def entersAll : List Call → Session → List Execution
  | [], _ => []
  | c :: calls, s => c.enters s ++ entersAll calls (c.perform s).1

/-- A wait enters the script, or is refused. -/
theorem wait_cases (s : Session) :
    (s.execution.isTimedWait ∧ s.wait = .ok { s with scene := waited s.scene }.step) ∨
    (s.execution.isTimedWait = false ∧ s.wait = .error (.notWaiting s.execution)) := by
  unfold wait
  cases timed : s.execution.isTimedWait with
  | false => exact .inr ⟨rfl, if_neg nofun⟩
  | true => exact .inl ⟨rfl, if_pos rfl⟩

/-- The session with the number that the player has entered. -/
def withLastInt (s : Session) (n : Int32) : Session :=
  { s with scene := { s.scene with invocation := { s.scene.invocation with lastInt := n } } }

/-- An answer enters the script, or is refused. -/
theorem continueDialog_cases (s : Session) (answer : Option Int32) :
    (s.execution = .pauseButton ∧ s.continueDialog answer = .ok s.step) ∨
    (∃ n, s.execution = .countDown ∧ answer = some n ∧
      s.continueDialog answer = .ok (s.withLastInt n).step) ∨
    (¬ (s.execution = .pauseButton ∨ s.execution = .countDown ∧ answer.isSome) ∧
      ∃ e, s.continueDialog answer = .error e) := by
  unfold continueDialog
  cases execution : s.execution with
  | pauseButton => exact .inl ⟨rfl, rfl⟩
  | countDown =>
    cases answer with
    | none => exact .inr (.inr ⟨by simp, _, rfl⟩)
    | some n => exact .inr (.inl ⟨n, rfl, rfl, rfl⟩)
  | ready | running | finished | aborted | suspended | npcSuspended | worldSuspended =>
    exact .inr (.inr ⟨by simp, _, rfl⟩)

theorem pass_invariant {P : Session → Prop} (step : ∀ s, P s → P s.step)
    (waits : ∀ s, P s → P { s with scene := waited s.scene }) : ∀ (left : Nat) {s : Session},
    P s → P (pass left s).1 := by
  intro left
  induction left with
  | zero =>
    intro s h
    unfold pass
    split
    · exact h
    · exact h
  | succ left ih =>
    intro s h
    unfold pass
    split
    · exact h
    · exact ih (step _ (waits _ h))

/-- What an entry, a wait that passes and an answer that is given keep, every call keeps. -/
theorem Call.perform_invariant {P : Session → Prop} (step : ∀ s, P s → P s.step)
    (waits : ∀ s, P s → P { s with scene := waited s.scene })
    (answers : ∀ s n, P s → P (s.withLastInt n)) (c : Call) {s : Session} (h : P s) :
    P (c.perform s).1 := by
  cases c with
  | step => exact step s h
  | wait =>
    rcases wait_cases s with ⟨-, gone⟩ | ⟨-, refused⟩
    · rw [perform, gone]
      exact step _ (waits s h)
    · rw [perform, refused]
      exact h
  | continueDialog answer =>
    rw [perform]
    rcases continueDialog_cases s answer with ⟨-, gone⟩ | ⟨n, -, -, gone⟩ | ⟨-, e, refused⟩
    · rw [gone]
      exact step s h
    · rw [gone]
      exact step _ (answers s n h)
    · rw [refused]
      exact h
  | settle maxWaits => exact pass_invariant step waits maxWaits h

/-- The session is one of the pack, and the script has been entered in these states. -/
structure Lives (p : Pack) (s : Session) (entered : List Execution) : Prop where
  runner : ∃ budget, s.runner = p.runner budget
  named : s.scene.invocation.script.info.isSome
  labelled : s.scene.invocation.Labelled
  stage : s.scene.invocation.Stage entered

variable {p : Pack} {s : Session} {entered : List Execution}

/-- Only the world has moved on. -/
theorem Lives.waited (h : Lives p s entered) :
    Lives p { s with scene := Session.waited s.scene } entered :=
  ⟨h.runner, h.named, h.labelled, h.stage⟩

theorem Lives.answering (h : Lives p s entered) (n : Int32) :
    Lives p (s.withLastInt n) entered :=
  ⟨h.runner, h.named, ⟨h.labelled.frames, h.labelled.root⟩,
    ⟨h.stage.history, h.stage.delay, h.stage.report, h.stage.state⟩⟩

/-- An entry where the script has not ended. -/
theorem Lives.step (library : p.library.Labelled) (h : Lives p s entered)
    (live : s.execution.isTerminal = false) : Lives p s.step (entered ++ [s.execution]) := by
  obtain ⟨budget, runner⟩ := h.runner
  have standard : s.runner.registry = Op.standard := by rw [runner]; exact runner_standard p budget
  have labelled : s.runner.library.Labelled := by rw [runner]; exact library
  have outcome := s.runner.execute_outcome false false s.scene
  obtain ⟨named, goesBack⟩ :=
    (Runner.keeps_labelled standard labelled).outcome outcome ⟨h.named, h.labelled⟩
  exact ⟨h.runner, named, goesBack, outcome.stage standard h.named h.stage live⟩

/-- An entry where it has ended only leaves a remark. -/
theorem Lives.step_of_isTerminal (h : Lives p s entered) (terminal : s.execution.isTerminal) :
    s.step.scene.invocation = s.scene.invocation ∧ s.step.world = s.world := by
  have named : ¬ s.scene.invocation.script.info.isNone := Runner.isNone_info_eq_false h.named
  obtain ⟨remark, refused⟩ : ∃ remark, s.step.scene = s.scene.note .warn remark :=
    ⟨_, s.runner.execute_terminal named terminal⟩
  rw [world, refused]
  exact ⟨rfl, rfl⟩

theorem Lives.congr {t : Session} (h : Lives p s entered) (runner : t.runner = s.runner)
    (invocation : t.scene.invocation = s.scene.invocation) : Lives p t entered := by
  refine ⟨runner ▸ h.runner, ?_, ?_, ?_⟩
  · rw [invocation]
    exact h.named
  · rw [invocation]
    exact h.labelled
  · rw [invocation]
    exact h.stage

theorem isTerminal_of_isTimedWait {e : Execution} (timed : e.isTimedWait) : e.isTerminal = false :=
  Execution.isTerminal_of_isSuspended (by rw [Execution.isSuspended, timed]; rfl)

theorem Lives.pass (library : p.library.Labelled) : ∀ (left : Nat) {s : Session}
    {entered : List Execution}, Lives p s entered →
    Lives p (Session.pass left s).1 (entered ++ passed left s) := by
  intro left
  induction left with
  | zero =>
    intro s entered h
    have still : (Session.pass 0 s).1 = s := by unfold Session.pass; split <;> rfl
    rw [still, passed, List.append_nil]
    exact h
  | succ left ih =>
    intro s entered h
    unfold Session.pass passed
    cases timed : s.execution.isTimedWait with
    | false =>
      simp only [Bool.not_false, if_true, Bool.false_eq_true, if_false, List.append_nil]
      exact h
    | true =>
      simp only [Bool.not_true, Bool.false_eq_true, if_false, if_true]
      have next := ih (h.waited.step library (isTerminal_of_isTimedWait timed))
      rw [List.append_assoc] at next
      exact next

/-- Every call leads from one stage to the next, by as many entries as it makes. -/
theorem Lives.call (library : p.library.Labelled) (h : Lives p s entered) (c : Call) :
    Lives p (c.perform s).1 (entered ++ c.enters s) := by
  cases c with
  | step =>
    cases terminal : s.execution.isTerminal with
    | false =>
      rw [show Call.step.enters s = [s.execution] from if_neg (by rw [terminal]; nofun)]
      exact h.step library terminal
    | true =>
      rw [show Call.step.enters s = [] from if_pos terminal, List.append_nil]
      exact h.congr rfl (h.step_of_isTerminal terminal).1
  | wait =>
    rcases wait_cases s with ⟨timed, gone⟩ | ⟨untimed, refused⟩
    · rw [show Call.wait.enters s = [s.execution] from if_pos timed, Call.perform, gone]
      exact h.waited.step library (isTerminal_of_isTimedWait timed)
    · rw [show Call.wait.enters s = [] from if_neg (by rw [untimed]; nofun), List.append_nil,
        Call.perform, refused]
      exact h
  | continueDialog answer =>
    rw [Call.perform, Call.enters]
    rcases continueDialog_cases s answer with
      ⟨dialog, gone⟩ | ⟨n, dialog, rfl, gone⟩ | ⟨unasked, e, refused⟩
    · rw [if_pos (.inl dialog), gone]
      exact h.step library (by rw [dialog]; rfl)
    · rw [if_pos (.inr ⟨dialog, rfl⟩), gone]
      exact (h.answering n).step library (show s.execution.isTerminal = false by rw [dialog]; rfl)
    · rw [if_neg unasked, refused, List.append_nil]
      exact h
  | settle maxWaits => exact h.pass library maxWaits

theorem Lives.performAll (library : p.library.Labelled) : ∀ (calls : List Call) {s : Session}
    {entered : List Execution}, Lives p s entered →
    Lives p (Session.performAll calls s) (entered ++ entersAll calls s) := by
  intro calls
  induction calls with
  | nil =>
    intro s entered h
    rw [entersAll, List.append_nil]
    exact h
  | cons c calls ih =>
    intro s entered h
    have rest := ih (h.call library c)
    rw [List.append_assoc] at rest
    exact rest

/-- Where the script has ended, no call does anything. -/
theorem Lives.call_of_isTerminal (h : Lives p s entered) (terminal : s.execution.isTerminal)
    (c : Call) : (c.perform s).1.runner = s.runner ∧
      (c.perform s).1.scene.invocation = s.scene.invocation ∧ (c.perform s).1.world = s.world := by
  have untimed : s.execution.isTimedWait = false := by
    cases timed : s.execution.isTimedWait with
    | false => rfl
    | true => nomatch (isTerminal_of_isTimedWait timed).symm.trans terminal
  cases c with
  | step => exact ⟨rfl, h.step_of_isTerminal terminal⟩
  | wait =>
    rcases wait_cases s with ⟨timed, -⟩ | ⟨-, refused⟩
    · nomatch untimed.symm.trans timed
    · rw [Call.perform, refused]
      exact ⟨rfl, rfl, rfl⟩
  | continueDialog answer =>
    rcases continueDialog_cases s answer with ⟨dialog, -⟩ | ⟨n, dialog, -, -⟩ | ⟨-, e, refused⟩
    · rw [dialog] at terminal
      nomatch terminal
    · rw [dialog] at terminal
      nomatch terminal
    · rw [Call.perform, refused]
      exact ⟨rfl, rfl, rfl⟩
  | settle maxWaits =>
    rw [Call.perform, settle, pass_of_untimed maxWaits untimed]
    exact ⟨rfl, rfl, rfl⟩

theorem Lives.performAll_of_isTerminal : ∀ (calls : List Call) {s : Session}, Lives p s entered →
    s.execution.isTerminal →
    (Session.performAll calls s).scene.invocation = s.scene.invocation ∧
      (Session.performAll calls s).world = s.world := by
  intro calls
  induction calls with
  | nil => exact fun _ _ => ⟨rfl, rfl⟩
  | cons c calls ih =>
    intro s h terminal
    obtain ⟨runner, invocation, world⟩ := h.call_of_isTerminal terminal c
    have ended : (c.perform s).1.execution.isTerminal := by
      unfold execution
      rw [invocation]
      exact terminal
    obtain ⟨same, unchanged⟩ := ih (h.congr runner invocation) ended
    exact ⟨same.trans invocation, unchanged.trans world⟩

/-- Nothing has been entered at the start. -/
theorem lives_start (library : p.library.Labelled) {o : SessionStart} (h : start p o = .ok s) :
    Lives p s [] := by
  obtain ⟨script, resolved, h⟩ := Except.bind_eq_ok.1 h
  obtain ⟨i, started, h⟩ := Except.bind_eq_ok.1 h
  obtain ⟨id, found⟩ := resolveEntry_eq_ok resolved
  have named : script.info.isSome := library id script found
  have fresh := Invocation.start_eq_ok (Except.mapError_eq_ok.1 started)
  have lives : ∀ pointers world, Lives p
      ⟨p.runner o.budget, ⟨{ i with pointers }, world, []⟩⟩ [] := by
    intro pointers world
    rw [fresh]
    exact ⟨⟨_, rfl⟩, named, ⟨List.forall_mem_nil _, named⟩, rfl, rfl, ⟨nofun, nofun⟩, .inl ⟨rfl, rfl⟩⟩
  cases h
  split
  · rw [Invocation.grantBound, foldl_grant]
    exact lives _ _
  · exact lives i.pointers _

/-- All scripts of the pack have metadata.  After any calls upon a session that was started with the pack,
    the script is not running, and it is ready exactly if no call has entered it; there is a delay exactly in
    the timed waits, and a report exactly of an aborted script; and the history tells the states in which the
    calls have entered the script, ready at first and then the waits that were left.  A wait or an answer
    that is refused changes nothing, and once the script has ended no further calls change it or its
    world. -/
theorem lifecycle {p : Pack} (library : p.library.Labelled) {o : SessionStart} {fresh : Session}
    (started : start p o = .ok fresh) (calls : List Call) :
    let s := performAll calls fresh
    let i := s.scene.invocation
    let entered := entersAll calls fresh
    i.execution ≠ .running ∧
    (i.execution = .ready ↔ entered = []) ∧
    (i.delay.isSome ↔ i.execution = .suspended ∨ i.execution = .npcSuspended ∨
      i.execution = .worldSuspended) ∧
    (i.abort.isSome ↔ i.execution = .aborted) ∧
    i.history = entered ∧
    (entered = [] ∨ ∃ waits, entered = .ready :: waits ∧ ∀ e ∈ waits, e.isSuspended) ∧
    (∀ e, (Call.wait.perform s).2 = .error e → (Call.wait.perform s).1 = s) ∧
    (∀ n e, ((Call.continueDialog n).perform s).2 = .error e →
      ((Call.continueDialog n).perform s).1 = s) ∧
    (i.execution = .finished ∨ i.execution = .aborted → ∀ later,
      (performAll later s).scene.invocation = i ∧ (performAll later s).world = s.world) := by
  intro s i entered
  have lives : Lives p s entered := (lives_start library started).performAll library calls
  have stage := lives.stage
  refine ⟨stage.ne_running, stage.ready_iff, ?_, stage.report, stage.history, ?_, ?_, ?_, ?_⟩
  · show s.scene.invocation.delay.isSome ↔ _
    rw [stage.delay]
    cases i.execution <;> decide
  · exact stage.state.imp (fun h => h.2) fun h => h.2
  · exact fun e refused => answered_of_error refused
  · exact fun n e refused => answered_of_error refused
  · intro ended later
    have terminal : s.execution.isTerminal := by
      rcases ended with finished | aborted
      · exact (congrArg Execution.isTerminal finished : _)
      · exact (congrArg Execution.isTerminal aborted : _)
    exact lives.performAll_of_isTerminal later terminal

end Session

open Runner in
/-- The script of one wait, in a pack of its own. -/
def Pack.waiting : Pack := ⟨waitingLibrary, .empty, none⟩

namespace Session

open Runner

/-- A wait before the first entry and an answer to no question are refused.  The script waits, is entered
    again, and is aborted when it runs off its end; nothing that comes later changes it. -/
theorem lifecycle_waiting : ∃ fresh,
    start .waiting ⟨"wait", none, [], none, [], none, none⟩ = .ok fresh ∧
    let s := performAll [.wait, .step, .continueDialog none, .step] fresh
    s.scene.invocation.execution = .aborted ∧ s.scene.invocation.delay.isSome = false ∧
      s.scene.invocation.abort.isSome ∧ s.scene.invocation.history = [.ready, .worldSuspended] ∧
      ∀ later, (performAll later s).scene.invocation = s.scene.invocation := by
  -- the runner stays closed: unfolding it would run the script
  obtain ⟨r, given⟩ : ∃ r, r = Pack.waiting.runner none := ⟨_, rfl⟩
  have begun : start .waiting ⟨"wait", none, [], none, [], none, none⟩ = .ok ⟨r, waitingStart⟩ := by
    rw [given]
    rfl
  have waits : (⟨r, waitingStart⟩ : Session).step = ⟨r, waitingStopped⟩ := by
    rw [given]
    exact congrArg (Session.mk _) execute_waitingStart
  have ends : (⟨r, waitingStopped⟩ : Session).step.scene.invocation.execution = .aborted := by
    rw [given]
    show ((Runner.standard waitingLibrary .empty none).execute false false
      waitingStopped).invocation.execution = _
    rw [execute_waitingStopped, abort_invocation]
  have run : performAll [.wait, .step, .continueDialog none, .step] ⟨r, waitingStart⟩ =
      (⟨r, waitingStopped⟩ : Session).step := by
    show performAll [.continueDialog none, .step] (⟨r, waitingStart⟩ : Session).step = _
    rw [waits]
    rfl
  have states : entersAll [.wait, .step, .continueDialog none, .step] ⟨r, waitingStart⟩ =
      [.ready, .worldSuspended] := by
    show [] ++ ([.ready] ++ entersAll [.continueDialog none, .step] (⟨r, waitingStart⟩ : Session).step) = _
    rw [waits]
    rfl
  obtain ⟨-, -, delay, report, history, -, -, -, rest⟩ := lifecycle waitingLibrary_labelled begun
    [.wait, .step, .continueDialog none, .step]
  rw [run] at delay report rest
  refine ⟨_, begun, run ▸ ends, ?_, run ▸ report.2 ends, history.trans states, fun later => ?_⟩
  · rw [run, Bool.eq_false_iff, Ne, delay, ends]
    decide
  · rw [run]
    exact (rest (.inr ends) later).1

end Session

end TickScript
