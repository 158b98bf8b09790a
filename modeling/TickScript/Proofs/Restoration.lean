import TickScript.Proofs.Budget
import TickScript.Proofs.Persistence

/-
  The bounds of an invocation, and how far restoring keeps them.

  There is room for so many waiting calls and no more, and each of them waits within its script, as does
  the invocation itself.  Execution keeps these bounds by itself: a call is refused where there is no room,
  it waits at the instruction that was fetched, and a position is checked before the next instruction.
  Restoring checks the position of the invocation but takes its calls on trust.  So what is restored has
  its position in bounds whatever the snapshot says, and its calls exactly if the snapshot has them there.

    Invocation.CallsBounded, Snapshot.CallsBounded    the bounds of the calls, here and as they are stored
    Invocation.Bounded       these, and the position wherever it is to be relied on
    Change.bounded           one change keeps the bounds if the instruction was fetched
    Snapshot.restore_bounds  what is restored
    Runner.Arises            whatever can be led to, with restoring on the way
-/

namespace TickScript

open Runner (inRange)

/-! ## The bounds -/

/-- `i.CallsBounded`: no more calls wait than may, and each waits within its script. -/
structure Invocation.CallsBounded (i : Invocation) : Prop where
  depth : i.frames.length ≤ Invocation.maxFrames
  within : ∀ f ∈ i.frames, inRange f.pc f.script.length

/-- The same of the calls of a snapshot, with the scripts that the library has for them. -/
structure Snapshot.CallsBounded (l : Library) (s : Snapshot) : Prop where
  depth : s.frames.length ≤ Invocation.maxFrames
  within : ∀ f ∈ s.frames, ∃ script, l.get? f.scriptId = some script ∧ inRange f.pc script.length

/-- The bounds that execution keeps.  The position of a running invocation is not among them, for it is
    checked before the next instruction; nor is that of an aborted one, which shows where this failed. -/
structure Invocation.Bounded (i : Invocation) : Prop where
  calls : i.CallsBounded
  position : i.execution ≠ .running → i.execution ≠ .aborted → inRange i.pc i.script.length

/-- An instruction that can be fetched lies within its script. -/
theorem Script.inRange_of_opcode? {s : Script} {pc id : Int32} (there : s.opcode? pc = some id) :
    inRange pc s.length := by
  obtain ⟨nonneg, inside, -⟩ := opcode?_eq_some there
  exact Runner.inRange_iff.2 ⟨by omega, inside⟩

namespace Invocation

variable {i : Invocation}

theorem CallsBounded.congr {j : Invocation} (h : i.CallsBounded) (frames : j.frames = i.frames) :
    j.CallsBounded := by
  refine ⟨?_, ?_⟩ <;> rw [frames]
  exacts [h.depth, h.within]

theorem Bounded.congr {j : Invocation} (h : i.Bounded) (execution : j.execution = i.execution)
    (script : j.script = i.script) (pc : j.pc = i.pc) (frames : j.frames = i.frames) : j.Bounded := by
  refine ⟨h.calls.congr frames, ?_⟩
  rw [execution, script, pc]
  exact h.position

/-- Before a script starts its position is in bounds. -/
theorem bounded_new (s : Script) (args : List Value) : (new s args).Bounded where
  calls := ⟨Nat.zero_le _, nofun⟩
  position _ _ := Runner.inRange_iff.2 ⟨Int.le_refl _, by
    show (-1 : Int) < s.length
    omega⟩

/-- A running invocation is in bounds if its calls are. -/
theorem bounded_of_running (running : i.execution = .running) (h : i.CallsBounded) : i.Bounded :=
  ⟨h, fun stopped => absurd running stopped⟩

end Invocation

/-! ## Execution -/

open Invocation (bounded_of_running)

/-- One change keeps the bounds, if it is made by an instruction within the script. -/
theorem Change.bounded {env : Env} {o : Opcode} {s t : Scene} (c : Change env o s t)
    (running : s.invocation.execution = .running)
    (inside : inRange s.invocation.pc s.invocation.script.length)
    (hs : s.invocation.CallsBounded) : t.invocation.Bounded := by
  cases c with
  | nothing | branch | intLocal | stringLocal | search | found | lost | world | random =>
    exact bounded_of_running running (hs.congr rfl)
  | call args _ _ entered =>
    obtain ⟨room, rfl⟩ := Invocation.call_eq_ok entered
    exact bounded_of_running running ⟨room, List.forall_mem_cons.2 ⟨inside, hs.within⟩⟩
  | jump => exact bounded_of_running running ⟨Nat.zero_le _, nofun⟩
  | leave _ back =>
    obtain ⟨f, frames, stack, rfl⟩ := Invocation.leave?_eq_some back
    have depth := hs.depth
    have within := hs.within
    rw [stack] at depth within
    refine bounded_of_running running ⟨Nat.le_of_succ_le depth, ?_⟩
    exact (List.forall_mem_cons.1 within).2
  | finish | wait => exact ⟨hs.congr rfl, fun _ _ => inside⟩

namespace Runner

variable {r : Runner} {s t : Scene}

theorem Next.bounded (standard : r.registry = Op.standard) (next : r.Next s t)
    (hs : s.invocation.Bounded) : t.invocation.Bounded := by
  obtain ⟨o, there, u, v, before, change, after⟩ := step_ok standard next.step
  obtain ⟨ints, strings, log, rfl⟩ := before
  have bounded : v.invocation.Bounded :=
    change.bounded next.running (Script.inRange_of_opcode? there) (hs.calls.congr rfl)
  obtain ⟨ints, strings, log, rfl⟩ := after
  exact bounded.congr rfl rfl rfl rfl

theorem bounded_started {reset benchmark : Bool} (hs : s.invocation.Bounded) :
    (started reset benchmark s).invocation.Bounded := by
  cases reset with
  | false => exact bounded_of_running rfl (hs.calls.congr rfl)
  | true => exact bounded_of_running rfl ⟨Nat.zero_le _, nofun⟩

theorem Fails.bounded (standard : r.registry = Op.standard) {f : Fault} (fails : r.Fails s f t)
    (hs : s.invocation.Bounded) : t.invocation.Bounded := by
  obtain ⟨ints, strings, log, rfl⟩ := (step_error standard fails.step).1
  exact bounded_of_running fails.running (hs.calls.congr rfl)

/-- An aborted invocation is in bounds if its calls are. -/
theorem bounded_aborted {i j : Invocation} (hi : i.Bounded) (aborted : j.execution = .aborted)
    (frames : j.frames = i.frames) : j.Bounded :=
  ⟨hi.calls.congr frames, fun _ other => absurd aborted other⟩

/-- Every part of an entry keeps the bounds. -/
theorem keeps_bounded (standard : r.registry = Op.standard) :
    r.Keeps fun s => s.invocation.Bounded where
  started _ _ _ hs := bounded_started hs
  next next hs := next.bounded standard hs
  fails fails hs := fails.bounded standard hs
  reported f hs := by
    rw [abort_invocation]
    exact bounded_aborted hs rfl rfl
  unnamed hs := bounded_aborted hs rfl rfl
  refused _ hs := hs

end Runner

/-! ## Restoring -/

namespace Snapshot

variable {l : Library}

theorem restoreFrame_eq_ok {f : FrameSnapshot} {g : Frame} : restoreFrame l f = .ok g ↔
    ∃ script, l.get? f.scriptId = some script ∧ g = ⟨script, f.pc, f.intLocals, f.stringLocals⟩ := by
  unfold restoreFrame
  rw [Except.bind_eq_ok]
  refine exists_congr fun script => ?_
  rw [Library.require_eq_ok]
  exact and_congr_right fun _ => ⟨fun h => (Except.ok.inj h).symm, fun h => congrArg _ h.symm⟩

/-- The calls are restored one by one. -/
theorem mapM_restoreFrame_eq_ok : ∀ {frames : List FrameSnapshot} {restored : List Frame},
    frames.mapM (restoreFrame l) = .ok restored →
      List.Forall₂ (fun f g => restoreFrame l f = .ok g) frames restored
  | [], _, h => by
    cases h
    exact .nil
  | f :: frames, _, h => by
    rw [List.mapM_cons] at h
    obtain ⟨g, here, h⟩ := Except.bind_eq_ok.1 h
    obtain ⟨restored, there, h⟩ := Except.bind_eq_ok.1 h
    cases h
    exact .cons here (mapM_restoreFrame_eq_ok there)

/-- Stored calls wait within their scripts if and only if the restored ones do. -/
theorem within_iff {frames : List FrameSnapshot} {restored : List Frame}
    (pairs : List.Forall₂ (fun f g => restoreFrame l f = .ok g) frames restored) :
    (∀ f ∈ frames, ∃ script, l.get? f.scriptId = some script ∧ inRange f.pc script.length) ↔
      ∀ g ∈ restored, inRange g.pc g.script.length := by
  induction pairs with
  | nil => exact ⟨fun _ => nofun, fun _ => nofun⟩
  | @cons f g frames restored here _ ih =>
    obtain ⟨script, found, rfl⟩ := restoreFrame_eq_ok.1 here
    rw [List.forall_mem_cons, List.forall_mem_cons, ih, found]
    exact and_congr_left' ⟨fun ⟨_, same, inside⟩ => Option.some.inj same ▸ inside,
      fun inside => ⟨script, rfl, inside⟩⟩

/-- What is restored waits and stands within its script, whatever the snapshot says, and its calls are in
    bounds if and only if those of the snapshot are. -/
theorem restore_bounds {s : Snapshot} {i : Invocation} (restored : s.restore l = .ok i) :
    i.execution.isSuspended ∧ inRange i.pc i.script.length ∧
      (i.CallsBounded ↔ s.CallsBounded l) := by
  obtain ⟨-, waits, script, frames, root, -, called, inside, -, rfl⟩ := restore_eq_ok.1 restored
  refine ⟨waits, ?_, ?_⟩
  · rw [Bool.or_eq_false_iff, decide_eq_false_iff_not, decide_eq_false_iff_not,
      Int32.lt_iff_toInt_lt] at inside
    exact Runner.inRange_iff.2 ⟨Int.not_lt.1 inside.1, Int.not_le.1 inside.2⟩
  · have pairs := mapM_restoreFrame_eq_ok called
    have depth : frames.reverse.length = s.frames.length := by
      rw [List.length_reverse, pairs.length_eq]
    have within := within_iff pairs
    constructor
    · intro bounded
      exact ⟨depth ▸ bounded.depth, within.2 fun g hg => bounded.within g (List.mem_reverse.2 hg)⟩
    · intro bounded
      exact ⟨depth.le.trans bounded.depth,
        fun g hg => within.1 bounded.within g (List.mem_reverse.1 hg)⟩

end Snapshot

/-! ## Whatever can be led to -/

namespace Runner

/-- The invocations that the runner can be led to: those that are started, left by an entry in any world,
    given an answer to their count dialog, or restored from a snapshot whose calls are in bounds. -/
inductive Arises (r : Runner) : Invocation → Prop where
  | start {script : Script} {self : Option Entity} {active : List Entity} {pointers : Pointers}
      {args : List Value} {i : Invocation} :
      Invocation.start script self active pointers args = .ok i → Arises r i
  | execute {i : Invocation} (reset benchmark : Bool) (world : World) (log : List LogRecord) :
      Arises r i → Arises r (r.execute reset benchmark ⟨i, world, log⟩).invocation
  | answer {i : Invocation} (lastInt : Int32) : Arises r i → Arises r { i with lastInt }
  | restore {s : Snapshot} {i : Invocation} :
      s.CallsBounded r.library → s.restore r.library = .ok i → Arises r i

variable {r : Runner} {i : Invocation}

theorem Arises.bounded (standard : r.registry = Op.standard) (arises : r.Arises i) : i.Bounded := by
  induction arises with
  | @start script _ _ _ args _ started =>
    rw [Invocation.start_eq_ok started]
    exact (Invocation.bounded_new script args).congr rfl rfl rfl rfl
  | @execute i reset benchmark world log _ ih =>
    exact (keeps_bounded standard).execute (s := ⟨i, world, log⟩) reset benchmark ih
  | answer lastInt _ ih => exact ih.congr rfl rfl rfl rfl
  | restore bounded restored =>
    obtain ⟨-, inside, calls⟩ := Snapshot.restore_bounds restored
    exact ⟨calls.2 bounded, fun _ _ => inside⟩

theorem Arises.ne_running (arises : r.Arises i) : i.execution ≠ .running := by
  induction arises with
  | start started =>
    rw [Invocation.start_eq_ok started]
    nofun
  | @execute i reset benchmark world log _ _ =>
    exact (r.execute_outcome reset benchmark ⟨i, world, log⟩).ne_running
  | answer _ _ ih => exact ih
  | restore _ restored =>
    intro running
    have waits := (Snapshot.restore_bounds restored).1
    rw [running] at waits
    nomatch waits

/-- What is restored stands within its script, and its calls are in bounds if and only if those of the
    snapshot are.  As long as no snapshot with other calls is restored, the bounds hold wherever
    invocations are led: never do more calls wait than may, each waits within its script, and an invocation
    that was not aborted stands within its own. -/
theorem bounded_iff_restored (library : Library) (config : Config) (budget : Option UInt32) :
    (∀ (s : Snapshot) (i : Invocation), s.restore library = .ok i →
      inRange i.pc i.script.length ∧ (i.CallsBounded ↔ s.CallsBounded library)) ∧
    ∀ i, (Runner.standard library config budget).Arises i →
      i.CallsBounded ∧ (i.execution ≠ .aborted → inRange i.pc i.script.length) := by
  refine ⟨fun s i restored => (Snapshot.restore_bounds restored).2, fun i arises => ?_⟩
  have bounded := arises.bounded (standard_registry library config budget)
  exact ⟨bounded.calls, bounded.position arises.ne_running⟩

/-! ## Calls taken on trust -/

/-- A snapshot of the script that waits, with calls written into it. -/
def waitingSnapshot (frames : List FrameSnapshot) : Snapshot where
  schemaVersion := Snapshot.schema
  rootScriptId := 1
  scriptId := 1
  pc := 1
  execution := .worldSuspended
  executionHistory := [.ready]
  intStack := []
  stringStack := []
  intLocals := []
  stringLocals := []
  frames
  pointers := .none
  self := none
  activePlayers := .empty
  activeNpcs := .empty
  activeLocs := .empty
  activeObjs := .empty
  lastInt := 0
  delay := some 6
  dbTable := -1
  dbRowQuery := []
  dbCursor := 0
  args := []

/-- With one call that waits at an instruction, what is restored is in bounds. -/
theorem bounded_iff_restored_waitingScript :
    let r := standard waitingLibrary .empty none
    let s := waitingSnapshot [⟨1, 0, [], []⟩]
    ∃ i, s.restore waitingLibrary = .ok i ∧ r.Arises i ∧ i.frames.length = 1 ∧
      i.CallsBounded ∧ inRange i.pc i.script.length := by
  intro r s
  have found : waitingLibrary.get? 1 = some waitingScript := rfl
  have stored : s.CallsBounded waitingLibrary :=
    ⟨by decide, List.forall_mem_singleton.2 ⟨waitingScript, found, by decide⟩⟩
  obtain ⟨i, restored, depth⟩ :
      ∃ i, s.restore waitingLibrary = .ok i ∧ i.frames.length = 1 := ⟨_, rfl, rfl⟩
  obtain ⟨restores, arises⟩ := bounded_iff_restored waitingLibrary .empty none
  have led : r.Arises i := .restore stored restored
  exact ⟨i, restored, led, depth, (arises i led).1, (restores s i restored).1⟩

/-- There is no room for so many calls, and the script, which has two instructions, has no place for them. -/
theorem unboundedCalls_restored :
    let stored := waitingSnapshot (List.replicate 51 ⟨1, 99, [], []⟩)
    Snapshot.capture waitingStopped.invocation = .ok (waitingSnapshot []) ∧
    ofText? (toText stored) = some stored ∧
    ∃ i, stored.restore waitingLibrary = .ok i ∧ i.frames.length = 51 ∧ Invocation.maxFrames = 50 ∧
      ∀ f ∈ i.frames, f.pc = 99 ∧ f.script.length = 2 := by
  intro stored
  refine ⟨rfl, ofText?_toText (by decide) stored, _, rfl, rfl, rfl, ?_⟩
  decide

end Runner

end TickScript
