import TickScript.Proofs.Invariant
import TickScript.Proofs.Json.Records

/-
  Storing a waiting invocation and going on from the stored one.

  A snapshot names scripts by id and leaves out two fields: the count of instructions and the report of a
  failed run.  What is left out is not missed: an entry counts from zero, and a waiting invocation has no
  report.  What is named is found again, because every script of a reachable invocation is the library's
  own, and the position passes the check, because a waiting invocation stands on an instruction.

  What a snapshot has to pass, and what then comes out of it, is said once (`restore_eq_ok`).  Here the
  invocation is restored but for its count (`restore_capture`), and entries that start with different
  counts go the same way (`executeAll_recounted`).  `persistence_invisible` joins these two, and says so
  also of the text of the snapshot.
-/

namespace TickScript

/-- What waits has not ended. -/
theorem Execution.isTerminal_of_isSuspended {e : Execution} :
    e.isSuspended → e.isTerminal = false := by
  cases e <;> decide

/-! ## Taking and restoring -/

namespace Snapshot

variable {l : Library} {i : Invocation}

theorem restoreFrame_ofFrame {f : Frame} (found : l.get? f.script.id = some f.script) :
    restoreFrame l (ofFrame f) = .ok f := by
  unfold restoreFrame
  dsimp only [ofFrame]
  rw [Library.require_eq_ok.2 found]
  rfl

theorem mapM_restoreFrame : ∀ {frames : List Frame},
    (∀ f ∈ frames, l.get? f.script.id = some f.script) →
    (frames.map ofFrame).mapM (restoreFrame l) = .ok frames
  | [], _ => rfl
  | f :: frames, h => by
    obtain ⟨here, there⟩ := List.forall_mem_cons.1 h
    rw [List.map_cons, List.mapM_cons, restoreFrame_ofFrame here, mapM_restoreFrame there]
    rfl

/-- A waiting invocation stands inside its script. -/
theorem position_inside {pc : Int32} {script : Script} (there : (script.opcode? pc).isSome) :
    (pc < -1 || script.length ≤ pc.toInt) = false := by
  obtain ⟨id, found⟩ := Option.isSome_iff_exists.1 there
  obtain ⟨nonneg, inside, -⟩ := Script.opcode?_eq_some found
  have low : ¬ pc < -1 := by
    rw [Int32.lt_iff_toInt_lt]
    exact Int.not_lt.2 (Int.le_trans (by decide) nonneg)
  rw [decide_eq_false low, decide_eq_false (Int.not_le.2 inside)]
  rfl

/-- The invocation of a snapshot with these scripts and calls. -/
def resumed (s : Snapshot) (script root : Script) (frames : List Frame) : Invocation where
  script := script
  execution := s.execution
  history := s.executionHistory
  pc := s.pc
  opcount := 0
  frames := frames.reverse
  ints := s.intStack.reverse
  strings := s.stringStack.reverse
  intLocals := s.intLocals
  stringLocals := s.stringLocals
  pointers := s.pointers
  self := s.self
  players := s.activePlayers
  npcs := s.activeNpcs
  locs := s.activeLocs
  objs := s.activeObjs
  lastInt := s.lastInt
  delay := s.delay
  query := ⟨s.dbTable, s.dbRowQuery, s.dbCursor⟩
  abort := none
  root := root
  args := s.args

/-- Everything that a snapshot has to pass to be restored. -/
theorem restore_eq_ok {s : Snapshot} {j : Invocation} : s.restore l = .ok j ↔
    s.schemaVersion = schema ∧ s.execution.isSuspended ∧ ∃ script frames root,
      l.get? s.scriptId = some script ∧ s.frames.mapM (restoreFrame l) = .ok frames ∧
      (s.pc < -1 || script.length ≤ s.pc.toInt) = false ∧ l.get? s.rootScriptId = some root ∧
      j = s.resumed script root frames := by
  constructor
  · intro restored
    unfold restore at restored
    dsimp only at restored
    split at restored
    · nomatch restored
    next version =>
    split at restored
    · nomatch restored
    next waits =>
    obtain ⟨script, found, restored⟩ := Except.bind_eq_ok.1 restored
    obtain ⟨frames, called, restored⟩ := Except.bind_eq_ok.1 restored
    split at restored
    · nomatch restored
    next inside =>
    obtain ⟨root, start, restored⟩ := Except.bind_eq_ok.1 restored
    exact ⟨Decidable.not_not.1 version, by simpa using waits, script, frames, root,
      Library.require_eq_ok.1 found, called, Bool.eq_false_iff.2 inside, Library.require_eq_ok.1 start,
      (Except.ok.inj restored).symm⟩
  · rintro ⟨version, waits, script, frames, root, found, called, inside, start, rfl⟩
    unfold restore
    simp only [ne_eq, version, not_true_eq_false, if_false, waits, Bool.not_true, Bool.false_eq_true]
    refine Except.bind_eq_ok.2 ⟨_, Library.require_eq_ok.2 found, ?_⟩
    refine Except.bind_eq_ok.2 ⟨_, called, ?_⟩
    rw [if_neg (by rw [inside]; nofun)]
    exact Except.bind_eq_ok.2 ⟨_, Library.require_eq_ok.2 start, rfl⟩

/-- What is taken of a sound waiting invocation is restored to it, but for its count. -/
theorem restore_capture (sound : i.Sound l) (suspended : i.execution.isSuspended) :
    ∃ s, capture i = .ok s ∧ s.restore l = .ok { i with opcount := 0 } := by
  have taken : capture i = .ok _ := if_neg (by rw [suspended]; nofun)
  have frames := mapM_restoreFrame fun f h => sound.frames f (List.mem_reverse.1 h)
  have inside := position_inside (sound.waiting suspended)
  have unreported := sound.abort_eq_none fun h => by
    rw [h] at suspended
    nomatch suspended
  refine ⟨_, taken, restore_eq_ok.2 ⟨rfl, suspended, _, _, _, sound.script, frames, inside,
    sound.root, ?_⟩⟩
  unfold resumed
  dsimp only
  rw [List.reverse_reverse, List.reverse_reverse, List.reverse_reverse, ← unreported]

/-- What is taken and restored in any library is the same but for scripts and calls, the count and the
    report. -/
theorem restore_of_capture {s : Snapshot} {j : Invocation} (taken : capture i = .ok s)
    (restored : s.restore l = .ok j) :
    j = { i with script := j.script, frames := j.frames, root := j.root, opcount := 0, abort := none } := by
  unfold capture at taken
  split at taken
  · nomatch taken
  cases taken
  obtain ⟨-, -, script, frames, root, -, -, -, -, rfl⟩ := restore_eq_ok.1 restored
  unfold resumed
  dsimp only
  rw [List.reverse_reverse, List.reverse_reverse]

end Snapshot

/-! ## Going on -/

namespace Runner

variable {r : Runner} {s : Scene}

/-- Whatever the entries, other counts at the start lead to the same scene but for the count. -/
theorem executeAll_recounted : ∀ (resets : List Bool) (s : Scene) (count : UInt32),
    ∃ count', r.executeAll (resets.map (·, false)) (s.recounted count) =
      (r.executeAll (resets.map (·, false)) s).recounted count'
  | [], _, count => ⟨count, rfl⟩
  | reset :: resets, s, count => by
    by_cases admits : Admits reset s.invocation
    · refine ⟨(r.executeAll ((reset :: resets).map (·, false)) s).invocation.opcount, ?_⟩
      show r.executeAll _ (r.execute reset false (s.recounted count)) = _
      rw [execute_recounted admits]
      rfl
    · show ∃ count', r.executeAll _ (r.execute reset false (s.recounted count)) = _
      rw [execute_recounted_of_refused admits]
      exact executeAll_recounted resets _ count

theorem executeAll_recounted_of_admits {reset : Bool} (admits : Admits reset s.invocation)
    (resets : List Bool) (count : UInt32) :
    r.executeAll ((reset :: resets).map (·, false)) (s.recounted count) =
      r.executeAll ((reset :: resets).map (·, false)) s := by
  show r.executeAll _ (r.execute reset false (s.recounted count)) = _
  rw [execute_recounted admits]
  rfl

/-- A waiting invocation that can be reached has a snapshot, which is read back from its text and restored
    to the invocation, but for the count of instructions.  From then on both go the same way: after any
    entries, in any world, everything but the count is the same, and the count, too, once the script was
    entered again. -/
theorem persistence_invisible {scripts : List Script} {library : Library}
    (loaded : Library.ofScripts scripts = .ok library) {config : Config} {budget : Option UInt32}
    {i : Invocation} (reached : (Runner.standard library config budget).Reached i)
    (suspended : i.execution.isSuspended) :
    let r := Runner.standard library config budget
    ∃ snapshot restored,
      Snapshot.capture i = .ok snapshot ∧
      ofText? (toText snapshot) = some snapshot ∧
      snapshot.restore library = .ok restored ∧
      restored = { i with opcount := 0 } ∧
      ∀ (resets : List Bool) (world : World) (log : List LogRecord),
        (∃ count, r.executeAll (resets.map (·, false)) ⟨restored, world, log⟩ =
          (r.executeAll (resets.map (·, false)) ⟨i, world, log⟩).recounted count) ∧
        (resets ≠ [] → i.script.info.isSome →
          r.executeAll (resets.map (·, false)) ⟨restored, world, log⟩ =
            r.executeAll (resets.map (·, false)) ⟨i, world, log⟩) := by
  intro r
  have sound : i.Sound library :=
    reached.sound (standard_registry library config budget) (Library.keepsIds_ofScripts loaded)
  obtain ⟨snapshot, taken, restored⟩ := Snapshot.restore_capture sound suspended
  refine ⟨snapshot, _, taken, ofText?_toText (by decide) snapshot, restored, rfl, ?_⟩
  intro resets world log
  refine ⟨executeAll_recounted resets ⟨i, world, log⟩ 0, fun entered named => ?_⟩
  cases resets with
  | nil => exact absurd rfl entered
  | cons reset resets =>
    have admits : Admits reset (⟨i, world, log⟩ : Scene).invocation :=
      ⟨named, fun _ => Execution.isTerminal_of_isSuspended suspended⟩
    exact executeAll_recounted_of_admits admits resets 0

/-! ## A script that waits -/

/-- A script that waits with the world for five ticks. -/
def waitingScript : Script :=
  ⟨1, some ⟨"wait", "wait.rs2", -1, [], #[], #[]⟩, 0, 0, 0, 0,
    #[Opcode.pushConstantInt.id, Opcode.worldDelay.id], #[5], #[], #[]⟩

def waitingLibrary : Library := (Library.ofScripts [waitingScript]).toOption.getD .empty

theorem waitingLibrary_loaded : Library.ofScripts [waitingScript] = .ok waitingLibrary := rfl

def waitingStart : Scene := ⟨Invocation.new waitingScript [], .empty, []⟩

/-- The scene after the first instruction. -/
def waitingPushed : Scene :=
  ⟨{ entered false (Invocation.new waitingScript []) with pc := 0, opcount := 1, ints := [5] },
    .empty, []⟩

/-- The scene after both instructions. -/
def waitingStopped : Scene :=
  ⟨{ entered false (Invocation.new waitingScript []) with
      execution := .worldSuspended, pc := 1, opcount := 2, delay := some 6 },
    .empty, []⟩

theorem next_waitingPushed :
    (standard waitingLibrary .empty none).Next (started false false waitingStart) waitingPushed :=
  next_of_listed (standard_registry _ _ _) Op.Language.table_listed (Op.mem_of_lookup .pushConstantInt rfl)
    rfl rfl rfl rfl

theorem next_waitingStopped :
    (standard waitingLibrary .empty none).Next waitingPushed waitingStopped :=
  next_of_listed (standard_registry _ _ _) Op.Surroundings.table_listed
    (Op.mem_of_lookup .worldDelay rfl) rfl rfl rfl rfl

theorem execute_waitingStart :
    (standard waitingLibrary .empty none).execute false false waitingStart = waitingStopped := by
  rw [execute_eq _ ⟨rfl, fun _ => rfl⟩]
  have budget : (standard waitingLibrary .empty none).allowance false
      (started false false waitingStart).invocation = 499998 + 1 + 1 := rfl
  rw [budget, loop_next next_waitingPushed, loop_next next_waitingStopped, loop_stopped (by decide)]
  rfl

/-- It is stored after two instructions and restored with its count at zero. -/
theorem persistence_invisible_waitingScript :
    ∃ i snapshot, (standard waitingLibrary .empty none).Reached i ∧ i.opcount = 2 ∧
      Snapshot.capture i = .ok snapshot ∧ ofText? (toText snapshot) = some snapshot ∧
      snapshot.restore waitingLibrary = .ok { i with opcount := 0 } := by
  have found : waitingLibrary.get? 1 = some waitingScript := rfl
  have started : Invocation.start waitingScript none [] .none [] = .ok waitingStart.invocation := rfl
  have reached : (standard waitingLibrary .empty none).Reached
      ((standard waitingLibrary .empty none).execute false false waitingStart).invocation :=
    .execute false false .empty [] (.start found started)
  rw [execute_waitingStart] at reached
  obtain ⟨snapshot, _, taken, read, restored, rfl, -⟩ :=
    persistence_invisible waitingLibrary_loaded reached rfl
  exact ⟨_, snapshot, reached, rfl, taken, read, restored⟩

end Runner

end TickScript
