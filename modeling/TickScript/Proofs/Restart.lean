import TickScript.Proofs.Course
import TickScript.Proofs.Persistence
import TickScript.Proofs.Twins

/-
  An entry that resets is the first entry of a new invocation.

  Resetting goes back to the script that was invoked, with its arguments, and clears whatever a run may
  leave behind, save for the history.  For that to be a fresh start, the invocation has to remember to the
  end what it was started with, and nothing may ever look at the history.

    Invocation.Remembers     the script and the arguments that the invocation was started with
    Change.remembers         no change touches them, so no run does
    Invocation.renewed       a new invocation with the bindings of another one
    restarted_twin           entered with a reset, it is the twin of the new one, but for the history

  Twins go the same way (`loop_twin`), and this is `execute_reset_eq_renewed`.
-/

namespace TickScript

/-! ## What an invocation was started with -/

/-- The script and the arguments that the invocation was started with. -/
structure Invocation.Remembers (script : Script) (args : List Value) (i : Invocation) : Prop where
  root : i.root = script
  args : i.args = args

variable {script : Script} {args : List Value}

/-- No change touches what the invocation was started with. -/
theorem Change.remembers {env : Env} {o : Opcode} {s t : Scene} (c : Change env o s t)
    (hs : s.invocation.Remembers script args) : t.invocation.Remembers script args := by
  cases c with
  | call _ _ _ entered =>
    obtain ⟨-, rfl⟩ := Invocation.call_eq_ok entered
    exact ⟨hs.root, hs.args⟩
  | leave _ back =>
    obtain ⟨_, _, -, rfl⟩ := Invocation.leave?_eq_some back
    exact ⟨hs.root, hs.args⟩
  | nothing | branch | intLocal | stringLocal | jump | finish | wait | search | found | lost | world
  | random => exact ⟨hs.root, hs.args⟩

namespace Runner

variable {r : Runner} {s t : Scene}

theorem Next.remembers (standard : r.registry = Op.standard) (next : r.Next s t)
    (hs : s.invocation.Remembers script args) : t.invocation.Remembers script args := by
  obtain ⟨o, -, u, v, before, change, after⟩ := step_ok standard next.step
  obtain ⟨ints, strings, log, rfl⟩ := before
  have hv : v.invocation.Remembers script args := change.remembers ⟨hs.root, hs.args⟩
  obtain ⟨ints, strings, log, rfl⟩ := after
  exact ⟨hv.root, hv.args⟩

theorem Fails.remembers (standard : r.registry = Op.standard) {f : Fault} (fails : r.Fails s f t)
    (hs : s.invocation.Remembers script args) : t.invocation.Remembers script args := by
  obtain ⟨ints, strings, log, rfl⟩ := (step_error standard fails.step).1
  exact ⟨hs.root, hs.args⟩

/-- Nor does any part of an entry. -/
theorem keeps_remembers (standard : r.registry = Op.standard) :
    r.Keeps fun s => s.invocation.Remembers script args where
  started {reset} _ _ _ hs := by
    cases reset <;> exact ⟨hs.root, hs.args⟩
  next next hs := next.remembers standard hs
  fails fails hs := fails.remembers standard hs
  reported f hs := by
    rw [abort_invocation]
    exact ⟨hs.root, hs.args⟩
  unnamed hs := ⟨hs.root, hs.args⟩
  refused _ hs := hs

/-! ## Where entries lead -/

/-- The invocation that entries one after the other leave. -/
def leaves (r : Runner) (entries : List Entry) (i : Invocation) : Invocation :=
  entries.foldl (fun i e => (r.execute e.reset e.benchmark (e.scene i)).invocation) i

theorem leaves_singleton (r : Runner) (e : Entry) (i : Invocation) :
    r.leaves [e] i = (r.execute e.reset e.benchmark (e.scene i)).invocation := rfl

/-- Whatever an entry keeps is kept by any entries. -/
theorem leaves_induction {P : Invocation → Prop} {i : Invocation} (start : P i)
    (entry : ∀ (e : Entry) {i : Invocation}, P i →
      P (r.execute e.reset e.benchmark (e.scene i)).invocation)
    (entries : List Entry) : P (r.leaves entries i) := by
  induction entries generalizing i with
  | nil => exact start
  | cons e entries ih => exact ih (entry e start)

end Runner

/-! ## Starting anew -/

/-- A new invocation with what another one is about and bound to, what it may touch, and what was
    answered. -/
def Invocation.renewed (script : Script) (args : List Value) (i : Invocation) : Invocation :=
  { Invocation.new script args with
    self := i.self, pointers := i.pointers, players := i.players, npcs := i.npcs, locs := i.locs,
    objs := i.objs, lastInt := i.lastInt }

namespace Runner

variable {r : Runner} {i : Invocation}

/-- An invocation that is entered with a reset is the twin of a new one, but for its history. -/
theorem restarted_twin (remembers : i.Remembers script args) (stopped : i.execution ≠ .running)
    (world : World) (log log' : List LogRecord) :
    (started false false ⟨i.renewed script args, world, log'⟩).Twin
      ⟨0, some (i.history ++ [i.execution])⟩ #[] (started true false ⟨i, world, log⟩) := by
  obtain ⟨rfl, rfl⟩ := remembers
  refine ⟨?_, (World.after_empty world).symm⟩
  show { i.reset with
    opcount := 0,
    history := if i.execution = Execution.running then i.history else i.history ++ [i.execution],
    execution := Execution.running, delay := none } = _
  rw [if_neg stopped]
  rfl

/-- After any entries the invocation still remembers what it was started with, is sound and does not
    run. -/
theorem remembers_leaves (standard : r.registry = Op.standard) (ids : r.library.KeepsIds)
    (found : r.library.get? script.id = some script) {self : Option Entity} {active : List Entity}
    {pointers : Pointers} (begun : Invocation.start script self active pointers args = .ok i)
    (entries : List Entry) :
    let j := r.leaves entries i
    j.Remembers script args ∧ j.Sound r.library ∧ j.execution ≠ .running := by
  refine leaves_induction (P := fun j =>
      j.Remembers script args ∧ j.Sound r.library ∧ j.execution ≠ .running)
    ⟨?_, Invocation.sound_start found begun, ?_⟩ ?_ entries
  · rw [Invocation.start_eq_ok begun]
    exact ⟨rfl, rfl⟩
  · rw [Invocation.start_eq_ok begun]
    nofun
  · rintro e j ⟨remembers, sound, -⟩
    have outcome := r.execute_outcome e.reset e.benchmark (e.scene j)
    exact ⟨(keeps_remembers standard).outcome outcome ⟨remembers.root, remembers.args⟩,
      (keeps_sound standard ids).outcome outcome (sound.congr rfl), outcome.ne_running⟩

/-- All scripts of the library have metadata, and an invocation of one of them was left by any entries, in
    any worlds.  To enter it with a reset does the same to the world as to enter a new invocation of the
    script with the same arguments, which was given the permissions, the bindings and the answer of the
    former, and leaves the same invocation, but for the history: this goes on from where it was. -/
theorem execute_reset_eq_renewed {scripts : List Script} {library : Library}
    (loaded : Library.ofScripts scripts = .ok library) (labelled : ∀ s ∈ scripts, s.info.isSome)
    (config : Config) (budget : Option UInt32) {id : Int32} (found : library.get? id = some script)
    {self : Option Entity} {active : List Entity} {pointers : Pointers} {begun : Invocation}
    (start : Invocation.start script self active pointers args = .ok begun) (entries : List Entry)
    (world : World) (log log' : List LogRecord) :
    let r := Runner.standard library config budget
    let i := r.leaves entries begun
    let again := r.execute true false ⟨i, world, log⟩
    let anew := r.execute false false ⟨i.renewed script args, world, log'⟩
    again.world = anew.world ∧
    again.invocation = { anew.invocation with history := i.history ++ [i.execution] } := by
  intro r i
  have standard : r.registry = Op.standard := standard_registry library config budget
  have ids : r.library.KeepsIds := Library.keepsIds_ofScripts loaded
  have same : script.id = id := ids id script found
  obtain ⟨remembers, sound, stopped⟩ :=
    remembers_leaves standard ids (same ▸ found) start entries
  have named (s : Script) (id : Int32) (found : library.get? id = some s) : s.info.isSome :=
    labelled s (Library.mem_of_get?_ofScripts loaded found)
  have admits : Admits true i := ⟨named _ _ sound.script, nofun⟩
  have admits' : Admits false (i.renewed script args) := ⟨named _ _ found, fun _ => rfl⟩
  have twin := settled_twin (loop_twin standard r.budget.toNat
    (restarted_twin remembers stopped world log log') (.inl rfl))
  intro again anew
  have hagain : again = _ := r.execute_eq admits
  have hanew : anew = _ := r.execute_eq admits'
  rw [hagain, hanew]
  refine ⟨twin.world.trans (World.after_empty _), twin.invocation.trans ?_⟩
  unfold Invocation.marked
  rw [UInt32.add_zero]
  rfl

/-- A script that was left waiting starts anew, with empty stacks, and is left waiting where the new one
    is. -/
theorem execute_reset_eq_renewed_waitingStart :
    let r := standard waitingLibrary .empty none
    let entry : Entry := ⟨false, false, .empty, [], none⟩
    Library.ofScripts [waitingScript] = .ok waitingLibrary ∧
    (∀ s ∈ [waitingScript], s.info.isSome) ∧
    waitingLibrary.get? 1 = some waitingScript ∧
    Invocation.start waitingScript none [] .none [] = .ok waitingStart.invocation ∧
    r.leaves [entry] waitingStart.invocation = waitingStopped.invocation ∧
    (r.execute true false waitingStopped).invocation =
      { waitingStopped.invocation with history := [.ready, .worldSuspended] } := by
  intro r entry
  have labelled : ∀ s ∈ [waitingScript], s.info.isSome := List.forall_mem_singleton.2 rfl
  have found : waitingLibrary.get? 1 = some waitingScript := rfl
  have start : Invocation.start waitingScript none [] .none [] = .ok waitingStart.invocation := rfl
  have entered : r.execute false false waitingStart = waitingStopped := execute_waitingStart
  have left : r.leaves [entry] waitingStart.invocation = waitingStopped.invocation := by
    rw [leaves_singleton]
    show (r.execute false false waitingStart).invocation = _
    rw [entered]
  have again : (r.execute true false ⟨r.leaves [entry] waitingStart.invocation, .empty, []⟩).invocation =
      { (r.execute false false ⟨(r.leaves [entry] waitingStart.invocation).renewed waitingScript [],
          .empty, []⟩).invocation with
        history := (r.leaves [entry] waitingStart.invocation).history ++
          [(r.leaves [entry] waitingStart.invocation).execution] } :=
    (execute_reset_eq_renewed waitingLibrary_loaded labelled .empty none found start [entry] .empty
      [] []).2
  clear_value r
  have renewed : waitingStopped.invocation.renewed waitingScript [] = waitingStart.invocation := rfl
  rw [left, renewed] at again
  refine ⟨waitingLibrary_loaded, labelled, found, start, left, ?_⟩
  have anew : r.execute false false ⟨waitingStart.invocation, .empty, []⟩ = waitingStopped := entered
  rw [anew] at again
  exact again

end Runner

end TickScript
