import TickScript.Proofs.Metadata
import TickScript.Proofs.Transparency

/-
  A wait is invisible to the script.

  A run that waits is cut into entries.  It is compared with a run that is never cut: that of the same
  runner with another registry, in which the five instructions that wait do what they do but let the
  invocation run on.  Both execute the same instructions and end in the same way, whatever is waited for,
  in whatever depth of calls, and however often.

    Op.unwaiting      the registry in which nothing waits
    Abreast           the run that is not cut stands where the other one stands, or would stand if it did not
                      wait; it may count its instructions differently and remembers other states
    step_abreast      one instruction keeps this
    Completes         re-entered after every wait, an invocation ends as another one does
    completes         from scenes that are abreast, by induction on what is left to the run that is not cut

  What an entry resets is the count, the history, the state and the delay.  The first two are never read by
  an instruction, and the last two stand in a run that is not cut as an entry sets them.
-/

namespace TickScript

/-! ## A registry in which nothing waits -/

/-- The registry with other handlers under the same numbers. -/
def Registry.adapt {η : Type} (f : Opcode → η → η) (r : Registry η) : Registry η :=
  ⟨r.entries.map fun slot => slot.map fun e => (e.1, f e.1 e.2)⟩

theorem Registry.handler?_adapt {η : Type} (f : Opcode → η → η) (r : Registry η) (id : Int32) :
    (r.adapt f).handler? id = (r.entry? id).map fun e => f e.1 e.2 := by
  unfold handler? entry? adapt
  cases position? id with
  | none => rfl
  | some n =>
    show Option.map _ (Option.bind (r.entries.map _)[n]? _) = Option.map _ (Option.bind r.entries[n]? _)
    rw [Array.getElem?_map]
    cases r.entries[n]? with
    | none => rfl
    | some slot => cases slot <;> rfl

namespace Op

/-- The handler, but that it leaves the state and the delay of the invocation as they were. -/
def runningOn (h : Handler) : Handler := fun env s =>
  match h env s with
  | .ok () t =>
    .ok () { t with invocation := t.invocation.suspend s.invocation.execution s.invocation.delay }
  | .error f t => .error f t

/-- The standard registry, but that the instructions that wait let the invocation run on. -/
def unwaiting : Registry Handler :=
  standard.adapt fun o h => if o ∈ Opcode.waiting then runningOn h else h

end Op

/-- The standard runner with that registry. -/
def Runner.uninterrupted (library : Library) (config : Config) (budget : Option UInt32) : Runner :=
  { standard library config budget with registry := Op.unwaiting }

namespace Runner

theorem uninterrupted_registry (library : Library) (config : Config) (budget : Option UInt32) :
    (uninterrupted library config budget).registry = Op.unwaiting := by
  simp only [uninterrupted]

theorem uninterrupted_env (library : Library) (config : Config) (budget budget' : Option UInt32) :
    (uninterrupted library config budget').env = (standard library config budget).env := by
  simp only [uninterrupted, standard, env]

end Runner

/-! ## Side by side -/

namespace Scene

/-- The scene as it would be had the invocation not stopped to wait. -/
def woken (s : Scene) : Scene :=
  if s.invocation.execution.isSuspended then
    { s with invocation := s.invocation.suspend .running none }
  else s

/-- `s.Abreast t`: but for its count of instructions and its history, `t` is what `s` would be had it not
    stopped to wait. -/
structure Abreast (s t : Scene) : Prop where
  invocation : t.invocation = { s.woken.invocation with
    opcount := t.invocation.opcount, history := t.invocation.history }
  world : t.world = s.woken.world
  delay : t.invocation.delay = none

variable {s t : Scene} {m : Mark}

theorem woken_of_suspended (suspended : s.invocation.execution.isSuspended) :
    s.woken = { s with invocation := s.invocation.suspend .running none } := if_pos suspended

theorem woken_of_not_suspended (awake : s.invocation.execution.isSuspended = false) :
    s.woken = s := if_neg (by rw [awake]; nofun)

/-- What differs only in the count and the history is a twin. -/
theorem exists_twin (same : t.invocation = { s.invocation with
      opcount := t.invocation.opcount, history := t.invocation.history })
    (world : t.world = s.world) : ∃ m, s.Twin m #[] t := by
  refine ⟨⟨t.invocation.opcount - s.invocation.opcount, some t.invocation.history⟩, ?_, ?_⟩
  · have count : s.invocation.opcount + (t.invocation.opcount - s.invocation.opcount) =
        t.invocation.opcount := by
      rw [UInt32.add_comm, UInt32.sub_add_cancel]
    show t.invocation = { s.invocation with
      opcount := s.invocation.opcount + (t.invocation.opcount - s.invocation.opcount)
      history := t.invocation.history }
    rw [count]
    exact same
  · rw [World.after_empty]
    exact world

theorem Abreast.twin (abreast : s.Abreast t) : ∃ m, s.woken.Twin m #[] t :=
  exists_twin abreast.invocation abreast.world

theorem Twin.abreast (twin : s.woken.Twin m #[] t) (delay : t.invocation.delay = none) :
    s.Abreast t := by
  refine ⟨?_, twin.world.trans (World.after_empty _), delay⟩
  rw [twin.invocation]
  rfl

end Scene

/-- The two runs go on abreast, or end with the same fault. -/
inductive EndsAbreast :
    EStateM.Result Fault Scene Unit → EStateM.Result Fault Scene Unit → Prop where
  | ok {s t : Scene} : s.Abreast t →
      s.invocation.execution = .running ∨ s.invocation.execution = .finished ∨
        s.invocation.execution.isSuspended →
      EndsAbreast (.ok () s) (.ok () t)
  | error {f : Fault} {m : Mark} {s t : Scene} : s.Twin m #[] t →
      EndsAbreast (.error f s) (.error f t)

/-- An instruction keeps the two runs abreast, if the one that is not cut does not wait. -/
theorem Op.Instruction.abreast {o : Opcode} {h : Handler} (shape : ∀ g, Instruction o g h) (env : Env)
    {m : Mark} {s t : Scene} (running : s.invocation.execution = .running) (twin : s.Twin m #[] t)
    (delay : t.invocation.delay = none) :
    EndsAbreast (h env s) ((if o ∈ Opcode.waiting then runningOn h else h) env t) := by
  have ends := (shape fun _ => False).ends env s fun _ h => h.elim
  -- The handler itself does the same in both; what is left is the wait, which the second one undoes.
  have blind := (shape fun _ => False).blind m #[] env s t twin
  generalize here : h env s = x, there : h env t = y at blind ⊢
  cases blind with
  | @error f s' t' after =>
    have fails : (if o ∈ Opcode.waiting then runningOn h else h) env t = .error f t' := by
      split
      · unfold runningOn
        rw [there]
      · exact there
    rw [fails]
    exact .error after
  | @ok _ s' t' after =>
    have goesOn : (if o ∈ Opcode.waiting then runningOn h else h) env t =
        .ok () (if o ∈ Opcode.waiting then
          { t' with invocation := t'.invocation.suspend .running none } else t') := by
      split
      · unfold runningOn
        rw [there, delay, twin.execution, running]
      · exact there
    rw [goesOn]
    have delayed : t'.invocation.delay = s'.invocation.delay := by rw [after.invocation]; rfl
    have undelayed : s.invocation.delay = none := by rw [← delay, twin.invocation]; rfl
    rcases (ends.of_ok here).stops with ⟨same, kept⟩ | ⟨rfl, finished, kept⟩ | ⟨waits, suspended⟩
    · -- Still running, so that letting it run on changes nothing.
      have goes : t'.invocation.execution = .running := by rw [after.execution, same, running]
      have undelayed : t'.invocation.delay = none := by rw [delayed, kept, undelayed]
      have untouched : t'.invocation.suspend .running none = t'.invocation := by
        unfold Invocation.suspend
        rw [← goes, ← undelayed]
      have awake : s'.woken = s' := Scene.woken_of_not_suspended (by rw [same, running]; rfl)
      rw [untouched, ite_self]
      exact .ok ((awake.symm ▸ after).abreast undelayed) (.inl (same.trans running))
    · rw [if_neg (by decide)]
      have awake : s'.woken = s' := Scene.woken_of_not_suspended (by rw [finished]; rfl)
      have undelayed : t'.invocation.delay = none := by rw [delayed, kept, undelayed]
      exact .ok ((awake.symm ▸ after).abreast undelayed) (.inr (.inl finished))
    · rw [if_pos waits]
      have woken : s'.woken.Twin m #[]
          { t' with invocation := t'.invocation.suspend .running none } := by
        rw [Scene.woken_of_suspended suspended]
        refine ⟨?_, after.world⟩
        rw [after.invocation]
        rfl
      exact .ok (woken.abreast rfl) (.inr (.inr suspended))

/-- Where an instruction is called, and which it is. -/
def Scene.place (s : Scene) : Script × Int32 × Option Int32 :=
  (s.invocation.script, s.invocation.pc, s.opcode?)

theorem Scene.Twin.place {m : Mark} {past : Array WorldEvent} {s t : Scene} (twin : s.Twin m past t) :
    t.place = s.place := by
  unfold Scene.place Scene.opcode?
  rw [twin.script, twin.pc]

/-- Every script of the library has metadata. -/
def Library.Labelled (l : Library) : Prop := ∀ id script, l.get? id = some script → script.info.isSome

namespace Runner

variable {r q : Runner} {s t : Scene} {m : Mark}

theorem step_abreast (standard : r.registry = Op.standard) (unwaiting : q.registry = Op.unwaiting)
    (same : q.env = r.env) (running : s.invocation.execution = .running) (twin : s.Twin m #[] t)
    (delay : t.invocation.delay = none) : EndsAbreast (r.step s) (q.step t) := by
  have moved := advance_twin twin
  unfold step
  dsimp only
  rw [moved.script, moved.pc]
  split
  next id there =>
    unfold dispatch
    rw [same, standard, unwaiting, Op.unwaiting, Registry.handler?_adapt, Registry.handler?]
    cases found : Op.standard.entry? id with
    | none => exact .error moved
    | some e =>
      obtain ⟨o, h⟩ := e
      obtain ⟨-, shape⟩ := Op.entry?_standard found
      exact Op.Instruction.abreast shape r.env running moved delay
  next => exact .error moved

/-- Where all scripts have metadata, an instruction leads to one that has it. -/
theorem Next.labelled (standard : r.registry = Op.standard) (library : r.library.Labelled)
    (next : r.Next s t) (named : s.invocation.script.info.isSome) (labelled : s.invocation.Labelled) :
    t.invocation.script.info.isSome ∧ t.invocation.Labelled := by
  obtain ⟨o, -, effect⟩ := step_ok standard next.step
  obtain ⟨labelledAfter, script⟩ := effect.labelled named ⟨labelled.frames, labelled.root⟩
  refine ⟨?_, labelledAfter⟩
  rcases script with has | ⟨-, found⟩
  · exact has
  · exact library _ _ found

/-! ## Re-entering after every wait -/

/-- The scene after so many further entries. -/
def reenter (r : Runner) (n : Nat) (s : Scene) : Scene :=
  r.executeAll (List.replicate n (false, false)) s

/-- Re-entered `n` times, each time after a wait, the invocation of `s` ends as that of `t` has ended, and
    calls instructions at these places. -/
structure Completes (r : Runner) (s : Scene) (n : Nat)
    (places : List (Script × Int32 × Option Int32)) (t : Scene) : Prop where
  waits : ∀ k < n, (r.reenter k s).invocation.execution.isSuspended
  ended : (r.reenter n s).invocation.execution.isTerminal
  places : (r.story (List.replicate n (false, false)) s).map Scene.place = places
  twin : ∃ m, (r.reenter n s).Twin m #[] t

theorem completes_of_isTerminal (r : Runner) (terminal : s.invocation.execution.isTerminal)
    (twin : s.Twin m #[] t) : r.Completes s 0 [] t where
  waits k h := absurd h (Nat.not_lt_zero k)
  ended := terminal
  places := rfl
  twin := ⟨m, twin⟩

theorem completes_abort (r : Runner) (twin : s.Twin m #[] t) (f : Fault) :
    r.Completes (abort s f) 0 [] (abort t f) :=
  completes_of_isTerminal r (by rw [abort_invocation]; rfl) (abort_twin twin f)

/-- Two runs in the middle of an entry: one that is cut, with so many instructions left to its entry, and one
    that is not, with so many left to all of it.  They are abreast, all scripts that the first one can be in
    have metadata, and no budget is exceeded in either. -/
structure Paired (r q : Runner) (left left' : Nat) (s t : Scene) : Prop where
  abreast : s.Abreast t
  state : s.invocation.execution = .running ∨ s.invocation.execution = .finished ∨
    s.invocation.execution.isSuspended
  named : s.invocation.script.info.isSome
  labelled : s.invocation.Labelled
  unspent : ¬ Spent (r.loop left s)
  unspent' : ¬ Spent (q.loop left' t)
  within : ∀ k, ¬ r.Exceeds false false (r.reenter k (settled (r.loop left s)))

/-- The run that is cut, re-entered after every wait, calls the same instructions as the other one and ends
    in the same way. -/
def EndTogether (r q : Runner) (left left' : Nat) (s t : Scene) : Prop :=
  ∃ n places, r.Completes (settled (r.loop left s)) n places (settled (q.loop left' t)) ∧
    (q.dispatched left' t).map Scene.place = (r.dispatched left s).map Scene.place ++ places

namespace Paired

variable {left left' : Nat}

theorem awake (pair : Paired r q left left' s t)
    (awake : s.invocation.execution.isSuspended = false) : ∃ m, s.Twin m #[] t := by
  obtain ⟨m, twin⟩ := pair.abreast.twin
  rw [Scene.woken_of_not_suspended awake] at twin
  exact ⟨m, twin⟩

/-- The script has ended, in both runs. -/
theorem endTogether_of_finished (pair : Paired r q left left' s t)
    (finished : s.invocation.execution = .finished) : EndTogether r q left left' s t := by
  obtain ⟨m, twin⟩ := pair.awake (by rw [finished]; rfl)
  have stopped : s.invocation.execution ≠ .running := by rw [finished]; nofun
  have stopped' : t.invocation.execution ≠ .running := by rw [twin.execution]; exact stopped
  unfold EndTogether
  rw [loop_stopped stopped, loop_stopped stopped', dispatched_stopped stopped,
    dispatched_stopped stopped']
  have terminal : s.invocation.execution.isTerminal := by rw [finished]; rfl
  exact ⟨0, [], completes_of_isTerminal r terminal twin, rfl⟩

/-- One instruction in both runs, if what comes after it is known. -/
theorem endTogether_of_running (standard : r.registry = Op.standard)
    (unwaiting : q.registry = Op.unwaiting) (same : q.env = r.env) (library : r.library.Labelled)
    (pair : Paired r q left left' s t) (running : s.invocation.execution = .running)
    (ih : ∀ {rest rest' : Nat} {u v : Scene}, rest' < left' → Paired r q rest rest' u v →
      EndTogether r q rest rest' u v) : EndTogether r q left left' s t := by
  obtain ⟨m, twin⟩ := pair.awake (by rw [running]; rfl)
  have running' : t.invocation.execution = .running := twin.execution.trans running
  unfold EndTogether
  cases inside : inRange s.invocation.pc s.invocation.script.length with
  | false =>
    have inside' : inRange t.invocation.pc t.invocation.script.length = false := by
      rw [twin.pc, twin.script]
      exact inside
    rw [loop_outside running inside, loop_outside running' inside', twin.pc, twin.script,
      dispatched_outside inside, dispatched_outside inside']
    exact ⟨0, [], completes_abort r twin _, rfl⟩
  | true =>
    have inside' : inRange t.invocation.pc t.invocation.script.length := by
      rw [twin.pc, twin.script]
      exact inside
    have unspent := pair.unspent
    have unspent' := pair.unspent'
    have within := pair.within
    cases left with
    | zero =>
      rw [loop_spent running inside] at unspent
      exact absurd rfl unspent
    | succ left =>
      cases left' with
      | zero =>
        rw [loop_spent running' inside'] at unspent'
        exact absurd rfl unspent'
      | succ left' =>
        have ends := step_abreast standard unwaiting same running twin pair.abreast.delay
        generalize step : r.step s = x, step' : q.step t = y at ends
        cases ends with
        | @error f n u v after =>
          have fails : r.Fails s f u := ⟨running, inside, step⟩
          have fails' : q.Fails t f v := ⟨running', inside', step'⟩
          rw [loop_fails fails, loop_fails fails', dispatched_fails fails, dispatched_fails fails']
          refine ⟨0, [], completes_abort r after f, ?_⟩
          have place := (advance_twin twin).place
          have opcode : (advance t).opcode? = (advance s).opcode? := congrArg (·.2.2) place
          rw [opcode, List.append_nil]
          cases (advance s).opcode? with
          | none => rfl
          | some id => exact congrArg (· :: []) place
        | @ok u v after state =>
          have next : r.Next s u := ⟨running, inside, step⟩
          have next' : q.Next t v := ⟨running', inside', step'⟩
          rw [loop_next next] at unspent within ⊢
          rw [loop_next next'] at unspent' ⊢
          rw [dispatched_next next, dispatched_next next']
          obtain ⟨named, labelled⟩ := next.labelled standard library pair.named pair.labelled
          obtain ⟨n, places, ended, others⟩ := ih (Nat.lt_succ_self left')
            ⟨after, state, named, labelled, unspent, unspent', within⟩
          refine ⟨n, places, ended, ?_⟩
          rw [List.map_cons, List.map_cons, others, (advance_twin twin).place, List.cons_append]

theorem admits (pair : Paired r q left left' s t) (suspended : s.invocation.execution.isSuspended) :
    Admits false s.invocation :=
  ⟨pair.named, fun _ => Execution.isTerminal_of_isSuspended suspended⟩

theorem loop_of_suspended (left : Nat) (suspended : s.invocation.execution.isSuspended) :
    r.loop left s = .ok () s ∧ r.dispatched left s = [] := by
  have stopped : s.invocation.execution ≠ .running := by
    intro running
    rw [running] at suspended
    nomatch suspended
  exact ⟨loop_stopped stopped, dispatched_stopped stopped⟩

/-- Where the one waits, it is entered again, and the other one stays where it is. -/
theorem entered (pair : Paired r q left left' s t) (suspended : s.invocation.execution.isSuspended) :
    Paired r q (r.allowance false (started false false s).invocation) left'
      (started false false s) t := by
  have admits := pair.admits suspended
  have within := pair.within
  rw [(loop_of_suspended left suspended).1] at within
  have same := pair.abreast.invocation
  have world := pair.abreast.world
  rw [Scene.woken_of_suspended suspended] at same world
  refine ⟨⟨same, world, pair.abreast.delay⟩, .inl rfl, pair.named,
    ⟨pair.labelled.frames, pair.labelled.root⟩, unspent_of_not_exceeds admits (within 0),
    pair.unspent', fun k => ?_⟩
  rw [← execute_eq r admits]
  exact within (k + 1)

theorem endTogether_of_suspended (pair : Paired r q left left' s t)
    (suspended : s.invocation.execution.isSuspended)
    (further : EndTogether r q (r.allowance false (started false false s).invocation) left'
      (started false false s) t) : EndTogether r q left left' s t := by
  obtain ⟨n, places, ended, others⟩ := further
  have admits := pair.admits suspended
  rw [← execute_eq r admits] at ended
  obtain ⟨stays, none⟩ := loop_of_suspended (r := r) left suspended
  unfold EndTogether
  rw [stays, none]
  refine ⟨n + 1, _, ⟨fun k lt => ?_, ended.ended, rfl, ended.twin⟩, ?_⟩
  · cases k with
    | zero => exact suspended
    | succ k => exact ended.waits k (Nat.lt_of_succ_lt_succ lt)
  · show _ = [] ++ (r.story ((false, false) :: List.replicate n (false, false)) s).map Scene.place
    rw [others, ← ended.places, story_of_admits admits, List.map_append, List.nil_append]

/-- By induction on what is left to the run that is not cut. -/
theorem endTogether (standard : r.registry = Op.standard) (unwaiting : q.registry = Op.unwaiting)
    (same : q.env = r.env) (library : r.library.Labelled) (left' : Nat) :
    ∀ {left : Nat} {s t : Scene}, Paired r q left left' s t → EndTogether r q left left' s t := by
  induction left' using Nat.strongRecOn with | ind left' ih => ?_
  intro left s t pair
  have step := fun {left : Nat} {s t : Scene} (pair : Paired r q left left' s t) running =>
    pair.endTogether_of_running standard unwaiting same library running fun lt => ih _ lt
  -- Entering again takes nothing from what is left to the run that is not cut, but then both are running
  -- and the next instruction does.
  rcases pair.state with running | finished | suspended
  · exact step pair running
  · exact pair.endTogether_of_finished finished
  · exact pair.endTogether_of_suspended suspended (step (pair.entered suspended) rfl)

end Paired

/-- Every script has metadata.  A run is entered again after every wait with nothing changed in between, and
    compared with a run of the same loop in which the instructions that wait let the invocation run on.  If no
    budget is exceeded in either, then the first one waits some number of times and ends; both call the same
    instructions at the same positions of the same scripts, and they end with the same world and the same
    invocation, except for the count of instructions and the history of states. -/
theorem suspension_invisible {library : Library} {config : Config} {budget budget' : Option UInt32}
    {reset : Bool} {s : Scene} (library_labelled : library.Labelled)
    (named : s.invocation.script.info.isSome) (labelled : s.invocation.Labelled)
    (within : ¬ (standard library config budget).Exceeds reset false s)
    (withinLater : ∀ n, ¬ (standard library config budget).Exceeds false false
      ((standard library config budget).reenter n
        ((standard library config budget).execute reset false s)))
    (withinWhole : ¬ (uninterrupted library config budget').Exceeds reset false s) :
    let r := standard library config budget
    let q := uninterrupted library config budget'
    let cut := fun n => r.reenter n (r.execute reset false s)
    let whole := q.execute reset false s
    ∃ n, (∀ k < n, (cut k).invocation.execution.isSuspended) ∧
      (cut n).invocation.execution.isTerminal ∧
      (r.story ((reset, false) :: List.replicate n (false, false)) s).map Scene.place =
        (q.story [(reset, false)] s).map Scene.place ∧
      whole.world = (cut n).world ∧
      whole.invocation = { (cut n).invocation with
        opcount := whole.invocation.opcount, history := whole.invocation.history } := by
  intro r q cut whole
  by_cases admits : Admits reset s.invocation
  · have start : (started reset false s).invocation.script.info.isSome ∧
        (started reset false s).invocation.Labelled := labelled_started named labelled
    have pair : Paired r q (r.allowance false (started reset false s).invocation)
        (q.allowance false (started reset false s).invocation) (started reset false s)
        (started reset false s) := by
      refine ⟨⟨rfl, rfl, rfl⟩, .inl rfl, start.1, start.2, unspent_of_not_exceeds admits within,
        unspent_of_not_exceeds admits withinWhole, ?_⟩
      rw [← execute_eq r admits]
      exact withinLater
    obtain ⟨n, places, ended, others⟩ := pair.endTogether (standard_registry library config budget)
      (uninterrupted_registry library config budget')
      (uninterrupted_env library config budget budget') library_labelled
    rw [← execute_eq r admits, ← execute_eq q admits] at ended
    obtain ⟨m, twin⟩ := ended.twin
    refine ⟨n, ended.waits, ended.ended, ?_, twin.world.trans (World.after_empty _), ?_⟩
    · rw [story_of_admits admits, story_of_admits admits, List.map_append, ended.places, ← others]
      exact congrArg _ (List.append_nil _).symm
    · rw [show whole.invocation = _ from twin.invocation]
      rfl
  · have same : whole = cut 0 := execute_refused _ _ admits _ _
    have keep : reset = false := by
      cases reset with
      | false => rfl
      | true => exact absurd ⟨named, nofun⟩ admits
    refine ⟨0, fun k lt => absurd lt (Nat.not_lt_zero k), ?_, ?_, ?_, ?_⟩
    · exact isTerminal_execute_of_refused (e := ⟨reset, false, s.world, s.log, none⟩) keep admits
    · rw [story_of_refused admits, story_of_refused admits]
      show ([] : List Scene).map Scene.place = ([] : List Scene).map Scene.place
      rfl
    · rw [same]
    · rw [same]

/-! ## A script that waits, and one that does not -/

theorem isTerminal_reenter (r : Runner) : ∀ (n : Nat) {s : Scene}, s.invocation.execution.isTerminal →
    (r.reenter n s).invocation.execution.isTerminal := by
  intro n
  induction n with
  | zero => exact fun terminal => terminal
  | succ n ih =>
    intro s terminal
    have refused : ¬ Admits false s.invocation := by
      rintro ⟨-, live⟩
      rw [live rfl] at terminal
      nomatch terminal
    exact ih (isTerminal_execute_of_refused (e := ⟨false, false, s.world, s.log, none⟩) rfl refused)

/-- An entry that ends with another fault is not ended by the budget. -/
theorem not_exceeds_of_abort {reset benchmark : Bool} {f : Fault}
    (ends : r.execute reset benchmark s = abort t f) (other : f.kind ≠ .instructionBudgetExceeded) :
    ¬ r.Exceeds reset benchmark s := by
  rintro ⟨-, -, report, told, kind⟩
  rw [ends, abort_invocation] at told
  cases told
  exact other kind

/-- The handler by which the runner that does not wait executes what a standard table lists. -/
theorem dispatch_unwaiting_of_listed (unwaiting : q.registry = Op.unwaiting)
    {table : List (Opcode × Handler)} (listed : table ∈ Op.standardTables) {o : Opcode} {h : Handler}
    (mem : (o, h) ∈ table) :
    q.dispatch o.id = if o ∈ Opcode.waiting then Op.runningOn h else h := by
  have there : Op.standard.entry? o.id = some (o, h) :=
    Op.standard_holds.entry?_eq_some.2 ⟨rfl, List.mem_flatten_of_mem listed mem⟩
  unfold dispatch
  rw [unwaiting, Op.unwaiting, Registry.handler?_adapt, there]
  rfl

/-- The script that waits has no instruction after the wait. -/
theorem execute_waitingStopped :
    (standard waitingLibrary .empty none).execute false false waitingStopped =
      abort (advance (started false false waitingStopped)) (.pcOutside 2 2) := by
  rw [execute_eq _ ⟨rfl, fun _ => rfl⟩]
  have fails : (standard waitingLibrary .empty none).Fails (started false false waitingStopped)
      (.pcOutside 2 2) (advance (started false false waitingStopped)) :=
    ⟨rfl, rfl, step_of_opcode?_eq_none rfl⟩
  have budget : (standard waitingLibrary .empty none).allowance false
      (started false false waitingStopped).invocation = 499999 + 1 := rfl
  rw [budget, loop_fails fails]
  rfl

/-- Where the wait would have been, the run that does not wait goes on. -/
def waitingPassed : Scene :=
  ⟨{ waitingPushed.invocation with pc := 1, opcount := 2, ints := [] }, .empty, []⟩

theorem execute_waitingStart_uninterrupted :
    (uninterrupted waitingLibrary .empty none).execute false false waitingStart =
      abort (advance waitingPassed) (.pcOutside 2 2) := by
  have unwaiting := uninterrupted_registry waitingLibrary .empty none
  have pushed : (uninterrupted waitingLibrary .empty none).Next (started false false waitingStart)
      waitingPushed := by
    refine ⟨rfl, rfl, ?_⟩
    have there : (advance (started false false waitingStart)).opcode? =
        some Opcode.pushConstantInt.id := rfl
    rw [step_of_opcode? there,
      dispatch_unwaiting_of_listed unwaiting Op.Language.table_listed
        (Op.mem_of_lookup .pushConstantInt rfl), if_neg (by decide)]
    rfl
  have passed : (uninterrupted waitingLibrary .empty none).Next waitingPushed waitingPassed := by
    refine ⟨rfl, rfl, ?_⟩
    have there : (advance waitingPushed).opcode? = some Opcode.worldDelay.id := rfl
    rw [step_of_opcode? there,
      dispatch_unwaiting_of_listed unwaiting Op.Surroundings.table_listed
        (Op.mem_of_lookup .worldDelay rfl), if_pos (by decide)]
    rfl
  have fails : (uninterrupted waitingLibrary .empty none).Fails waitingPassed (.pcOutside 2 2)
      (advance waitingPassed) := ⟨rfl, rfl, step_of_opcode?_eq_none rfl⟩
  have budget : (uninterrupted waitingLibrary .empty none).allowance false
      (started false false waitingStart).invocation = 499997 + 1 + 1 + 1 := rfl
  rw [execute_eq _ ⟨rfl, fun _ => rfl⟩, budget, loop_next pushed, loop_next passed, loop_fails fails]
  rfl

theorem waitingLibrary_labelled : waitingLibrary.Labelled := by
  intro id script found
  cases List.mem_singleton.1 (Library.mem_of_get?_ofScripts waitingLibrary_loaded found)
  rfl

/-- The wait of the script is invisible: its report is the one that it would have without the wait. -/
theorem suspension_invisible_waitingStart :
    let r := standard waitingLibrary .empty none
    let q := uninterrupted waitingLibrary .empty none
    r.execute false false waitingStart = waitingStopped ∧
    ∃ n, (r.reenter n waitingStopped).invocation.execution.isTerminal ∧
      (r.story ((false, false) :: List.replicate n (false, false)) waitingStart).map Scene.place =
        (q.story [(false, false)] waitingStart).map Scene.place ∧
      (q.execute false false waitingStart).invocation.abort =
        (r.reenter n waitingStopped).invocation.abort := by
  intro r q
  have waits : r.execute false false waitingStart = waitingStopped := execute_waitingStart
  have within : ¬ r.Exceeds false false waitingStart := by
    rintro ⟨-, aborted, -⟩
    rw [waits] at aborted
    nomatch aborted
  have withinLater : ∀ n, ¬ r.Exceeds false false
      (r.reenter n (r.execute false false waitingStart)) := by
    intro n
    rw [waits]
    cases n with
    | zero => exact not_exceeds_of_abort execute_waitingStopped nofun
    | succ n =>
      rintro ⟨⟨-, live⟩, -, -⟩
      have ended : (r.execute false false waitingStopped).invocation.execution.isTerminal := by
        rw [execute_waitingStopped, abort_invocation]
        rfl
      nomatch (live rfl).symm.trans (isTerminal_reenter r n ended)
  have withinWhole : ¬ q.Exceeds false false waitingStart :=
    not_exceeds_of_abort execute_waitingStart_uninterrupted nofun
  obtain ⟨n, -, ended, places, -, invocation⟩ := suspension_invisible waitingLibrary_labelled rfl
    ⟨List.forall_mem_nil _, rfl⟩ within withinLater withinWhole
  rw [execute_waitingStart] at ended invocation
  refine ⟨waits, n, ended, places, ?_⟩
  rw [invocation]

end Runner

end TickScript
