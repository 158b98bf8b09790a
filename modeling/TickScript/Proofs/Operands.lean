import TickScript.Proofs.Blindness
import TickScript.Proofs.Course
import TickScript.Proofs.Persistence

/-
  A script works on top of its stacks.

  What lies on the operand stacks when a script is entered may belong to somebody else.  It stays out of
  the script's way and the script out of its: with anything put under the two stacks an entry goes the same
  way and leaves the same stacks on top of it, up to where the script would have run out of operands by
  itself.  That holds for every instruction, however many operands it takes, because each takes them from
  the top and looks no further.

    Scene.over           the scene with something put under its stacks
    Scene.Over           so much and nothing else is different, except perhaps the remarks
    dispatched_over      the loop calls the same instructions; after an underflow there may be more
    operands_suffice     for an entry
-/

namespace TickScript

/-! ## Putting something under the stacks -/

/-- The scene with these ints and strings under its stacks. -/
def Scene.over (ints : List Int32) (strings : List String) (s : Scene) : Scene :=
  { s with invocation := { s.invocation with
      ints := s.invocation.ints ++ ints
      strings := s.invocation.strings ++ strings } }

/-- `s.Over ints strings t`: up to the remarks `t` is `s` with something put under its stacks. -/
structure Scene.Over (ints : List Int32) (strings : List String) (s t : Scene) : Prop where
  invocation : t.invocation = (s.over ints strings).invocation
  world : t.world = s.world

/-- The disguise in which only that is different. -/
def Disguise.underlay (ints : List Int32) (strings : List String) : Disguise :=
  ⟨.keep, ints, strings, #[]⟩

variable {ints : List Int32} {strings : List String} {s t : Scene}

theorem Scene.over_iff : s.Over ints strings t ↔ s.Disguised (.underlay ints strings) t := by
  have same : s.invocation.disguised (.underlay ints strings) = (s.over ints strings).invocation := by
    unfold Invocation.disguised
    rw [show (Disguise.underlay ints strings).toMark = Mark.keep from rfl, s.invocation.marked_keep]
    rfl
  have world : s.world.after (Disguise.underlay ints strings).past = s.world := World.after_empty _
  constructor
  · exact fun above => ⟨above.invocation.trans same.symm, above.world.trans world.symm⟩
  · exact fun disguised => ⟨disguised.invocation.trans same, disguised.world.trans world⟩

namespace Runner

variable {r : Runner} {benchmark : Bool}

/-! ## The loop -/

/-- The loop was ended by a fault of this kind. -/
def EndsBy (kind : FaultKind) : EStateM.Result Fault Scene Unit → Prop
  | .ok _ _ => False
  | .error f _ => f.kind = kind

/-- What is under the stacks does not show in whether the loop goes on. -/
theorem goes_over (above : s.Over ints strings t) :
    (t.invocation.execution = .running ∧ inRange t.invocation.pc t.invocation.script.length) ↔
      s.invocation.execution = .running ∧ inRange s.invocation.pc s.invocation.script.length := by
  have same := Scene.over_iff.1 above
  rw [same.execution, same.pc, same.script]

theorem advance_over (above : s.Over ints strings t) :
    (advance s).Over ints strings (advance t) ∧ (advance t).opcode? = (advance s).opcode? := by
  have moved := advance_disguised (Scene.over_iff.1 above)
  refine ⟨Scene.over_iff.2 moved, ?_⟩
  unfold Scene.opcode?
  rw [moved.script, moved.pc]

/-- The loop calls the same instructions in the same scenes, but for what is under the stacks.  Only a loop
    that runs out of operands may go on there. -/
theorem dispatched_over (standard : r.registry = Op.standard) : ∀ (left : Nat) {s t : Scene},
    s.Over ints strings t → ∃ shared later, r.dispatched left t = shared ++ later ∧
      List.Forall₂ (Scene.Over ints strings) (r.dispatched left s) shared ∧
      (EndsBy .stackUnderflow (r.loop left s) ∨ later = []) := by
  intro left
  induction left with
  | zero => exact fun _ => ⟨[], [], rfl, .nil, .inr rfl⟩
  | succ left ih =>
    intro s t above
    by_cases goes : s.invocation.execution = .running ∧
        inRange s.invocation.pc s.invocation.script.length
    · have goes' := (goes_over above).2 goes
      obtain ⟨head, opcode⟩ := advance_over above
      cases there : (advance s).opcode? with
      | none =>
        rw [dispatched_unfetched there, dispatched_unfetched (opcode.trans there)]
        exact ⟨[], [], rfl, .nil, .inr rfl⟩
      | some id =>
        have there' : (advance t).opcode? = some id := opcode.trans there
        have once := step_alike standard (Scene.over_iff.1 above)
        generalize step : r.step s = x, step' : r.step t = y at once
        cases once with
        | @ok _ u v after =>
          have next : r.Next s u := ⟨goes.1, goes.2, step⟩
          have next' : r.Next t v := ⟨goes'.1, goes'.2, step'⟩
          obtain ⟨shared, later, called, alike, ends⟩ := ih (Scene.over_iff.2 after)
          rw [dispatched_next next, dispatched_next next', loop_next next, called]
          exact ⟨advance t :: shared, later, rfl, .cons head alike, ends⟩
        | @error f u v after =>
          have fails : r.Fails s f u := ⟨goes.1, goes.2, step⟩
          have fails' : r.Fails t f v := ⟨goes'.1, goes'.2, step'⟩
          rw [dispatched_fails fails, dispatched_fails fails', there, there']
          exact ⟨[advance t], [], rfl, .cons head .nil, .inr rfl⟩
        | @underflow f u _ kind _ =>
          -- Here the other loop finds an operand under the stacks, and where it goes from there is open.
          have fails : r.Fails s f u := ⟨goes.1, goes.2, step⟩
          rw [dispatched_fails fails, there, loop_fails fails, dispatched, if_pos goes', there']
          exact ⟨[advance t], _, rfl, .cons head .nil, .inl kind⟩
    · rw [dispatched_idle goes, dispatched_idle (mt (goes_over above).1 goes)]
      exact ⟨[], [], rfl, .nil, .inr rfl⟩

/-! ## One entry -/

/-- The entry ends because the script has run out of operands. -/
structure Underflows (r : Runner) (reset benchmark : Bool) (s : Scene) : Prop where
  admits : Admits reset s.invocation
  aborted : (r.execute reset benchmark s).invocation.execution = .aborted
  report : ∃ report, (r.execute reset benchmark s).invocation.abort = some report ∧
    report.kind = .stackUnderflow

theorem underflows_of_endsBy {reset : Bool} (admits : Admits reset s.invocation)
    (ends : EndsBy .stackUnderflow (r.loop (r.allowance benchmark
      (started reset benchmark s).invocation) (started reset benchmark s))) :
    r.Underflows reset benchmark s := by
  cases ended : r.loop _ (started reset benchmark s) with
  | ok =>
    rw [ended] at ends
    exact ends.elim
  | error f t =>
    rw [ended] at ends
    obtain ⟨aborted, report, told, kind⟩ := aborted_of_loop_error admits ended
    exact ⟨admits, aborted, report, told, kind.trans ends⟩

theorem over_started (benchmark : Bool) (above : s.Over ints strings t) :
    (started false benchmark s).Over ints strings (started false benchmark t) := by
  refine ⟨?_, above.world⟩
  show entered benchmark t.invocation = _
  rw [above.invocation]
  rfl

theorem allowance_over (r : Runner) (above : s.Over ints strings t) :
    r.allowance benchmark (started false benchmark t).invocation =
      r.allowance benchmark (started false benchmark s).invocation := by
  rw [(over_started benchmark above).invocation]
  rfl

/-- An entry whose loop does not run out of operands. -/
theorem execute_over (standard : r.registry = Op.standard) (above : s.Over ints strings t)
    (admits : Admits false s.invocation) (admits' : Admits false t.invocation)
    (suffice : ¬ EndsBy .stackUnderflow (r.loop (r.allowance benchmark
      (started false benchmark s).invocation) (started false benchmark s))) :
    (r.execute false benchmark s).Over ints strings (r.execute false benchmark t) := by
  have both := loop_alike standard (r.allowance benchmark (started false benchmark s).invocation)
    (Scene.over_iff.1 (over_started benchmark above)) (.inl rfl)
  rw [execute_eq r admits, execute_eq r admits', r.allowance_over above]
  generalize r.loop _ (started false benchmark s) = x, r.loop _ (started false benchmark t) = y
    at both suffice
  cases both with
  | ok same => exact Scene.over_iff.2 same
  | error same => exact Scene.over_iff.2 (abort_disguised same _)
  | underflow kind _ => exact absurd kind suffice

/-- An entry that is refused does not look at the stacks. -/
theorem execute_over_of_refused (r : Runner) (refused : ¬ Admits false s.invocation) :
    (r.execute false benchmark s).Over ints strings
      (r.execute false benchmark (s.over ints strings)) := by
  rcases refused_of_not_admits refused with unnamed | ⟨named, -, terminal⟩
  · have unnamed' : (s.over ints strings).invocation.script.info.isNone := unnamed
    rw [r.execute_unnamed unnamed, r.execute_unnamed unnamed']
    exact ⟨rfl, rfl⟩
  · have named' : ¬ (s.over ints strings).invocation.script.info.isNone := named
    have terminal' : (s.over ints strings).invocation.execution.isTerminal := terminal
    rw [r.execute_terminal named terminal, r.execute_terminal named' terminal']
    exact ⟨rfl, rfl⟩

/-- With anything under its stacks an entry that does not reset goes the same way, unless it runs out of
    operands: it calls the same instructions in the same scenes, and leaves the same scene, but for what is
    under the stacks.  One that runs out of operands calls the same instructions up to the one that
    fails. -/
theorem operands_suffice (library : Library) (config : Config) (budget : Option UInt32)
    (benchmark : Bool) (s : Scene) (ints : List Int32) (strings : List String) :
    let r := Runner.standard library config budget
    let t := s.over ints strings
    (¬ r.Underflows false benchmark s →
      (r.execute false benchmark s).Over ints strings (r.execute false benchmark t) ∧
      List.Forall₂ (Scene.Over ints strings) (r.story [(false, benchmark)] s)
        (r.story [(false, benchmark)] t)) ∧
    (r.Underflows false benchmark s → ∃ shared later,
      r.story [(false, benchmark)] t = shared ++ later ∧
      List.Forall₂ (Scene.Over ints strings) (r.story [(false, benchmark)] s) shared) := by
  intro r t
  have standard : r.registry = Op.standard := standard_registry library config budget
  have above : s.Over ints strings t := ⟨rfl, rfl⟩
  by_cases admits : Admits false s.invocation
  · have admits' : Admits false t.invocation := admits
    obtain ⟨shared, later, called, alike, ends⟩ := dispatched_over standard
      (r.allowance benchmark (started false benchmark s).invocation) (over_started benchmark above)
    rw [story_of_admits admits, story_of_admits admits', r.allowance_over above, called]
    simp only [story, List.append_nil]
    refine ⟨fun suffice => ?_, fun _ => ⟨shared, later, rfl, alike⟩⟩
    have unspent := mt (underflows_of_endsBy admits) suffice
    rcases ends with ends | rfl
    · exact absurd ends unspent
    · rw [List.append_nil]
      exact ⟨execute_over standard above admits admits' unspent, alike⟩
  · have refused : ¬ Admits false t.invocation := admits
    rw [story_of_refused admits, story_of_refused refused]
    exact ⟨fun _ => ⟨execute_over_of_refused r admits, .nil⟩, fun _ => ⟨[], [], rfl, .nil⟩⟩

/-- The script of one wait takes only what it has pushed. -/
theorem operands_suffice_waitingStart :
    let ran := (standard waitingLibrary .empty none).execute false false
      (waitingStart.over [7] ["below"])
    ran.invocation.execution = .worldSuspended ∧ ran.invocation.ints = [7] ∧
      ran.invocation.strings = ["below"] := by
  have waits := execute_waitingStart
  have framed := operands_suffice waitingLibrary .empty none false waitingStart [7] ["below"]
  dsimp only at framed ⊢
  -- from here on the runner is closed: unfolding it would run the script
  generalize standard waitingLibrary .empty none = r at waits framed ⊢
  have suffice : ¬ r.Underflows false false waitingStart := by
    rintro ⟨-, aborted, -⟩
    rw [waits] at aborted
    nomatch aborted
  have left : (r.execute false false (waitingStart.over [7] ["below"])).invocation =
      (waitingStopped.over [7] ["below"]).invocation := by
    rw [← waits]
    exact (framed.1 suffice).1.invocation
  rw [left]
  exact ⟨rfl, rfl, rfl⟩

end Runner

end TickScript
