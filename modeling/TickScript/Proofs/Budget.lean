import TickScript.Proofs.Run

/-
  An entry is bounded, and every instruction that it calls lies in its script.

  The loop of the runner counts down what is left of the budget.  `Dispatches` describes it the other way
  round, by the counter of the invocation: before each instruction the position is checked, then the
  counter against the limit; then both are incremented and the instruction is fetched.  A derivation is
  finite, so a derivation for every scene says that the loop ends whatever the scripts do.

  For scripts of fewer than 2³¹ instructions:

    fetch       from a position p with -1 ≤ p < length, hence 0 ≤ p + 1 ≤ length without overflow
    counter     one more with each fetch, also with one past the end; never beyond the limit
    budget      exceeded only where the counter is at the limit and another fetch is due

  `execute_bounded` states this for one entry of the standard runner.
-/

namespace TickScript

/-! ## Positions -/

/-- The length of a script whose positions all are script ints. -/
def Script.IsShort (s : Script) : Prop := s.length < 2147483648

theorem Script.length_le_of_opcode?_eq_none {s : Script} {pc : Int32} (nonneg : 0 ≤ pc.toInt)
    (h : s.opcode? pc = none) : s.length ≤ pc.toInt := by
  have position : position? pc = some pc.toNatClampNeg := by
    have nonneg : 0 ≤ pc := Int32.le_iff_toInt_le.2 (Int32.toInt_zero ▸ nonneg)
    unfold position?
    rw [if_neg (Int32.not_lt.2 nonneg)]
  unfold opcode? at h
  rw [position] at h
  have outside : s.length ≤ pc.toNatClampNeg := Array.getElem?_eq_none_iff.1 h
  unfold Int32.toNatClampNeg at outside
  omega

theorem Runner.inRange_iff {pc : Int32} {length : Nat} :
    Runner.inRange pc length ↔ -1 ≤ pc.toInt ∧ pc.toInt < length := by
  unfold Runner.inRange
  rw [Bool.and_eq_true, decide_eq_true_iff, decide_eq_true_iff, Int32.le_iff_toInt_le]
  rfl

/-- Moving on from a position inside a short script does not overflow. -/
theorem Script.IsShort.toInt_next {s : Script} (short : s.IsShort) {pc : Int32}
    (inside : Runner.inRange pc s.length) : (pc + 1).toInt = pc.toInt + 1 := by
  obtain ⟨low, high⟩ := Runner.inRange_iff.1 inside
  unfold IsShort at short
  rw [Int32.toInt_add, Int32.toInt_one, Int.bmod_def]
  omega

/-- Neither does a branch: it fails instead. -/
theorem Op.branchBy_toInt {offset : Int32} {env : Env} {s t : Scene}
    (h : Op.branchBy offset env s = .ok () t) :
    t.invocation.pc.toInt = s.invocation.pc.toInt + offset.toInt := by
  unfold branchBy tryUpdate Arithmetic.checkedAdd? Arithmetic.fit? at h
  dsimp only at h
  split at h
  next i moved =>
    cases h
    split at moved
    next sum =>
      cases moved
      split at sum
      next fits =>
        cases sum
        have fits : -2147483648 ≤ s.invocation.pc.toInt + offset.toInt ∧
            s.invocation.pc.toInt + offset.toInt ≤ 2147483647 := by simpa using fits
        exact Int32.toInt_ofInt_of_le (by omega) (by omega)
      next => nomatch sum
    next => nomatch moved
  next => nomatch h

/-! ## Short scripts stay short -/

/-- All scripts that the invocation is in, came from or can be reset to are short. -/
def Invocation.ScriptsShort (i : Invocation) : Prop :=
  ∀ script ∈ i.script :: i.root :: i.frames.map (·.script), script.IsShort

def Library.ScriptsShort (l : Library) : Prop := ∀ id script, l.get? id = some script → script.IsShort

theorem Invocation.scriptsShort_iff {i : Invocation} :
    i.ScriptsShort ↔ i.script.IsShort ∧ i.root.IsShort ∧ ∀ f ∈ i.frames, f.script.IsShort := by
  unfold ScriptsShort
  rw [List.forall_mem_cons, List.forall_mem_cons, List.forall_mem_map]

theorem Scene.Restacked.scriptsShort {s t : Scene} (h : s.Restacked t)
    (short : s.invocation.ScriptsShort) : t.invocation.ScriptsShort := by
  obtain ⟨_, _, _, rfl⟩ := h
  exact short

/-- One change leads from short scripts to short scripts. -/
theorem Change.scriptsShort {env : Env} {o : Opcode} {s t : Scene} (c : Change env o s t)
    (library : env.library.ScriptsShort) (short : s.invocation.ScriptsShort) :
    t.invocation.ScriptsShort := by
  obtain ⟨script, root, frames⟩ := Invocation.scriptsShort_iff.1 short
  cases c with
  | call args _ found entered =>
    obtain ⟨-, rfl⟩ := Invocation.call_eq_ok entered
    exact Invocation.scriptsShort_iff.2
      ⟨library _ _ found, root, List.forall_mem_cons.2 ⟨script, frames⟩⟩
  | jump args _ found => exact Invocation.scriptsShort_iff.2 ⟨library _ _ found, root, nofun⟩
  | leave _ back =>
    obtain ⟨f, rest, stack, rfl⟩ := Invocation.leave?_eq_some back
    rw [stack] at frames
    obtain ⟨head, tail⟩ := List.forall_mem_cons.1 frames
    exact Invocation.scriptsShort_iff.2 ⟨head, root, tail⟩
  | nothing | branch | intLocal | stringLocal | finish | wait | search | found | lost | world
    | random => exact short

/-- No change touches the counter. -/
theorem Change.opcount {env : Env} {o : Opcode} {s t : Scene} (c : Change env o s t) :
    t.invocation.opcount = s.invocation.opcount := by
  cases c with
  | call args _ _ entered =>
    obtain ⟨-, rfl⟩ := Invocation.call_eq_ok entered
    rfl
  | leave _ back =>
    obtain ⟨_, _, -, rfl⟩ := Invocation.leave?_eq_some back
    rfl
  | nothing | branch | intLocal | stringLocal | jump | finish | wait | search | found | lost | world
    | random => rfl

theorem Scene.Restacked.opcount {s t : Scene} (h : s.Restacked t) :
    t.invocation.opcount = s.invocation.opcount := by
  obtain ⟨_, _, _, rfl⟩ := h
  rfl

theorem Effect.opcount {env : Env} {o : Opcode} {s t : Scene} (h : Effect env o s t) :
    t.invocation.opcount = s.invocation.opcount := by
  obtain ⟨_, _, before, change, after⟩ := h
  rw [after.opcount, change.opcount, before.opcount]

theorem Effect.scriptsShort {env : Env} {o : Opcode} {s t : Scene} (h : Effect env o s t)
    (library : env.library.ScriptsShort) (short : s.invocation.ScriptsShort) :
    t.invocation.ScriptsShort := by
  obtain ⟨_, _, before, change, after⟩ := h
  exact after.scriptsShort (change.scriptsShort library (before.scriptsShort short))

/-! ## The loop with its counter -/

/-- One attempt to fetch an instruction: the scene in which it was due, and the opcode that was then
    called, if there was one. -/
structure Fetch where
  due : Scene
  opcode : Option Int32

/-- A fetch moves on by one without overflow, and the position is then that of the opcode that is called, or
    right behind the script. -/
structure Fetch.InRange (f : Fetch) : Prop where
  pc : (Runner.advance f.due).invocation.pc.toInt = f.due.invocation.pc.toInt + 1
  opcount :
    (Runner.advance f.due).invocation.opcount.toNat = f.due.invocation.opcount.toNat + 1
  nonneg : 0 ≤ (Runner.advance f.due).invocation.pc.toInt
  called : ∀ id, f.opcode = some id →
    (Runner.advance f.due).invocation.pc.toInt < f.due.invocation.script.length ∧
    f.due.invocation.script.opcodes[(Runner.advance f.due).invocation.pc.toNatClampNeg]? = some id
  past : f.opcode = none →
    (Runner.advance f.due).invocation.pc.toInt = f.due.invocation.script.length

namespace Runner

/-- `r.Dispatches limit s fetches e`: from `s` the loop makes these fetches and ends with `e`. -/
inductive Dispatches (r : Runner) (limit : UInt32) :
    Scene → List Fetch → EStateM.Result Fault Scene Unit → Prop where
  | stopped {s : Scene} : s.invocation.execution ≠ .running → Dispatches r limit s [] (.ok () s)
  | outside {s : Scene} : s.invocation.execution = .running →
      inRange s.invocation.pc s.invocation.script.length = false →
      Dispatches r limit s []
        (.error (.pcOutside s.invocation.pc s.invocation.script.length) s)
  | spent {s : Scene} : s.invocation.execution = .running →
      inRange s.invocation.pc s.invocation.script.length → limit ≤ s.invocation.opcount →
      Dispatches r limit s [] (.error (.budgetExceeded s.invocation.opcount) s)
  /-- There is no instruction at the position that is then current. -/
  | past {s : Scene} : s.invocation.execution = .running →
      inRange s.invocation.pc s.invocation.script.length → s.invocation.opcount < limit →
      (advance s).invocation.script.opcode? (advance s).invocation.pc = none →
      Dispatches r limit s [⟨s, none⟩]
        (.error (.pcOutside (advance s).invocation.pc s.invocation.script.length) (advance s))
  | fault {s t : Scene} {opcode : Int32} {f : Fault} : s.invocation.execution = .running →
      inRange s.invocation.pc s.invocation.script.length → s.invocation.opcount < limit →
      (advance s).invocation.script.opcode? (advance s).invocation.pc = some opcode →
      r.dispatch opcode r.env (advance s) = .error f t →
      Dispatches r limit s [⟨s, some opcode⟩] (.error f t)
  | next {s t : Scene} {opcode : Int32} {fetches : List Fetch}
      {e : EStateM.Result Fault Scene Unit} : s.invocation.execution = .running →
      inRange s.invocation.pc s.invocation.script.length → s.invocation.opcount < limit →
      (advance s).invocation.script.opcode? (advance s).invocation.pc = some opcode →
      r.dispatch opcode r.env (advance s) = .ok () t → Dispatches r limit t fetches e →
      Dispatches r limit s (⟨s, some opcode⟩ :: fetches) e

variable {r : Runner} {limit : UInt32} {s t : Scene} {fetches : List Fetch}
  {e : EStateM.Result Fault Scene Unit}

theorem advance_pc (s : Scene) : (advance s).invocation.pc = s.invocation.pc + 1 := rfl

theorem step_of_opcode? {opcode : Int32}
    (there : (advance s).invocation.script.opcode? (advance s).invocation.pc = some opcode) :
    r.step s = r.dispatch opcode r.env (advance s) := by
  unfold step
  dsimp only
  rw [there]

theorem step_of_opcode?_eq_none
    (none : (advance s).invocation.script.opcode? (advance s).invocation.pc = none) :
    r.step s =
      .error (.pcOutside (advance s).invocation.pc s.invocation.script.length) (advance s) := by
  unfold step
  dsimp only
  rw [none]
  rfl

/-- There is only one way in which the loop can go. -/
theorem Dispatches.unique (h : r.Dispatches limit s fetches e) :
    ∀ {fetches' : List Fetch} {e' : EStateM.Result Fault Scene Unit},
      r.Dispatches limit s fetches' e' → fetches' = fetches ∧ e' = e := by
  induction h with
  | stopped stop =>
    intro _ _ h'
    cases h' with
    | stopped => exact ⟨rfl, rfl⟩
    | outside run | spent run | past run | fault run | next run => exact absurd run stop
  | outside run out =>
    intro _ _ h'
    cases h' with
    | stopped stop => exact absurd run stop
    | outside => exact ⟨rfl, rfl⟩
    | spent _ ins | past _ ins | fault _ ins | next _ ins => nomatch out.symm.trans ins
  | spent run ins full =>
    intro _ _ h'
    cases h' with
    | stopped stop => exact absurd run stop
    | outside _ out => nomatch out.symm.trans ins
    | spent => exact ⟨rfl, rfl⟩
    | past _ _ room | fault _ _ room | next _ _ room => exact absurd full (UInt32.not_le.2 room)
  | past run ins room none =>
    intro _ _ h'
    cases h' with
    | stopped stop => exact absurd run stop
    | outside _ out => nomatch out.symm.trans ins
    | spent _ _ full => exact absurd full (UInt32.not_le.2 room)
    | past => exact ⟨rfl, rfl⟩
    | fault _ _ _ there | next _ _ _ there => nomatch none.symm.trans there
  | fault run ins room there failed =>
    intro _ _ h'
    cases h' with
    | stopped stop => exact absurd run stop
    | outside _ out => nomatch out.symm.trans ins
    | spent _ _ full => exact absurd full (UInt32.not_le.2 room)
    | past _ _ _ none => nomatch none.symm.trans there
    | fault _ _ _ there' failed' =>
      cases there.symm.trans there'
      cases failed.symm.trans failed'
      exact ⟨rfl, rfl⟩
    | next _ _ _ there' done =>
      cases there.symm.trans there'
      nomatch failed.symm.trans done
  | next run ins room there done _ ih =>
    intro _ _ h'
    cases h' with
    | stopped stop => exact absurd run stop
    | outside _ out => nomatch out.symm.trans ins
    | spent _ _ full => exact absurd full (UInt32.not_le.2 room)
    | past _ _ _ none => nomatch none.symm.trans there
    | fault _ _ _ there' failed =>
      cases there.symm.trans there'
      nomatch done.symm.trans failed
    | next _ _ _ there' done' rest =>
      cases there.symm.trans there'
      cases done.symm.trans done'
      obtain ⟨rfl, rfl⟩ := ih rest
      exact ⟨rfl, rfl⟩

/-- Below the limit the counter does not overflow. -/
theorem toNat_opcount_advance (room : s.invocation.opcount < limit) :
    (advance s).invocation.opcount.toNat = s.invocation.opcount.toNat + 1 := by
  have room : s.invocation.opcount.toNat < limit.toNat := UInt32.lt_iff_toNat_lt.1 room
  have bound := limit.toNat_lt
  show (s.invocation.opcount + 1).toNat = _
  rw [UInt32.toNat_add, UInt32.toNat_one]
  omega

/-- An instruction that succeeds has counted one. -/
theorem toNat_opcount_dispatched (standard : r.registry = Op.standard) {opcode : Int32}
    (room : s.invocation.opcount < limit)
    (there : (advance s).invocation.script.opcode? (advance s).invocation.pc = some opcode)
    (done : r.dispatch opcode r.env (advance s) = .ok () t) :
    t.invocation.opcount.toNat = s.invocation.opcount.toNat + 1 := by
  obtain ⟨_, _, effect⟩ := step_ok standard ((step_of_opcode? there).trans done)
  rw [effect.opcount]
  exact toNat_opcount_advance room

/-- What the loop does when so many instructions are left is what it does under a limit that many above
    the counter. -/
theorem dispatches_loop (standard : r.registry = Op.standard) : ∀ (left : Nat) (s : Scene),
    s.invocation.opcount.toNat + left = limit.toNat →
    ∃ fetches, r.Dispatches limit s fetches (r.loop left s) := by
  intro left
  induction left with
  | zero =>
    intro s used
    by_cases running : s.invocation.execution = .running
    · cases inside : inRange s.invocation.pc s.invocation.script.length with
      | false =>
        rw [loop_outside running inside]
        exact ⟨_, .outside running inside⟩
      | true =>
        rw [loop_spent running inside]
        exact ⟨_, .spent running inside (UInt32.le_iff_toNat_le.2 (by omega))⟩
    · rw [loop_stopped running]
      exact ⟨_, .stopped running⟩
  | succ left ih =>
    intro s used
    by_cases running : s.invocation.execution = .running
    · cases inside : inRange s.invocation.pc s.invocation.script.length with
      | false =>
        rw [loop_outside running inside]
        exact ⟨_, .outside running inside⟩
      | true =>
        have room : s.invocation.opcount < limit := UInt32.lt_iff_toNat_lt.2 (by omega)
        cases there : (advance s).invocation.script.opcode? (advance s).invocation.pc with
        | none =>
          rw [loop_fails ⟨running, inside, step_of_opcode?_eq_none there⟩]
          exact ⟨_, .past running inside room there⟩
        | some opcode =>
          have step : r.step s = r.dispatch opcode r.env (advance s) := step_of_opcode? there
          cases done : r.dispatch opcode r.env (advance s) with
          | error f t =>
            rw [loop_fails ⟨running, inside, step.trans done⟩]
            exact ⟨_, .fault running inside room there done⟩
          | ok _ t =>
            have counted := toNat_opcount_dispatched standard room there done
            obtain ⟨fetches, rest⟩ := ih t (by omega)
            rw [loop_next ⟨running, inside, step.trans done⟩]
            exact ⟨_, .next running inside room there done rest⟩
    · rw [loop_stopped running]
      exact ⟨_, .stopped running⟩

/-! ## What a dispatch keeps to -/

/-- The scene that the loop leaves, whether it ends well or not. -/
def left : EStateM.Result Fault Scene Unit → Scene
  | .ok () t => t
  | .error _ t => t

/-- Every fetch counts, also the one that finds no instruction. -/
theorem Dispatches.toNat_opcount (standard : r.registry = Op.standard)
    (h : r.Dispatches limit s fetches e) :
    (left e).invocation.opcount.toNat = s.invocation.opcount.toNat + fetches.length := by
  induction h with
  | stopped _ => rfl
  | outside _ _ => rfl
  | spent _ _ _ => rfl
  | past _ _ room _ => exact toNat_opcount_advance room
  | fault _ _ room there failed =>
    have restacked := (step_error standard ((step_of_opcode? there).trans failed)).1
    exact (congrArg UInt32.toNat restacked.opcount).trans (toNat_opcount_advance room)
  | next _ _ room there done _ ih =>
    have counted := toNat_opcount_dispatched standard room there done
    rw [ih, counted, List.length_cons]
    omega

/-- The limit bounds the fetches. -/
theorem Dispatches.length_le (standard : r.registry = Op.standard)
    (h : r.Dispatches limit s fetches e) :
    s.invocation.opcount.toNat ≤ limit.toNat →
      s.invocation.opcount.toNat + fetches.length ≤ limit.toNat := by
  induction h with
  | stopped _ => exact id
  | outside _ _ => exact id
  | spent _ _ _ => exact id
  | past _ _ room _ => exact fun _ => UInt32.lt_iff_toNat_lt.1 room
  | fault _ _ room _ _ => exact fun _ => UInt32.lt_iff_toNat_lt.1 room
  | next _ _ room there done _ ih =>
    intro _
    have room' := UInt32.lt_iff_toNat_lt.1 room
    have counted := toNat_opcount_dispatched standard room there done
    have rest := ih (by omega)
    rw [List.length_cons]
    omega

theorem fetch_inRange {opcode : Option Int32} (short : s.invocation.script.IsShort)
    (inside : inRange s.invocation.pc s.invocation.script.length)
    (room : s.invocation.opcount < limit)
    (there : (advance s).invocation.script.opcode? (advance s).invocation.pc = opcode) :
    (⟨s, opcode⟩ : Fetch).InRange := by
  obtain ⟨low, high⟩ := inRange_iff.1 inside
  have moved : (advance s).invocation.pc.toInt = s.invocation.pc.toInt + 1 := by
    rw [advance_pc, short.toInt_next inside]
  have nonneg : 0 ≤ (advance s).invocation.pc.toInt := by omega
  refine ⟨moved, toNat_opcount_advance room, nonneg, fun id called => ?_, fun none => ?_⟩
  · obtain ⟨-, inside, found⟩ := Script.opcode?_eq_some (there.trans called)
    exact ⟨inside, found⟩
  · have behind := Script.length_le_of_opcode?_eq_none nonneg (there.trans none)
    change (s.invocation.script.length : Int) ≤ _ at behind
    show (advance s).invocation.pc.toInt = s.invocation.script.length
    omega

/-- Over short scripts every fetch is in range. -/
theorem Dispatches.fetches_inRange (standard : r.registry = Op.standard)
    (library : r.library.ScriptsShort) (h : r.Dispatches limit s fetches e) :
    s.invocation.ScriptsShort → ∀ f ∈ fetches, f.InRange := by
  induction h with
  | stopped _ => exact fun _ _ hf => absurd hf List.not_mem_nil
  | outside _ _ => exact fun _ _ hf => absurd hf List.not_mem_nil
  | spent _ _ _ => exact fun _ _ hf => absurd hf List.not_mem_nil
  | past _ ins room none =>
    intro short f hf
    cases List.mem_singleton.1 hf
    exact fetch_inRange (Invocation.scriptsShort_iff.1 short).1 ins room none
  | fault _ ins room there _ =>
    intro short f hf
    cases List.mem_singleton.1 hf
    exact fetch_inRange (Invocation.scriptsShort_iff.1 short).1 ins room there
  | next _ ins room there done _ ih =>
    intro short f hf
    rcases List.mem_cons.1 hf with rfl | hf
    · exact fetch_inRange (Invocation.scriptsShort_iff.1 short).1 ins room there
    · obtain ⟨_, _, effect⟩ := step_ok standard ((step_of_opcode? there).trans done)
      exact ih (effect.scriptsShort library short) f hf

/-- The budget is exceeded only where the counter is at the limit and another fetch is due. -/
theorem Dispatches.budgetExceeded (standard : r.registry = Op.standard)
    (h : r.Dispatches limit s fetches e) :
    s.invocation.opcount.toNat ≤ limit.toNat →
    ∀ f t, e = .error f t → f.kind = .instructionBudgetExceeded →
      t.invocation.opcount = limit ∧ t.invocation.execution = .running ∧
      inRange t.invocation.pc t.invocation.script.length := by
  induction h with
  | stopped _ => exact fun _ _ _ h => nomatch h
  | outside _ _ =>
    intro _ f t h kind
    cases h
    nomatch kind
  | spent run ins full =>
    intro below f t h _
    cases h
    exact ⟨UInt32.toNat_inj.1 (Nat.le_antisymm below (UInt32.le_iff_toNat_le.1 full)), run, ins⟩
  | past _ _ _ _ =>
    intro _ f t h kind
    cases h
    nomatch kind
  | fault _ _ _ there failed =>
    intro _ f t h kind
    cases h
    exact absurd kind (step_error standard ((step_of_opcode? there).trans failed)).2
  | next _ _ room there done _ ih =>
    intro _
    have room' := UInt32.lt_iff_toNat_lt.1 room
    have counted := toNat_opcount_dispatched standard room there done
    exact ih (by omega)

/-! ## Entries -/

theorem settled_opcount (e : EStateM.Result Fault Scene Unit) :
    (settled e).invocation.opcount = (left e).invocation.opcount := by
  cases e with
  | ok _ t => rfl
  | error f t =>
    show (abort t f).invocation.opcount = t.invocation.opcount
    rw [abort_invocation]

theorem scriptsShort_started {reset benchmark : Bool} (short : s.invocation.ScriptsShort) :
    (started reset benchmark s).invocation.ScriptsShort := by
  obtain ⟨script, root, frames⟩ := Invocation.scriptsShort_iff.1 short
  cases reset with
  | false => exact short
  | true => exact Invocation.scriptsShort_iff.2 ⟨root, root, nofun⟩

/-- One entry that is not refused, over short scripts: the loop has exactly one way to go, which is
    finite; every instruction that it calls is the one at the position, inside the script; the counter
    counts the fetches of this entry, whatever it stood at before, and stays within the budget; the budget
    is exceeded only when it is used up and another fetch is due; and a branch, too, moves without
    overflow. -/
theorem execute_bounded {library : Library} {config : Config} {budget : Option UInt32}
    {reset : Bool} {s : Scene} (admits : Admits reset s.invocation)
    (short : s.invocation.ScriptsShort) (libraryShort : library.ScriptsShort) :
    let r := Runner.standard library config budget
    ∃ fetches e,
      (∀ fetches' e', r.Dispatches r.budget (started reset false s) fetches' e' ↔
        fetches' = fetches ∧ e' = e) ∧
      r.execute reset false s = settled e ∧
      (∀ f ∈ fetches, f.InRange) ∧
      fetches.length ≤ r.budget.toNat ∧
      (r.execute reset false s).invocation.opcount.toNat = fetches.length ∧
      (∀ f t, e = .error f t → f.kind = .instructionBudgetExceeded →
        t.invocation.opcount = r.budget ∧ t.invocation.execution = .running ∧
        -1 ≤ t.invocation.pc.toInt ∧ t.invocation.pc.toInt < t.invocation.script.length) ∧
      (∀ opcount, r.execute reset false { s with invocation := { s.invocation with opcount } } =
        r.execute reset false s) ∧
      (∀ offset env u t, Op.branchBy offset env u = .ok () t →
        t.invocation.pc.toInt = u.invocation.pc.toInt + offset.toInt) := by
  intro r
  have standard := standard_registry library config budget
  have zero : (started reset false s).invocation.opcount = 0 := by cases reset <;> rfl
  have zero : (started reset false s).invocation.opcount.toNat = 0 := by rw [zero]; rfl
  have settles : r.execute reset false s = settled (r.loop r.budget.toNat (started reset false s)) :=
    r.execute_eq admits
  obtain ⟨fetches, run⟩ : ∃ fetches, r.Dispatches r.budget (started reset false s) fetches
      (r.loop r.budget.toNat (started reset false s)) :=
    dispatches_loop standard _ _ (by omega)
  refine ⟨fetches, _, ?_, settles,
    run.fetches_inRange standard libraryShort (scriptsShort_started short), ?_, ?_, ?_, ?_,
    fun _ _ _ _ => Op.branchBy_toInt⟩
  · intro fetches' e'
    constructor
    · exact run.unique
    · rintro ⟨rfl, rfl⟩
      exact run
  · have bound := run.length_le standard (by omega)
    omega
  · have counted := run.toNat_opcount standard
    rw [settles, settled_opcount]
    omega
  · intro f t failed kind
    obtain ⟨full, running, inside⟩ := run.budgetExceeded standard (by omega) f t failed kind
    exact ⟨full, running, inRange_iff.1 inside⟩
  · exact fun opcount => execute_recounted admits opcount

/-- A script that branches to itself. -/
def spinningScript : Script :=
  ⟨1, some ⟨"spin", "spin.rs2", -1, [], #[], #[]⟩, 0, 0, 0, 0, #[Opcode.branch.id], #[-1], #[], #[]⟩

/-- An invocation of it that has not run. -/
def spinningStart : Invocation := Invocation.new spinningScript []

/-- The scene before its next round, when it has gone so many. -/
def spinningScene (opcount : UInt32) : Scene :=
  ⟨{ Runner.entered false spinningStart with opcount }, .empty, []⟩

/-- It is stopped for its budget after as many instructions as it may execute. -/
theorem execute_bounded_spinningScript :
    let stopped :=
      ((Runner.standard .empty .empty (some 2)).execute false false ⟨spinningStart, .empty, []⟩).invocation
    stopped.opcount = 2 ∧ stopped.execution = .aborted ∧
      stopped.abort.map (·.kind) = some .instructionBudgetExceeded ∧
      ∃ fetches : List Fetch, fetches.length = 2 ∧ (∀ f ∈ fetches, f.InRange) ∧
        stopped.opcount.toNat = fetches.length := by
  have short : spinningStart.ScriptsShort :=
    Invocation.scriptsShort_iff.2
      ⟨(by decide : 1 < 2147483648), (by decide : 1 < 2147483648), fun _ h => absurd h List.not_mem_nil⟩
  have libraryShort : Library.empty.ScriptsShort := fun _ _ h => by cases h
  have admits : Admits false spinningStart := ⟨rfl, fun _ => rfl⟩
  have bounded := @execute_bounded .empty .empty (some 2) false ⟨spinningStart, .empty, []⟩ admits short
    libraryShort
  obtain ⟨fetches, e, unique, settles, inRange, -, counted, -⟩ := bounded
  let r := Runner.standard .empty .empty (some 2)
  have branches : r.dispatch Opcode.branch.id = Op.Language.branch :=
    dispatch_of_listed (standard_registry _ _ _) Op.Language.table_listed (Op.mem_of_lookup .branch rfl)
  have first : r.dispatch Opcode.branch.id r.env (advance (spinningScene 0)) =
      .ok () (spinningScene 1) := by
    rw [branches]
    rfl
  have second : r.dispatch Opcode.branch.id r.env (advance (spinningScene 1)) =
      .ok () (spinningScene 2) := by
    rw [branches]
    rfl
  have rounds : r.Dispatches 2 (spinningScene 0)
      [⟨spinningScene 0, some Opcode.branch.id⟩, ⟨spinningScene 1, some Opcode.branch.id⟩]
      (.error (.budgetExceeded 2) (spinningScene 2)) :=
    .next rfl rfl (by decide) rfl first (.next rfl rfl (by decide) rfl second (.spent rfl rfl (by decide)))
  obtain ⟨rfl, rfl⟩ := (unique _ _).1 rounds
  have aborted := (congrArg Scene.invocation settles).trans (abort_invocation _ _)
  exact ⟨congrArg (·.opcount) aborted, congrArg (·.execution) aborted,
    congrArg (·.abort.map (·.kind)) aborted, _, rfl, inRange, counted⟩

end Runner

end TickScript
