import TickScript.Proofs.Budget
import TickScript.Proofs.Persistence
import TickScript.Proofs.Twins

/-
  The budget is transparent: it decides how long a script may run, and nothing else.

  A run that its budget does not end needs some number of instructions, and it goes the same way whenever
  that many are allowed.  A benchmark, which is held to no budget, starts from another count, but the count
  is read only where the budget is checked.

    Exceeds               the entry is ended by its budget
    loop_lasts            a loop that ends before its budget uses a number of instructions, and its counter
                          tells which; with at least as many it ends the same way
    budget_transparent    larger budgets, and benchmarks, make no difference to an entry within its budget
-/

namespace TickScript.Runner

variable {r : Runner} {s : Scene} {reset benchmark : Bool}

/-- The entry is ended by the budget. -/
structure Exceeds (r : Runner) (reset benchmark : Bool) (s : Scene) : Prop where
  admits : Admits reset s.invocation
  aborted : (r.execute reset benchmark s).invocation.execution = .aborted
  report : ∃ report, (r.execute reset benchmark s).invocation.abort = some report ∧
    report.kind = .instructionBudgetExceeded

/-- The loop of an entry within its budget is not ended by the budget. -/
theorem unspent_of_not_exceeds (admits : Admits reset s.invocation)
    (within : ¬ r.Exceeds reset benchmark s) :
    ¬ Spent (r.loop (r.allowance benchmark (started reset benchmark s).invocation)
      (started reset benchmark s)) := by
  intro spent
  cases ended : r.loop _ (started reset benchmark s) with
  | ok =>
    rw [ended] at spent
    exact spent
  | error f t =>
    rw [ended] at spent
    obtain ⟨aborted, report, told, kind⟩ := aborted_of_loop_error admits ended
    exact within ⟨admits, aborted, report, told, kind.trans spent⟩

/-- A loop that calls nothing does so however many instructions are allowed. -/
theorem loop_idle (r : Runner)
    (idle : s.invocation.execution = .running →
      inRange s.invocation.pc s.invocation.script.length = false) :
    ∃ e, (∀ allowed, r.loop allowed s = e) ∧ left e = s := by
  by_cases running : s.invocation.execution = .running
  · exact ⟨_, fun _ => loop_outside running (idle running), rfl⟩
  · exact ⟨_, fun _ => loop_stopped running, rfl⟩

/-- A loop that is not ended by the budget uses a number of instructions, which its counter tells; it ends the
    same way whenever that many are allowed. -/
theorem loop_lasts (standard : r.registry = Op.standard) : ∀ (allowed : Nat) (s : Scene),
    ¬ Spent (r.loop allowed s) → ∃ used ≤ allowed,
      (∀ more, r.loop (used + more) s = r.loop allowed s) ∧
      (left (r.loop allowed s)).invocation.opcount = s.invocation.opcount + UInt32.ofNat used := by
  intro allowed
  induction allowed with
  | zero =>
    intro s unspent
    have idle : s.invocation.execution = .running →
        inRange s.invocation.pc s.invocation.script.length = false := by
      intro running
      cases inside : inRange s.invocation.pc s.invocation.script.length with
      | false => rfl
      | true =>
        rw [loop_spent running inside] at unspent
        exact absurd rfl unspent
    obtain ⟨e, ends, still⟩ := loop_idle r idle
    refine ⟨0, Nat.le_refl 0, fun more => by rw [ends, ends], ?_⟩
    rw [ends, still]
    exact (UInt32.add_zero _).symm
  | succ allowed ih =>
    intro s unspent
    by_cases idle : s.invocation.execution = .running →
        inRange s.invocation.pc s.invocation.script.length = false
    · obtain ⟨e, ends, still⟩ := loop_idle r idle
      refine ⟨0, Nat.zero_le _, fun more => by rw [ends, ends], ?_⟩
      rw [ends, still]
      exact (UInt32.add_zero _).symm
    · obtain ⟨running, inside⟩ := Classical.not_imp.1 idle
      have inside := Bool.eq_true_of_not_eq_false inside
      cases step : r.step s with
      | error f t =>
        have fails : r.Fails s f t := ⟨running, inside, step⟩
        refine ⟨1, Nat.le_add_left 1 allowed, fun more => ?_, ?_⟩
        · rw [Nat.add_comm 1 more, loop_fails fails, loop_fails fails]
        · rw [loop_fails fails]
          exact (step_error standard step).1.opcount
      | ok _ t =>
        have next : r.Next s t := ⟨running, inside, step⟩
        rw [loop_next next] at unspent ⊢
        obtain ⟨used, le, same, count⟩ := ih t unspent
        obtain ⟨_, _, effect⟩ := step_ok standard step
        refine ⟨used + 1, Nat.succ_le_succ le, fun more => ?_, ?_⟩
        · rw [Nat.add_right_comm, loop_next next]
          exact same more
        · rw [count, effect.opcount]
          show s.invocation.opcount + 1 + UInt32.ofNat used = _
          rw [UInt32.add_assoc, UInt32.add_comm 1, ← UInt32.ofNat_one, ← UInt32.ofNat_add]

/-- The loop itself does not look at the budget. -/
theorem loop_budget (r : Runner) (budget : UInt32) : ∀ (allowed : Nat) (s : Scene),
    Runner.loop { r with budget } allowed s = r.loop allowed s := by
  intro allowed
  induction allowed with
  | zero => intro s; rfl
  | succ allowed ih =>
    intro s
    unfold loop
    dsimp only
    split
    · rfl
    · split
      · rfl
      · have step : Runner.step { r with budget } s = r.step s := rfl
        rw [step]
        cases r.step s with
        | ok _ t => exact ih t
        | error f t => rfl

/-- In a benchmark the loop starts where it would start otherwise, but for the count. -/
theorem started_twin (reset : Bool) (s : Scene) :
    (started reset false s).Twin ⟨(started reset true s).invocation.opcount, none⟩ #[]
      (started reset true s) := by
  refine ⟨?_, (World.after_empty _).symm⟩
  have zero : (started reset false s).invocation.opcount = 0 := by cases reset <;> rfl
  unfold Invocation.marked
  rw [zero, UInt32.zero_add]
  cases reset <;> rfl

/-- Another budget for the standard runner. -/
theorem standard_budget (library : Library) (config : Config) (budget budget' : Option UInt32) :
    standard library config budget' =
      { standard library config budget with
        budget := (standard library config budget').budget } := by
  simp only [Runner.standard]

section

variable {budget' : UInt32}

/-- Under a larger budget the entry leaves the very same scene. -/
theorem execute_larger (standard : r.registry = Op.standard) (larger : r.budget ≤ budget')
    (within : ¬ r.Exceeds reset false s) :
    Runner.execute { r with budget := budget' } reset false s = r.execute reset false s := by
  by_cases admits : Admits reset s.invocation
  · -- The number that the entry uses is allowed by the larger budget, too.
    obtain ⟨used, le, same, -⟩ := loop_lasts standard _ _ (unspent_of_not_exceeds admits within)
    have le : used ≤ budget'.toNat := Nat.le_trans le (UInt32.le_iff_toNat_le.1 larger)
    obtain ⟨more, enough⟩ := Nat.exists_eq_add_of_le le
    rw [execute_eq _ admits, execute_eq _ admits, ← same more, ← enough, loop_budget]
    rfl
  · exact execute_refused _ _ admits _ _

/-- As a benchmark the entry leaves the same world and, but for the count, the same invocation. -/
theorem execute_benchmark (standard : r.registry = Op.standard) (admits : Admits reset s.invocation)
    (within : ¬ r.Exceeds reset false s)
    (room : (started reset true s).invocation.opcount.toNat +
      (r.execute reset false s).invocation.opcount.toNat < 4294967296) :
    (r.execute reset false s).Twin ⟨(started reset true s).invocation.opcount, none⟩ #[]
      (r.execute reset true s) := by
  have unspent := unspent_of_not_exceeds admits within
  obtain ⟨used, le, same, count⟩ := loop_lasts standard _ _ unspent
  -- A plain entry counts from zero to at most its budget, so its counter tells how many it used.
  have zero : (started reset false s).invocation.opcount = 0 := by cases reset <;> rfl
  have counted : (r.execute reset false s).invocation.opcount.toNat = used := by
    rw [execute_eq _ admits, settled_opcount, count, zero, UInt32.zero_add, UInt32.toNat_ofNat']
    exact Nat.mod_eq_of_lt (Nat.lt_of_le_of_lt le r.budget.toNat_lt)
  rw [counted] at room
  have le : used ≤ r.allowance true (started reset true s).invocation := by
    show used ≤ 4294967296 - _
    omega
  obtain ⟨more, enough⟩ := Nat.exists_eq_add_of_le le
  have ends := loop_twin standard (used + more) (started_twin reset s) (.inr (same more ▸ unspent))
  rw [same more, ← enough] at ends
  rw [execute_eq _ admits, execute_eq _ admits]
  exact settled_twin ends

end

/-- An entry that its budget does not end leaves the very same scene under any larger budget.  As a benchmark
    it leaves the same world, and the same invocation except for the count, if the counter has room for the
    instructions: it then counts them on top of what was counted before. -/
theorem budget_transparent (library : Library) (config : Config) {budget budget' : Option UInt32}
    {reset : Bool} {s : Scene}
    (larger : (standard library config budget).budget ≤ (standard library config budget').budget)
    (within : ¬ (standard library config budget).Exceeds reset false s) :
    let plain := (standard library config budget).execute reset false s
    let benchmark := (standard library config budget').execute reset true s
    let before := (started reset true s).invocation.opcount
    (standard library config budget').execute reset false s = plain ∧
    ((Admits reset s.invocation → before.toNat + plain.invocation.opcount.toNat < 4294967296) →
      benchmark.world = plain.world ∧
      benchmark.invocation =
        { plain.invocation with opcount := benchmark.invocation.opcount } ∧
      (Admits reset s.invocation →
        benchmark.invocation.opcount.toNat = before.toNat + plain.invocation.opcount.toNat)) := by
  intro plain benchmark before
  have same : (standard library config budget').execute reset false s = plain := by
    rw [standard_budget library config budget budget']
    exact execute_larger (standard_registry library config budget) larger within
  refine ⟨same, fun room => ?_⟩
  by_cases admits : Admits reset s.invocation
  · have within' : ¬ (standard library config budget').Exceeds reset false s := by
      rintro ⟨-, aborted, report⟩
      rw [same] at aborted report
      exact within ⟨admits, aborted, report⟩
    have room := room admits
    have twin := execute_benchmark (standard_registry library config budget') admits within'
      (by rw [same]; exact room)
    rw [same] at twin
    refine ⟨twin.world.trans (World.after_empty _), ?_, fun _ => ?_⟩
    · rw [twin.invocation]
      rfl
    · show (Scene.invocation _).opcount.toNat = _
      rw [twin.opcount, UInt32.toNat_add, Nat.add_comm]
      exact Nat.mod_eq_of_lt room
  · have refused : benchmark = plain := execute_refused _ _ admits _ _
    rw [refused]
    exact ⟨rfl, rfl, fun admitted => absurd admitted admits⟩

/-- The script that waits keeps within the usual budget, so a budget of a million makes no difference to it. -/
theorem budget_transparent_waitingStart :
    (standard waitingLibrary .empty none).budget ≤
        (standard waitingLibrary .empty (some 1000000)).budget ∧
      ¬ (standard waitingLibrary .empty none).Exceeds false false waitingStart ∧
      (standard waitingLibrary .empty (some 1000000)).execute false false waitingStart =
        waitingStopped ∧
      ((standard waitingLibrary .empty (some 1000000)).execute false true waitingStart).invocation =
        waitingStopped.invocation := by
  have larger : (standard waitingLibrary .empty none).budget ≤
      (standard waitingLibrary .empty (some 1000000)).budget := by decide
  have within : ¬ (standard waitingLibrary .empty none).Exceeds false false waitingStart := by
    rintro ⟨-, aborted, -⟩
    rw [execute_waitingStart] at aborted
    nomatch aborted
  obtain ⟨same, benchmark⟩ := budget_transparent waitingLibrary .empty larger within
  rw [execute_waitingStart] at same benchmark
  obtain ⟨-, invocation, count⟩ := benchmark fun _ => by decide
  have two : ((standard waitingLibrary .empty (some 1000000)).execute false true
      waitingStart).invocation.opcount = 2 := UInt32.toNat_inj.1 (count ⟨rfl, fun _ => rfl⟩)
  rw [two] at invocation
  exact ⟨larger, within, same, invocation⟩

end TickScript.Runner
