import Mathlib.Data.List.Chain
import TickScript.Proofs.Budget

/-
  The course of an invocation: every instruction that is called, over any entries.

  A statement about what happens between a call and its return, or about which scripts are ever executed,
  is about the instructions of a life in their order, across all its waits.  The loop forgets them, so they
  are listed here.

    dispatched       the instructions that a loop calls: a list beside the result of `loop`
    visits           those of one entry, none if the entry is refused
    course           those of any entries one after the other, with any changes in between
    story            those of entries one after the other with nothing changed in between

  Each is given as the scene in which its handler starts, with the position already on the instruction.
  `course_isChain` says how an instruction follows on the one before if no entry resets: it is the next one
  in the script, whether or not there was a wait between them.
-/

namespace TickScript

/-! ## Entries -/

/-- One entry, with what may have changed since the last: the world, the log, and the number that a count
    dialog has been answered with. -/
structure Entry where
  reset : Bool
  benchmark : Bool
  world : World
  log : List LogRecord
  answer : Option Int32

/-- The scene in which the entry is made. -/
def Entry.scene (e : Entry) (i : Invocation) : Scene :=
  ⟨{ i with lastInt := e.answer.getD i.lastInt }, e.world, e.log⟩

/-- The opcode at the position of the scene. -/
def Scene.opcode? (s : Scene) : Option Int32 := s.invocation.script.opcode? s.invocation.pc

/-- The number of calls that wait. -/
def Scene.depth (s : Scene) : Nat := s.invocation.frames.length

/-- `i.Resumes j`: `j` is about to execute the instruction after the one that `i` has executed. -/
def Invocation.Resumes (i j : Invocation) : Prop :=
  j = { i with
    pc := i.pc + 1, opcount := j.opcount, history := j.history, execution := j.execution,
    lastInt := j.lastInt, delay := j.delay }

instance (reset : Bool) (i : Invocation) : Decidable (Runner.Admits reset i) :=
  inferInstanceAs (Decidable (_ ∧ _))

namespace Runner

/-- The scenes in which the loop calls an instruction, with so many left. -/
def dispatched (r : Runner) : Nat → Scene → List Scene
  | 0, _ => []
  | left + 1, s =>
    if s.invocation.execution = .running ∧ inRange s.invocation.pc s.invocation.script.length then
      match (advance s).opcode? with
      | some opcode =>
        advance s :: match r.dispatch opcode r.env (advance s) with
          | .ok () t => dispatched r left t
          | .error _ _ => []
      | none => []
    else []

/-- The scenes in which an entry calls an instruction. -/
def visits (r : Runner) (e : Entry) (i : Invocation) : List Scene :=
  if Admits e.reset i then
    r.dispatched (r.allowance e.benchmark (started e.reset e.benchmark (e.scene i)).invocation)
      (started e.reset e.benchmark (e.scene i))
  else []

/-- The scenes in which any entries one after the other call an instruction. -/
def course (r : Runner) : List Entry → Invocation → List Scene
  | [], _ => []
  | e :: entries, i =>
    r.visits e i ++ course r entries (r.execute e.reset e.benchmark (e.scene i)).invocation

/-- The scenes in which entries with these flags, one after the other in one world, call an
    instruction. -/
def story (r : Runner) : List (Bool × Bool) → Scene → List Scene
  | [], _ => []
  | (reset, benchmark) :: flags, s =>
    r.visits ⟨reset, benchmark, s.world, s.log, none⟩ s.invocation ++
      story r flags (r.execute reset benchmark s)

/-- `r.Calls u t`: the instruction of `u` is executed and leads to `t`. -/
def Calls (r : Runner) (u t : Scene) : Prop :=
  ∃ opcode, u.opcode? = some opcode ∧ r.dispatch opcode r.env u = .ok () t

/-- `r.Follows u v`: the instruction of `u` is executed, and that of `v` is the one after it. -/
def Follows (r : Runner) (u v : Scene) : Prop :=
  ∃ t, r.Calls u t ∧ t.invocation.Resumes v.invocation

variable {r : Runner} {s t u v : Scene} {left : Nat}

theorem Calls.unique (h : r.Calls u s) (h' : r.Calls u t) : s = t := by
  obtain ⟨opcode, there, done⟩ := h
  obtain ⟨opcode', there', done'⟩ := h'
  cases there.symm.trans there'
  cases done.symm.trans done'
  rfl

/-- The instruction of `u` is executed if its handler succeeds. -/
theorem calls_of_listed (standard : r.registry = Op.standard) {table : List (Opcode × Handler)}
    {o : Opcode} {h : Handler} (listed : table ∈ Op.standardTables) (mem : (o, h) ∈ table)
    (here : u.opcode? = some o.id) (done : h r.env u = .ok () t) : r.Calls u t := by
  have called := dispatch_of_listed standard listed mem
  exact ⟨o.id, here, (congrArg (· r.env u) called).trans done⟩

/-- What an instruction leads to that is executed is what its handler leads to. -/
theorem Calls.eq_ok_of_listed (calls : r.Calls u t) (standard : r.registry = Op.standard)
    {table : List (Opcode × Handler)} {o : Opcode} {h : Handler} (listed : table ∈ Op.standardTables)
    (mem : (o, h) ∈ table) (here : u.opcode? = some o.id) : h r.env u = .ok () t := by
  obtain ⟨opcode, there, done⟩ := calls
  cases there.symm.trans here
  exact (congrArg (· r.env u) (dispatch_of_listed standard listed mem)).symm.trans done

/-! ## The loop -/

theorem Next.calls (h : r.Next s t) : r.Calls (advance s) t := by
  cases there : (advance s).opcode? with
  | none =>
    have fails := (step_of_opcode?_eq_none there).symm.trans h.step
    nomatch fails
  | some opcode => exact ⟨opcode, there, (step_of_opcode? there).symm.trans h.step⟩

theorem dispatched_next (h : r.Next s t) :
    r.dispatched (left + 1) s = advance s :: r.dispatched left t := by
  obtain ⟨opcode, there, done⟩ := h.calls
  rw [dispatched, if_pos ⟨h.running, h.inRange⟩, there]
  dsimp only
  rw [done]

/-- An instruction that fails is called, too, if there is one. -/
theorem dispatched_fails {f : Fault} (h : r.Fails s f t) :
    r.dispatched (left + 1) s = ((advance s).opcode?.map fun _ => advance s).toList := by
  rw [dispatched, if_pos ⟨h.running, h.inRange⟩]
  cases there : (advance s).opcode? with
  | none => rfl
  | some opcode =>
    have failed : r.dispatch opcode r.env (advance s) = .error f t :=
      (step_of_opcode? there).symm.trans h.step
    dsimp only
    rw [failed]
    rfl

/-- A loop that does not go on calls nothing. -/
theorem dispatched_idle (idle : ¬ (s.invocation.execution = .running ∧
    inRange s.invocation.pc s.invocation.script.length)) : r.dispatched left s = [] := by
  cases left with
  | zero => rfl
  | succ left => rw [dispatched, if_neg idle]

/-- Nor does one that finds no instruction. -/
theorem dispatched_unfetched (unfetched : (advance s).opcode? = none) : r.dispatched left s = [] := by
  cases left with
  | zero => rfl
  | succ left =>
    rw [dispatched, unfetched]
    exact ite_self []

theorem dispatched_outside (h : inRange s.invocation.pc s.invocation.script.length = false) :
    r.dispatched left s = [] :=
  dispatched_idle fun inside => nomatch h.symm.trans inside.2

theorem dispatched_stopped (stopped : s.invocation.execution ≠ .running) :
    r.dispatched left s = [] :=
  dispatched_idle fun inside => stopped inside.1

/-- `r.Loops s us e`: from `s` the loop calls the instructions of `us` and ends with `e`. -/
inductive Loops (r : Runner) : Scene → List Scene → EStateM.Result Fault Scene Unit → Prop where
  | stopped {s : Scene} : s.invocation.execution ≠ .running → Loops r s [] (.ok () s)
  /-- There is no next instruction, or it is not allowed any more. -/
  | unfetched {s t : Scene} {f : Fault} : s.invocation.execution = .running →
      t = s ∨ t = advance s → Loops r s [] (.error f t)
  | failed {s t : Scene} {opcode : Int32} {f : Fault} : s.invocation.execution = .running →
      (advance s).opcode? = some opcode → r.dispatch opcode r.env (advance s) = .error f t →
      Loops r s [advance s] (.error f t)
  | next {s t : Scene} {us : List Scene} {e : EStateM.Result Fault Scene Unit} :
      s.invocation.execution = .running → r.Calls (advance s) t → Loops r t us e →
      Loops r s (advance s :: us) e

/-- The list of what is called belongs to the result of the loop. -/
theorem loops (r : Runner) : ∀ (left : Nat) (s : Scene),
    r.Loops s (r.dispatched left s) (r.loop left s) := by
  intro left
  induction left with
  | zero =>
    intro s
    rw [dispatched]
    by_cases running : s.invocation.execution = .running
    · cases inside : inRange s.invocation.pc s.invocation.script.length with
      | false =>
        rw [loop_outside running inside]
        exact .unfetched running (.inl rfl)
      | true =>
        rw [loop_spent running inside]
        exact .unfetched running (.inl rfl)
    · rw [loop_stopped running]
      exact .stopped running
  | succ left ih =>
    intro s
    by_cases running : s.invocation.execution = .running
    · cases inside : inRange s.invocation.pc s.invocation.script.length with
      | false =>
        rw [dispatched_outside inside, loop_outside running inside]
        exact .unfetched running (.inl rfl)
      | true =>
        cases step : r.step s with
        | error f t =>
          have fails : r.Fails s f t := ⟨running, inside, step⟩
          rw [loop_fails fails, dispatched_fails fails]
          cases there : (advance s).opcode? with
          | none =>
            cases (step_of_opcode?_eq_none there).symm.trans step
            exact .unfetched running (.inr rfl)
          | some opcode => exact .failed running there ((step_of_opcode? there).symm.trans step)
        | ok _ t =>
          have next : r.Next s t := ⟨running, inside, step⟩
          rw [loop_next next, dispatched_next next]
          exact .next running next.calls (ih t)
    · rw [loop_stopped running, dispatched_stopped running]
      exact .stopped running

namespace Loops

variable {us : List Scene} {e : EStateM.Result Fault Scene Unit}

/-- The first instruction of a loop is the one after the position at which it starts. -/
theorem head? (h : r.Loops s us e) (first : v ∈ us.head?) : v = advance s := by
  cases h with
  | stopped => nomatch first
  | unfetched => nomatch first
  | failed => exact (Option.some.inj first).symm
  | next => exact (Option.some.inj first).symm

/-- Within a loop, each instruction is the one after that which was executed before it. -/
theorem isChain (h : r.Loops s us e) : us.IsChain r.Follows := by
  induction h with
  | stopped => exact .nil
  | unfetched => exact .nil
  | failed => exact .singleton _
  | @next s t us e _ calls rest ih =>
    refine List.isChain_cons.2 ⟨fun v first => ?_, ih⟩
    rw [rest.head? first]
    exact ⟨t, calls, rfl⟩

/-- A loop that stops without a fault has been led to its last scene by the last instruction. -/
theorem getLast? (h : r.Loops s us e) (ended : e = .ok () t) :
    (us = [] ∧ t = s ∨ ∃ u ∈ us.getLast?, r.Calls u t) ∧ t.invocation.execution ≠ .running := by
  induction h with
  | stopped still =>
    cases ended
    exact ⟨.inl ⟨rfl, rfl⟩, still⟩
  | unfetched => nomatch ended
  | failed => nomatch ended
  | @next s t' us e _ calls rest ih =>
    obtain ⟨last, still⟩ := ih ended
    refine ⟨.inr ?_, still⟩
    rcases last with ⟨rfl, rfl⟩ | ⟨u, last, leads⟩
    · exact ⟨advance s, rfl, calls⟩
    · cases us with
      | nil => nomatch last
      | cons w us => exact ⟨u, last, leads⟩

end Loops

/-! ## Entries -/

theorem story_of_admits {flags : List (Bool × Bool)} {reset benchmark : Bool}
    (admits : Admits reset s.invocation) : r.story ((reset, benchmark) :: flags) s =
      r.dispatched (r.allowance benchmark (started reset benchmark s).invocation)
        (started reset benchmark s) ++ r.story flags (r.execute reset benchmark s) :=
  congrArg (· ++ _) (if_pos admits)

theorem story_of_refused {flags : List (Bool × Bool)} {reset benchmark : Bool}
    (refused : ¬ Admits reset s.invocation) : r.story ((reset, benchmark) :: flags) s =
      r.story flags (r.execute reset benchmark s) :=
  congrArg (· ++ _) (if_neg refused)

/-! ## Entries that do not reset -/

variable {e : Entry} {entries : List Entry} {i : Invocation}

theorem visits_eq (admits : Admits e.reset i) : r.visits e i =
    r.dispatched (r.allowance e.benchmark (started e.reset e.benchmark (e.scene i)).invocation)
      (started e.reset e.benchmark (e.scene i)) :=
  if_pos admits

/-- What an entry calls belongs to the loop that it runs, and to the scene that it leaves. -/
theorem loops_visits (r : Runner) (admits : Admits e.reset i) :
    ∃ result, r.Loops (started e.reset e.benchmark (e.scene i)) (r.visits e i) result ∧
      r.execute e.reset e.benchmark (e.scene i) = settled result := by
  have entered : Admits e.reset (e.scene i).invocation := admits
  rw [visits_eq admits, r.execute_eq entered]
  exact ⟨_, r.loops _ _, rfl⟩

/-- An entry that is refused leaves an invocation that has ended. -/
theorem isTerminal_execute_of_refused (keep : e.reset = false) (refused : ¬ Admits e.reset i) :
    (r.execute e.reset e.benchmark (e.scene i)).invocation.execution.isTerminal := by
  rw [keep] at refused ⊢
  rcases refused_of_not_admits refused with unnamed | ⟨named, -, terminal⟩
  · have unnamed : (e.scene i).invocation.script.info.isNone := unnamed
    rw [r.execute_unnamed unnamed]
    rfl
  · have named : ¬ (e.scene i).invocation.script.info.isNone := named
    have terminal : (e.scene i).invocation.execution.isTerminal := terminal
    rw [r.execute_terminal named terminal]
    exact terminal

/-- An invocation that has ended does not go on without a reset. -/
theorem course_eq_nil (entries : List Entry) : ∀ i : Invocation, i.execution.isTerminal →
    (∀ e ∈ entries, e.reset = false) → r.course entries i = [] := by
  induction entries with
  | nil => intro i _ _; rfl
  | cons e entries ih =>
    intro i terminal keep
    have refused : ¬ Admits e.reset i := by
      intro admits
      rw [admits.2 (keep e List.mem_cons_self)] at terminal
      nomatch terminal
    have none : r.visits e i = [] := if_neg refused
    have ended := isTerminal_execute_of_refused (r := r) (keep e List.mem_cons_self) refused
    rw [course, none, ih _ ended fun e' mem => keep e' (List.mem_cons_of_mem e mem)]
    rfl

/-- After an entry the invocation has ended, or waits where the last instruction has led it. -/
theorem isTerminal_or_getLast?_visits (keep : e.reset = false) :
    (r.execute e.reset e.benchmark (e.scene i)).invocation.execution.isTerminal ∨
    ∃ u ∈ (r.visits e i).getLast?, ∃ t, r.Calls u t ∧
      (r.execute e.reset e.benchmark (e.scene i)).invocation = t.invocation := by
  by_cases admits : Admits e.reset i
  · obtain ⟨result, loops, left⟩ := r.loops_visits admits
    rw [left]
    cases result with
    | error f t =>
      left
      show (abort t f).invocation.execution.isTerminal
      rw [abort_invocation]
      rfl
    | ok _ t =>
      obtain ⟨last, still⟩ := loops.getLast? rfl
      rcases last with ⟨-, rfl⟩ | ⟨u, last, calls⟩
      · exact absurd rfl still
      · exact .inr ⟨u, last, t, calls, rfl⟩
  · exact .inl (isTerminal_execute_of_refused keep admits)

/-- The first instruction that is called is the one after the position of the invocation. -/
theorem resumes_of_head?_course (keep : ∀ e ∈ entries, e.reset = false)
    (first : v ∈ (r.course entries i).head?) : i.Resumes v.invocation := by
  cases entries with
  | nil => nomatch first
  | cons e entries =>
    have keepThis := keep e List.mem_cons_self
    have keepRest := fun e' mem => keep e' (List.mem_cons_of_mem e mem)
    rw [course] at first
    cases visits : r.visits e i with
    | nil =>
      -- An entry that calls nothing fails at once, and nothing comes after it.
      rcases isTerminal_or_getLast?_visits (r := r) (i := i) keepThis with ended | ⟨u, last, -⟩
      · rw [visits, course_eq_nil entries _ ended keepRest] at first
        nomatch first
      · rw [visits] at last
        nomatch last
    | cons w ws =>
      rw [visits] at first
      cases Option.some.inj first
      by_cases admits : Admits e.reset i
      · obtain ⟨result, loops, -⟩ := r.loops_visits admits
        rw [visits] at loops
        rw [loops.head? rfl, keepThis]
        rfl
      · unfold Runner.visits at visits
        rw [if_neg admits] at visits
        nomatch visits

/-- Without resets each instruction is the one after that which was executed before it. -/
theorem course_isChain (entries : List Entry) : ∀ i : Invocation,
    (∀ e ∈ entries, e.reset = false) → (r.course entries i).IsChain r.Follows := by
  induction entries with
  | nil => intro i _; exact .nil
  | cons e entries ih =>
    intro i keep
    have keepThis := keep e List.mem_cons_self
    have keepRest := fun e' mem => keep e' (List.mem_cons_of_mem e mem)
    refine List.isChain_append.2 ⟨?_, ih _ keepRest, ?_⟩
    · by_cases admits : Admits e.reset i
      · obtain ⟨result, loops, -⟩ := r.loops_visits admits
        exact loops.isChain
      · rw [visits, if_neg admits]
        exact .nil
    · intro u last v first
      have resumes := resumes_of_head?_course keepRest first
      rcases isTerminal_or_getLast?_visits (r := r) (i := i) keepThis with
        ended | ⟨w, last', t, calls, left⟩
      · rw [course_eq_nil entries _ ended keepRest] at first
        nomatch first
      · cases Option.some.inj (last.symm.trans last')
        rw [left] at resumes
        exact ⟨t, calls, resumes⟩

end Runner

end TickScript
