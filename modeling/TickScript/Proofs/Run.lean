import Mathlib.Logic.Relation
import TickScript.Proofs.Effect
import TickScript.Runner

/-
  Runs of the loop, entries, and what can be reached by them.

  The loop of a runner is a function of how many instructions are left.  For what follows, how many that
  is does not matter: all that counts is which scenes it passes through.

    Next         one instruction that succeeds, from a scene in which the loop goes on
    Fails        one instruction that fails
    Outcome      one entry: refused, or some number of `Next` and then a stop or a fault
    Keeps        a property that every part of an entry keeps
    Reached      an invocation after its start and any entries, each in any world

  `execute_outcome` says that these are all the ways in which an entry can go, so what its parts keep the
  whole entry keeps (`Keeps.outcome`).  `execute_recounted` says that an entry does not look at the count of
  instructions that it finds.
-/

namespace TickScript

/-- The scene with another count of instructions. -/
def Scene.recounted (s : Scene) (count : UInt32) : Scene :=
  { s with invocation := { s.invocation with opcount := count } }

/-! ## The report of a failed run -/

namespace Runner

@[simp] theorem deliver_invocation (s : Scene) (line : String) :
    (deliver s line).invocation = s.invocation := by
  unfold deliver
  split
  · split <;> rfl
  · rfl

theorem foldl_deliver_invocation : ∀ (lines : List String) (s : Scene),
    (lines.foldl deliver s).invocation = s.invocation
  | [], _ => rfl
  | line :: lines, s => by
    rw [List.foldl_cons, foldl_deliver_invocation lines, deliver_invocation]

/-- An aborted invocation keeps everything else. -/
theorem abort_invocation (s : Scene) (f : Fault) :
    (abort s f).invocation =
      { s.invocation with abort := some (report s.invocation f), execution := .aborted } := by
  unfold abort
  dsimp only
  rw [foldl_deliver_invocation]
  rfl

/-! ## One instruction -/

variable {r : Runner} {s t : Scene} {f : Fault}

theorem standard_registry (library : Library) (config : Config) (budget : Option UInt32) :
    (Runner.standard library config budget).registry = Op.standard := by
  -- `rfl` at the usual transparency would start to evaluate the registry.
  simp only [Runner.standard]

/-- What the handler that is called does is an effect of an instruction with that number. -/
theorem dispatch_ends (standard : r.registry = Op.standard) (id : Int32) (s : Scene) :
    Op.Ends (r.dispatch id) r.env s (fun _ t => ∃ o : Opcode, o.id = id ∧ Effect r.env o s t)
      s.Failed := by
  unfold dispatch
  rw [standard]
  cases found : Op.standard.handler? id with
  | none => exact ⟨.refl s, nofun, nofun⟩
  | some h =>
    obtain ⟨o, number, shape⟩ := Op.handler?_standard found
    refine ((shape fun _ => False).ends r.env s fun _ h => h.elim).mono ?_ fun _ _ h => h
    exact fun _ t ht => ⟨o, number, ht⟩

/-- The handler that a standard table lists with an opcode is the one that is called. -/
theorem dispatch_of_listed (standard : r.registry = Op.standard) {table : List (Opcode × Handler)}
    (listed : table ∈ Op.standardTables) {o : Opcode} {h : Handler} (mem : (o, h) ∈ table) :
    r.dispatch o.id = h := by
  unfold dispatch
  rw [standard, Op.handler?_standard_of_mem listed mem]

/-- An instruction that a standard table lists is executed by the handler listed with it. -/
theorem step_of_listed (standard : r.registry = Op.standard) {table : List (Opcode × Handler)}
    (listed : table ∈ Op.standardTables) {o : Opcode} {h : Handler} (mem : (o, h) ∈ table)
    (there : (advance s).invocation.script.opcode? (advance s).invocation.pc = some o.id) :
    r.step s = h r.env (advance s) := by
  unfold step
  dsimp only
  rw [there]
  dsimp only
  rw [dispatch_of_listed standard listed mem]

/-- An instruction that succeeds has the effect of the opcode at the position that is then current. -/
theorem step_ok (standard : r.registry = Op.standard) (h : r.step s = .ok () t) :
    ∃ o : Opcode, (advance s).invocation.script.opcode? (advance s).invocation.pc = some o.id ∧
      Effect r.env o (advance s) t := by
  unfold step at h
  dsimp only at h
  split at h
  next id there =>
    obtain ⟨o, rfl, effect⟩ := (r.dispatch_ends standard id (advance s)).of_ok h
    exact ⟨o, there, effect⟩
  next => nomatch h

/-- An instruction that fails has changed at most stacks and log. -/
theorem step_error (standard : r.registry = Op.standard) (h : r.step s = .error f t) :
    (advance s).Failed f t := by
  unfold step at h
  dsimp only at h
  split at h
  next id there => exact (r.dispatch_ends standard id (advance s)).of_error h
  next =>
    cases h
    exact ⟨.refl _, nofun, nofun⟩

/-! ## The loop -/

/-- `r.Next s t`: the loop goes on in `s`, and its next instruction leads to `t`. -/
structure Next (r : Runner) (s t : Scene) : Prop where
  running : s.invocation.execution = .running
  inRange : inRange s.invocation.pc s.invocation.script.length
  step : r.step s = .ok () t

/-- `r.Fails s f t`: the loop goes on in `s`, and its next instruction fails with `f` in `t`. -/
structure Fails (r : Runner) (s : Scene) (f : Fault) (t : Scene) : Prop where
  running : s.invocation.execution = .running
  inRange : Runner.inRange s.invocation.pc s.invocation.script.length
  step : r.step s = .error f t

/-- The loop passes from `s` to `t` by any number of instructions. -/
def Passes (r : Runner) : Scene → Scene → Prop := Relation.ReflTransGen r.Next

/-- An instruction that a standard table lists leads where the handler listed with it leads. -/
theorem next_of_listed (standard : r.registry = Op.standard) {table : List (Opcode × Handler)}
    (listed : table ∈ Op.standardTables) {o : Opcode} {h : Handler} (mem : (o, h) ∈ table)
    (running : s.invocation.execution = .running)
    (inside : Runner.inRange s.invocation.pc s.invocation.script.length)
    (there : (advance s).invocation.script.opcode? (advance s).invocation.pc = some o.id)
    (done : h r.env (advance s) = .ok () t) : r.Next s t :=
  ⟨running, inside, (step_of_listed standard listed mem there).trans done⟩

theorem loop_stopped {left : Nat} (h : s.invocation.execution ≠ .running) :
    r.loop left s = .ok () s := by
  unfold loop
  rw [if_pos h]

theorem loop_outside {left : Nat} (running : s.invocation.execution = .running)
    (h : inRange s.invocation.pc s.invocation.script.length = false) :
    r.loop left s = .error (.pcOutside s.invocation.pc s.invocation.script.length) s := by
  unfold loop
  rw [if_neg (not_not.2 running), if_pos (by rw [h]; rfl)]

theorem loop_spent (running : s.invocation.execution = .running)
    (h : inRange s.invocation.pc s.invocation.script.length) :
    r.loop 0 s = .error (.budgetExceeded s.invocation.opcount) s := by
  unfold loop
  rw [if_neg (not_not.2 running), if_neg (by rw [h]; nofun)]

theorem loop_next {left : Nat} (h : r.Next s t) : r.loop (left + 1) s = r.loop left t := by
  rw [loop]
  rw [if_neg (not_not.2 h.running), if_neg (by rw [h.inRange]; nofun)]
  rw [h.step]

theorem loop_fails {left : Nat} (h : r.Fails s f t) : r.loop (left + 1) s = .error f t := by
  rw [loop]
  rw [if_neg (not_not.2 h.running), if_neg (by rw [h.inRange]; nofun)]
  rw [h.step]

/-- The loop passes to a scene that is not running, or to a running scene in which a fault is found, there
    or by the next instruction. -/
theorem loop_passes (r : Runner) : ∀ (left : Nat) (s : Scene),
    (∃ t, r.loop left s = .ok () t ∧ r.Passes s t ∧ t.invocation.execution ≠ .running) ∨
    ∃ u f t, r.loop left s = .error f t ∧ r.Passes s u ∧ u.invocation.execution = .running ∧
      (u = t ∨ r.Fails u f t) := by
  intro left
  induction left with
  | zero =>
    intro s
    by_cases running : s.invocation.execution = .running
    · refine .inr ⟨s, ?_⟩
      cases inside : inRange s.invocation.pc s.invocation.script.length with
      | false => exact ⟨_, s, loop_outside running inside, .refl, running, .inl rfl⟩
      | true => exact ⟨_, s, loop_spent running inside, .refl, running, .inl rfl⟩
    · exact .inl ⟨s, loop_stopped running, .refl, running⟩
  | succ left ih =>
    intro s
    by_cases running : s.invocation.execution = .running
    · cases inside : inRange s.invocation.pc s.invocation.script.length with
      | false => exact .inr ⟨s, _, s, loop_outside running inside, .refl, running, .inl rfl⟩
      | true =>
        cases step : r.step s with
        | error f t =>
          have fails : r.Fails s f t := ⟨running, inside, step⟩
          exact .inr ⟨s, f, t, loop_fails fails, .refl, running, .inr fails⟩
        | ok _ t =>
          have next : r.Next s t := ⟨running, inside, step⟩
          rw [loop_next next]
          rcases ih t with ⟨u, ended, passes, stopped⟩ | ⟨u, f, v, ended, passes, found⟩
          · exact .inl ⟨u, ended, .head next passes, stopped⟩
          · exact .inr ⟨u, f, v, ended, .head next passes, found⟩
    · exact .inl ⟨s, loop_stopped running, .refl, running⟩

/-! ## Entries -/

/-- The scene in which the loop of an entry starts. -/
def started (reset benchmark : Bool) (s : Scene) : Scene :=
  { s with invocation :=
      entered benchmark (if reset then s.invocation.reset else s.invocation) }

/-- The entry is not refused. -/
def Admits (reset : Bool) (i : Invocation) : Prop :=
  i.script.info.isSome ∧ (reset = false → i.execution.isTerminal = false)

/-- `r.Outcome reset benchmark s t`: an entry in `s` can leave `t`. -/
inductive Outcome (r : Runner) (reset benchmark : Bool) (s : Scene) : Scene → Prop where
  | unnamed : s.invocation.script.info = none →
      Outcome r reset benchmark s
        { s with invocation := { s.invocation with execution := .aborted } }
  | refused (text : String) : s.invocation.execution.isTerminal →
      Outcome r reset benchmark s (s.note .warn text)
  | stopped {t : Scene} : Admits reset s.invocation → r.Passes (started reset benchmark s) t →
      t.invocation.execution ≠ .running → Outcome r reset benchmark s t
  | aborted {u t : Scene} {f : Fault} : Admits reset s.invocation →
      r.Passes (started reset benchmark s) u → u.invocation.execution = .running →
      u = t ∨ r.Fails u f t → Outcome r reset benchmark s (abort t f)

/-- The scene that an entry leaves when its loop has ended so. -/
def settled : EStateM.Result Fault Scene Unit → Scene
  | .ok () t => t
  | .error f t => abort t f

theorem run_eq (r : Runner) (benchmark : Bool) (s : Scene) :
    r.run benchmark s = settled (r.loop (r.allowance benchmark (entered benchmark s.invocation))
      { s with invocation := entered benchmark s.invocation }) :=
  rfl

theorem isNone_info_eq_false {i : Invocation} (h : i.script.info.isSome) :
    ¬ i.script.info.isNone := by
  rw [← Option.not_isSome, h]
  nofun

/-- An entry that is not refused runs the loop. -/
theorem execute_eq (r : Runner) {reset benchmark : Bool} {s : Scene}
    (admits : Admits reset s.invocation) :
    r.execute reset benchmark s =
      settled (r.loop (r.allowance benchmark (started reset benchmark s).invocation)
        (started reset benchmark s)) := by
  unfold execute
  dsimp only
  rw [if_neg (isNone_info_eq_false admits.1)]
  cases reset with
  | true =>
    rw [if_pos rfl, run_eq]
    rfl
  | false =>
    rw [if_neg nofun, if_neg (by rw [admits.2 rfl]; nofun), run_eq]
    rfl

/-- A loop that fails leaves an aborted invocation, with a report of that kind. -/
theorem aborted_of_loop_error {reset benchmark : Bool} (admits : Admits reset s.invocation)
    (failed : r.loop (r.allowance benchmark (started reset benchmark s).invocation)
      (started reset benchmark s) = .error f t) :
    (r.execute reset benchmark s).invocation.execution = .aborted ∧
      ∃ report, (r.execute reset benchmark s).invocation.abort = some report ∧
        report.kind = f.kind := by
  rw [r.execute_eq admits, failed]
  show (abort t f).invocation.execution = _ ∧ ∃ report, (abort t f).invocation.abort = _ ∧ _
  rw [abort_invocation]
  exact ⟨rfl, _, rfl, rfl⟩

/-- An entry is refused where the script has no metadata, and where the invocation has ended and is not to
    start anew. -/
theorem refused_of_not_admits {reset : Bool} {i : Invocation} (h : ¬ Admits reset i) :
    i.script.info.isNone ∨
      (¬ i.script.info.isNone ∧ reset = false ∧ i.execution.isTerminal) := by
  by_cases unnamed : i.script.info.isNone
  · exact .inl unnamed
  · have named : i.script.info.isSome := by
      cases info : i.script.info with
      | none => rw [info] at unnamed; exact absurd rfl unnamed
      | some _ => rfl
    refine .inr ⟨unnamed, ?_⟩
    cases reset with
    | true => exact absurd ⟨named, nofun⟩ h
    | false =>
      cases terminal : i.execution.isTerminal with
      | true => exact ⟨rfl, rfl⟩
      | false => exact absurd ⟨named, fun _ => terminal⟩ h

theorem execute_unnamed (r : Runner) {reset benchmark : Bool} {s : Scene}
    (h : s.invocation.script.info.isNone) :
    r.execute reset benchmark s =
      { s with invocation := { s.invocation with execution := .aborted } } := by
  unfold execute
  dsimp only
  rw [if_pos h]

theorem execute_terminal (r : Runner) {benchmark : Bool} {s : Scene}
    (named : ¬ s.invocation.script.info.isNone) (h : s.invocation.execution.isTerminal) :
    r.execute false benchmark s =
      s.note .warn (s.invocation.script.name ++ " is " ++ s.invocation.execution.name ++
        " and was not reset; refusing to re-enter") := by
  unfold execute
  dsimp only
  rw [if_neg named, if_neg nofun, if_pos h]

/-- What an entry that is refused leaves does not depend on the runner. -/
theorem execute_refused (r r' : Runner) {reset : Bool} (refused : ¬ Admits reset s.invocation)
    (benchmark benchmark' : Bool) :
    r.execute reset benchmark s = r'.execute reset benchmark' s := by
  rcases refused_of_not_admits refused with unnamed | ⟨named, rfl, terminal⟩
  · rw [r.execute_unnamed unnamed, r'.execute_unnamed unnamed]
  · rw [r.execute_terminal named terminal, r'.execute_terminal named terminal]

/-- Every entry goes in one of these ways. -/
theorem execute_outcome (r : Runner) (reset benchmark : Bool) (s : Scene) :
    r.Outcome reset benchmark s (r.execute reset benchmark s) := by
  by_cases admits : Admits reset s.invocation
  · rw [r.execute_eq admits]
    rcases r.loop_passes (r.allowance benchmark (started reset benchmark s).invocation)
        (started reset benchmark s) with
      ⟨t, ended, passes, stopped⟩ | ⟨u, f, t, ended, passes, running, found⟩
    · rw [ended]
      exact .stopped admits passes stopped
    · rw [ended]
      exact .aborted admits passes running found
  · rcases refused_of_not_admits admits with unnamed | ⟨named, rfl, terminal⟩
    · rw [r.execute_unnamed unnamed]
      exact .unnamed (Option.isNone_iff_eq_none.1 unnamed)
    · rw [r.execute_terminal named terminal]
      exact .refused _ terminal

/-- When an entry is over, nothing runs. -/
theorem Outcome.ne_running {reset benchmark : Bool} (outcome : r.Outcome reset benchmark s t) :
    t.invocation.execution ≠ .running := by
  cases outcome with
  | unnamed => nofun
  | refused _ terminal =>
    show s.invocation.execution ≠ .running
    intro running
    rw [running] at terminal
    nomatch terminal
  | stopped _ _ halted => exact halted
  | aborted =>
    rw [abort_invocation]
    nofun

/-- `r.Keeps P`: every part of an entry keeps the property, from the scene in which its loop starts to the
    report of a fault. -/
structure Keeps (r : Runner) (P : Scene → Prop) : Prop where
  started : ∀ {reset : Bool} (benchmark : Bool) {s : Scene},
    Admits reset s.invocation → P s → P (started reset benchmark s)
  next : ∀ {s t : Scene}, r.Next s t → P s → P t
  fails : ∀ {s t : Scene} {f : Fault}, r.Fails s f t → P s → P t
  reported : ∀ {s : Scene} (f : Fault), P s → P (abort s f)
  unnamed : ∀ {s : Scene}, P s →
    P { s with invocation := { s.invocation with execution := .aborted } }
  refused : ∀ {s : Scene} (text : String), P s → P (s.note .warn text)

namespace Keeps

variable {P : Scene → Prop}

theorem passes (keeps : r.Keeps P) (passes : r.Passes s t) (hs : P s) : P t := by
  induction passes with
  | refl => exact hs
  | tail _ next ih => exact keeps.next next ih

/-- What its parts keep an entry keeps, whatever its outcome. -/
theorem outcome (keeps : r.Keeps P) {reset benchmark : Bool}
    (outcome : r.Outcome reset benchmark s t) (hs : P s) : P t := by
  cases outcome with
  | unnamed => exact keeps.unnamed hs
  | refused text => exact keeps.refused text hs
  | stopped admits passes _ => exact keeps.passes passes (keeps.started benchmark admits hs)
  | @aborted u t f admits passes _ found =>
    have hu : P u := keeps.passes passes (keeps.started benchmark admits hs)
    rcases found with rfl | fails
    · exact keeps.reported f hu
    · exact keeps.reported f (keeps.fails fails hu)

theorem execute (keeps : r.Keeps P) (reset benchmark : Bool) (hs : P s) :
    P (r.execute reset benchmark s) :=
  keeps.outcome (r.execute_outcome reset benchmark s) hs

end Keeps

/-- An entry that is not refused counts from zero, so how many instructions were counted before makes no
    difference to it. -/
theorem execute_recounted {reset : Bool} (admits : Admits reset s.invocation) (count : UInt32) :
    r.execute reset false (s.recounted count) = r.execute reset false s := by
  have started : started reset false (s.recounted count) = started reset false s := by
    cases reset <;> rfl
  have again : Admits reset (s.recounted count).invocation := admits
  rw [r.execute_eq again, r.execute_eq admits, started]

/-- An entry that is refused leaves the count as it is. -/
theorem execute_recounted_of_refused {reset : Bool} (refused : ¬ Admits reset s.invocation)
    (count : UInt32) :
    r.execute reset false (s.recounted count) = (r.execute reset false s).recounted count := by
  rcases refused_of_not_admits refused with unnamed | ⟨named, rfl, terminal⟩
  · have again : (s.recounted count).invocation.script.info.isNone := unnamed
    rw [r.execute_unnamed again, r.execute_unnamed unnamed]
    rfl
  · have again : ¬ (s.recounted count).invocation.script.info.isNone := named
    have still : (s.recounted count).invocation.execution.isTerminal := terminal
    rw [r.execute_terminal named terminal, r.execute_terminal again still]
    rfl

/-! ## Whole lives -/

/-- `r.Reached i`: `i` comes from the start of a script of the library by any number of entries, each in
    any world. -/
inductive Reached (r : Runner) : Invocation → Prop where
  | start {id : Int32} {script : Script} {self : Option Entity} {active : List Entity}
      {pointers : Pointers} {args : List Value} {i : Invocation} :
      r.library.get? id = some script → Invocation.start script self active pointers args = .ok i →
      Reached r i
  | execute {i : Invocation} (reset benchmark : Bool) (world : World) (log : List LogRecord) :
      Reached r i → Reached r (r.execute reset benchmark ⟨i, world, log⟩).invocation

/-- Several entries one after the other, each with its two flags, in one world. -/
def executeAll (r : Runner) (flags : List (Bool × Bool)) (s : Scene) : Scene :=
  flags.foldl (fun s flag => r.execute flag.1 flag.2 s) s

theorem Keeps.executeAll {P : Scene → Prop} (keeps : r.Keeps P) (flags : List (Bool × Bool))
    (hs : P s) : P (r.executeAll flags s) := by
  induction flags generalizing s with
  | nil => exact hs
  | cons flag flags ih => exact ih (keeps.execute flag.1 flag.2 hs)

end Runner

end TickScript
