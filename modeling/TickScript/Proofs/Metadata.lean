import TickScript.Proofs.Invariant
import TickScript.Proofs.Isolation

/-
  Which scripts without metadata are executed.

  An entry refuses an invocation whose script has no metadata, so no life starts in such a script.  A call
  and a jump ask for no metadata, so a script without it can be entered from one that has it; it is
  executed until it returns or waits, and a waiting one is then refused for ever.

    Labelled                  the callers, and the script to reset to, have metadata
    Change.labelled           only a call or a jump leaves it
    unlabelled_iff_entered    a script without metadata is executed only where one enters it
-/

namespace TickScript

/-- The instructions that enter a script of the library. -/
def Opcode.entering : List Opcode := [.gosub, .gosubWithParams, .jump, .jumpWithParams]

/-- The scripts that the invocation goes back to have metadata. -/
structure Invocation.Labelled (i : Invocation) : Prop where
  frames : ∀ f ∈ i.frames, f.script.info.isSome
  root : i.root.info.isSome

/-- From a script with metadata the only way to one without is an instruction that enters it. -/
theorem Change.labelled {env : Env} {o : Opcode} {s t : Scene} (c : Change env o s t)
    (named : s.invocation.script.info.isSome) (labelled : s.invocation.Labelled) :
    t.invocation.Labelled ∧ (t.invocation.script.info.isSome ∨
      o ∈ Opcode.entering ∧
        env.library.get? s.invocation.intOperand = some t.invocation.script) := by
  cases c with
  | call args ho found entered =>
    obtain ⟨-, rfl⟩ := Invocation.call_eq_ok entered
    refine ⟨⟨List.forall_mem_cons.2 ⟨named, labelled.frames⟩, labelled.root⟩, .inr ⟨?_, found⟩⟩
    rcases ho with rfl | rfl
    · decide
    · decide
  | jump args ho found =>
    refine ⟨⟨List.forall_mem_nil _, labelled.root⟩, .inr ⟨?_, found⟩⟩
    rcases ho with rfl | rfl
    · decide
    · decide
  | leave _ back =>
    obtain ⟨f, rest, stack, rfl⟩ := Invocation.leave?_eq_some back
    have frames := labelled.frames
    rw [stack] at frames
    obtain ⟨head, tail⟩ := List.forall_mem_cons.1 frames
    exact ⟨⟨tail, labelled.root⟩, .inl head⟩
  | nothing | branch | intLocal | stringLocal | finish | wait | search | found | lost | world
    | random => exact ⟨⟨labelled.frames, labelled.root⟩, .inl named⟩

theorem Scene.Restacked.labelled {s t : Scene} (h : s.Restacked t) (labelled : s.invocation.Labelled) :
    t.invocation.Labelled := by
  obtain ⟨_, _, _, rfl⟩ := h
  exact ⟨labelled.frames, labelled.root⟩

theorem Scene.Restacked.script {s t : Scene} (h : s.Restacked t) :
    t.invocation.script = s.invocation.script := by
  obtain ⟨_, _, _, rfl⟩ := h
  rfl

theorem Effect.labelled {env : Env} {o : Opcode} {s t : Scene} (h : Effect env o s t)
    (named : s.invocation.script.info.isSome) (labelled : s.invocation.Labelled) :
    t.invocation.Labelled ∧ (t.invocation.script.info.isSome ∨
      o ∈ Opcode.entering ∧
        env.library.get? s.invocation.intOperand = some t.invocation.script) := by
  obtain ⟨u, v, before, change, after⟩ := h
  have namedThere : u.invocation.script.info.isSome := by
    rw [before.script]
    exact named
  obtain ⟨labelledAfter, script⟩ := change.labelled namedThere (before.labelled labelled)
  rw [before.intOperand] at script
  rw [after.script]
  exact ⟨after.labelled labelledAfter, script⟩

namespace Runner

variable {r : Runner} {s t u v : Scene} {e : Entry} {entries : List Entry} {i : Invocation}

/-- Where the instruction of `u` enters the script of `v`, that script has metadata. -/
def EntersLabelled (r : Runner) (u v : Scene) : Prop :=
  ∀ o ∈ Opcode.entering, u.opcode? = some o.id →
    r.library.get? u.invocation.intOperand = some v.invocation.script →
    v.invocation.script.info.isSome

theorem Calls.labelled (standard : r.registry = Op.standard) (calls : r.Calls u t)
    (named : u.invocation.script.info.isSome) (labelled : u.invocation.Labelled) :
    t.invocation.Labelled ∧ ∀ v : Scene, v.invocation.script = t.invocation.script →
      r.EntersLabelled u v → v.invocation.script.info.isSome := by
  obtain ⟨opcode, there, done⟩ := calls
  obtain ⟨o, rfl, effect⟩ := (r.dispatch_ends standard opcode u).of_ok done
  obtain ⟨labelledAfter, script⟩ := effect.labelled named labelled
  refine ⟨labelledAfter, ?_⟩
  intro v same enters
  rw [← same] at script
  rcases script with has | ⟨isEntering, found⟩
  · exact has
  · exact enters o isEntering there found

theorem labelled_abort (f : Fault) (labelled : s.invocation.Labelled) :
    (abort s f).invocation.Labelled := by
  rw [abort_invocation]
  exact ⟨labelled.frames, labelled.root⟩

/-- A loop that starts in a script with metadata, and enters none without and goes on in it, stays in
    scripts with metadata. -/
theorem Loops.labelled (standard : r.registry = Op.standard) {us : List Scene}
    {e : EStateM.Result Fault Scene Unit} (h : r.Loops s us e)
    (named : ∀ v ∈ us.head?, v.invocation.script.info.isSome) (labelled : s.invocation.Labelled)
    (chain : us.IsChain r.EntersLabelled) :
    (∀ u ∈ us, u.invocation.script.info.isSome) ∧ (settled e).invocation.Labelled := by
  induction h with
  | stopped => exact ⟨List.forall_mem_nil _, labelled⟩
  | unfetched _ still =>
    refine ⟨List.forall_mem_nil _, labelled_abort _ ?_⟩
    rcases still with rfl | rfl
    · exact labelled
    · exact ⟨labelled.frames, labelled.root⟩
  | @failed s t opcode f _ _ failed =>
    have namedHere := named (advance s) rfl
    refine ⟨List.forall_mem_singleton.2 namedHere, labelled_abort _ ?_⟩
    have failure := (r.dispatch_ends standard opcode (advance s)).of_error failed
    exact failure.1.labelled ⟨labelled.frames, labelled.root⟩
  | @next s t us e _ calls rest ih =>
    have namedHere := named (advance s) rfl
    obtain ⟨enters, chainRest⟩ := List.isChain_cons.1 chain
    obtain ⟨labelledAfter, script⟩ := calls.labelled standard namedHere ⟨labelled.frames, labelled.root⟩
    have namedNext : ∀ v ∈ us.head?, v.invocation.script.info.isSome := by
      intro v first
      have same : v.invocation.script = t.invocation.script := by
        rw [rest.head? first]
        rfl
      exact script v same (enters v first)
    obtain ⟨others, last⟩ := ih namedNext labelledAfter chainRest
    exact ⟨List.forall_mem_cons.2 ⟨namedHere, others⟩, last⟩

/-- An entry starts its loop in the script at hand or in the one to reset to. -/
theorem labelled_started {reset benchmark : Bool} (named : s.invocation.script.info.isSome)
    (labelled : s.invocation.Labelled) :
    (started reset benchmark s).invocation.script.info.isSome ∧
      (started reset benchmark s).invocation.Labelled := by
  cases reset with
  | true => exact ⟨labelled.root, ⟨List.forall_mem_nil _, labelled.root⟩⟩
  | false => exact ⟨named, ⟨labelled.frames, labelled.root⟩⟩

/-- What holds between entries: an invocation that is not to be refused goes back only to scripts with
    metadata. -/
def LabelledUnlessRefused (i : Invocation) : Prop :=
  (∀ f ∈ i.frames, f.script.info.isSome) ∧ (i.script.info.isSome → i.root.info.isSome)

theorem LabelledUnlessRefused.visits (standard : r.registry = Op.standard)
    (h : LabelledUnlessRefused i) (chain : (r.visits e i).IsChain r.EntersLabelled) :
    (∀ u ∈ r.visits e i, u.invocation.script.info.isSome) ∧
      LabelledUnlessRefused (r.execute e.reset e.benchmark (e.scene i)).invocation := by
  by_cases admits : Admits e.reset i
  · obtain ⟨result, loops, left⟩ := r.loops_visits admits
    have labelled : (e.scene i).invocation.Labelled := ⟨h.1, h.2 admits.1⟩
    have start : (started e.reset e.benchmark (e.scene i)).invocation.script.info.isSome ∧
        (started e.reset e.benchmark (e.scene i)).invocation.Labelled :=
      labelled_started admits.1 labelled
    have first : ∀ v ∈ (r.visits e i).head?, v.invocation.script.info.isSome := by
      intro v first
      rw [loops.head? first]
      exact start.1
    obtain ⟨all, last⟩ := loops.labelled standard first start.2 chain
    rw [left]
    exact ⟨all, last.frames, fun _ => last.root⟩
  · have none : r.visits e i = [] := if_neg admits
    rw [none]
    refine ⟨List.forall_mem_nil _, ?_⟩
    rcases refused_of_not_admits admits with unnamed | ⟨named, keep, terminal⟩
    · have unnamed : (e.scene i).invocation.script.info.isNone := unnamed
      rw [r.execute_unnamed unnamed]
      exact h
    · have named : ¬ (e.scene i).invocation.script.info.isNone := named
      have terminal : (e.scene i).invocation.execution.isTerminal := terminal
      rw [keep, r.execute_terminal named terminal]
      exact h

theorem LabelledUnlessRefused.course (standard : r.registry = Op.standard) (entries : List Entry) :
    ∀ i : Invocation, LabelledUnlessRefused i → (r.course entries i).IsChain r.EntersLabelled →
      ∀ u ∈ r.course entries i, u.invocation.script.info.isSome := by
  induction entries with
  | nil =>
    intro i _ _
    exact List.forall_mem_nil _
  | cons e entries ih =>
    intro i h chain
    obtain ⟨first, others, -⟩ := List.isChain_append.1 chain
    obtain ⟨inFirst, after⟩ := h.visits standard first
    have inOthers := ih _ after others
    exact List.forall_mem_append.2 ⟨inFirst, inOthers⟩

/-- A fresh invocation is in the script to which it would be reset, and has no callers. -/
theorem labelledUnlessRefused_start {script : Script} {self : Option Entity} {active : List Entity}
    {pointers : Pointers} {args : List Value}
    (started : Invocation.start script self active pointers args = .ok i) :
    LabelledUnlessRefused i := by
  rw [Invocation.start_eq_ok started]
  exact ⟨List.forall_mem_nil _, id⟩

/-- In the life of an invocation, over any entries, no script without metadata is executed if and only if no
    call or jump goes on in one. -/
theorem unlabelled_iff_entered (library : Library) (config : Config) (budget : Option UInt32)
    {script : Script} {self : Option Entity} {active : List Entity} {pointers : Pointers}
    {args : List Value} {i : Invocation}
    (started : Invocation.start script self active pointers args = .ok i) (entries : List Entry) :
    let r := Runner.standard library config budget
    (∀ u ∈ r.course entries i, u.invocation.script.info.isSome) ↔
      (r.course entries i).IsChain fun u v => ∀ o ∈ Opcode.entering, u.opcode? = some o.id →
        library.get? u.invocation.intOperand = some v.invocation.script →
        v.invocation.script.info.isSome := by
  intro r
  constructor
  · intro all
    refine List.isChain_iff_forall_rel_of_append_cons_cons.2 ?_
    intro u v before after split o _ _ _
    refine all v ?_
    rw [split]
    simp
  · intro chain
    have standard : r.registry = Op.standard := standard_registry library config budget
    exact (labelledUnlessRefused_start started).course standard entries i chain

/-- Both scripts of the call with a wait in it have metadata, so the whole course is in such scripts. -/
theorem unlabelled_iff_entered_patientStart :
    Invocation.start patientScript none [] .none [.int 7] = .ok patientStart ∧
    ∀ u ∈ (standard patientLibrary .empty none).course [patientEntry, patientEntry] patientStart,
      u.invocation.script.info.isSome := by
  have started : Invocation.start patientScript none [] .none [.int 7] = .ok patientStart := rfl
  refine ⟨started, ?_⟩
  refine (unlabelled_iff_entered patientLibrary .empty none started _).2 ?_
  rw [course_patientStart]
  simp only [List.isChain_cons_cons, List.isChain_singleton, and_true]
  exact ⟨fun _ _ _ _ => rfl, fun _ _ _ _ => rfl, fun _ _ _ _ => rfl, fun _ _ _ _ => rfl⟩

/-! ## A script without metadata that is executed -/

/-- A script without metadata under the id that the patient script calls. -/
def unlabelledScript : Script := ⟨2, none, 0, 0, 0, 0, #[Opcode.leave.id], #[], #[], #[]⟩

def unlabelledLibrary : Library :=
  (Library.ofScripts [patientScript, unlabelledScript]).toOption.getD .empty

/-- The scene after the call. -/
def unlabelledEntered : Scene :=
  ⟨{ patientEntered.invocation with
      script := unlabelledScript, opcount := 1, intLocals := [],
      frames := [⟨patientScript, 0, [7], []⟩] },
    .empty, [⟨.trace, "gosub <unknown> (fp=1)"⟩]⟩

theorem next_unlabelledEntered :
    (standard unlabelledLibrary .empty none).Next patientEntered unlabelledEntered :=
  next_of_listed (standard_registry _ _ _) Op.Language.table_listed (Op.mem_of_lookup .gosub rfl)
    rfl rfl rfl rfl

/-- The scene after the return. -/
def unlabelledLeft : Scene :=
  ⟨{ patientEntered.invocation with pc := 0, opcount := 2 }, .empty, unlabelledEntered.log⟩

theorem next_unlabelledLeft :
    (standard unlabelledLibrary .empty none).Next unlabelledEntered unlabelledLeft :=
  next_of_listed (standard_registry _ _ _) Op.Language.table_listed (Op.mem_of_lookup .leave rfl)
    rfl rfl rfl rfl

/-- A script with metadata calls one without, and the one without is executed. -/
theorem unlabelledScript_executed :
    Library.ofScripts [patientScript, unlabelledScript] = .ok unlabelledLibrary ∧
    Invocation.start patientScript none [] .none [.int 7] = .ok patientStart ∧
    ∃ u ∈ (standard unlabelledLibrary .empty none).course [patientEntry] patientStart,
      u.invocation.script.info = none ∧ u.opcode? = some Opcode.leave.id := by
  have budget : (standard unlabelledLibrary .empty none).allowance false patientEntered.invocation =
      499998 + 1 + 1 := rfl
  have visits : (standard unlabelledLibrary .empty none).visits patientEntry patientStart =
      advance patientEntered :: advance unlabelledEntered ::
        (standard unlabelledLibrary .empty none).dispatched 499998 unlabelledLeft := by
    rw [visits_eq ⟨rfl, fun _ => rfl⟩]
    show dispatched _ (allowance _ false patientEntered.invocation) patientEntered = _
    rw [budget, dispatched_next next_unlabelledEntered, dispatched_next next_unlabelledLeft]
  refine ⟨rfl, rfl, advance unlabelledEntered, ?_, rfl, rfl⟩
  rw [course, visits]
  exact List.mem_append_left _ (List.mem_cons_of_mem _ List.mem_cons_self)

end Runner

end TickScript
