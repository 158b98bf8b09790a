import TickScript.Command.Execute
import TickScript.Proofs.Lockstep
import TickScript.Proofs.Persistence
import TickScript.TestCase

/-
  A session that is saved at every dialog goes the way of one that never stops.

  The two are set side by side.  One, the live session, runs in one piece and keeps all its events.  The
  other is saved at every dialog and resumed, so that each time its log of events starts empty, its count
  of instructions starts at zero and its scripts are looked up anew.  `Tracks` says that this is all that
  sets them apart, and how many events the live session is ahead.

    Tracks.step, .waited, .continueDialog    whatever moves both keeps the relation
    Tracks.pass                              to the next stop, the run of a case goes by the timed waits alone
    Tracks.resume                            saving and resuming keeps the relation, and the events that were
                                             handed out before are past from then on

  Both drivers rely on where an entry can leave a script: it has ended or it waits (`Outcome.rests`).
-/

namespace TickScript

/-! ## Where entries leave a script -/

/-- The script has ended, or it waits. -/
def Execution.Rests (e : Execution) : Prop := e.isTerminal ∨ e.isSuspended

theorem Execution.Rests.dialog_or_terminal {e : Execution} (rests : e.Rests)
    (untimed : e.isTimedWait = false) : e.isDialog ∨ e.isTerminal := by
  rcases rests with terminal | suspended
  · exact .inr terminal
  · unfold isSuspended at suspended
    rw [untimed, Bool.false_or] at suspended
    exact .inl suspended

theorem Execution.isSuspended_of_isDialog {e : Execution} : e.isDialog → e.isSuspended := by
  cases e <;> decide

/-- An instruction leaves a script running, or lets it end or wait. -/
theorem Effect.execution {env : Env} {o : Opcode} {s t : Scene} (h : Effect env o s t) :
    t.invocation.execution = s.invocation.execution ∨ t.invocation.execution.Rests := by
  rcases h.stops with ⟨same, -⟩ | ⟨-, finished, -⟩ | ⟨-, suspended⟩
  · exact .inl same
  · exact .inr (.inl (by rw [finished]; rfl))
  · exact .inr (.inr suspended)

namespace Runner

variable {r : Runner} {past : Array WorldEvent} {s t : Scene}

theorem Next.execution (standard : r.registry = Op.standard) (next : r.Next s t) :
    t.invocation.execution = .running ∨ t.invocation.execution.Rests := by
  obtain ⟨o, -, effect⟩ := step_ok standard next.step
  rcases effect.execution with same | rests
  · exact .inl (same.trans next.running)
  · exact .inr rests

theorem Outcome.rests (standard : r.registry = Op.standard) {reset benchmark : Bool}
    (outcome : r.Outcome reset benchmark s t) : t.invocation.execution.Rests := by
  cases outcome with
  | unnamed => exact .inl rfl
  | refused _ terminal => exact .inl terminal
  | stopped _ passes stopped =>
    cases passes with
    | refl => exact absurd rfl stopped
    | tail _ next => exact (next.execution standard).resolve_left stopped
  | aborted =>
    rw [abort_invocation]
    exact .inl rfl

/-- Entries in scenes that are alike but for the count of instructions leave such scenes. -/
theorem execute_alike_recounted (standard : r.registry = Op.standard) {count : UInt32}
    (alike : (s.recounted count).Alike past t) :
    ∃ count', ((r.execute false false s).recounted count').Alike past (r.execute false false t) := by
  have entered := execute_alike standard false false alike
  by_cases admits : Admits false s.invocation
  · rw [execute_recounted admits] at entered
    exact ⟨(r.execute false false s).invocation.opcount, entered⟩
  · rw [execute_recounted_of_refused admits] at entered
    exact ⟨count, entered⟩

end Runner

/-! ## Two sessions side by side -/

namespace Session

/-- `Tracks p past live s`: the session stands where the live one stands, but that the events in `past`
    were taken from its log, and that it may count its instructions differently. -/
structure Tracks (p : Pack) (past : Array WorldEvent) (live s : Session) : Prop where
  liveRunner : live.runner = p.runner none
  runner : s.runner = p.runner none
  sound : s.scene.invocation.Sound p.library
  alike : ∃ count, (s.scene.recounted count).Alike past live.scene

variable {p : Pack} {past : Array WorldEvent} {live s t : Session}

theorem runner_standard (p : Pack) (budget : Option UInt32) :
    (p.runner budget).registry = Op.standard :=
  Runner.standard_registry p.library p.config budget

namespace Tracks

theorem execution (tracks : Tracks p past live s) : live.execution = s.execution := by
  obtain ⟨count, alike⟩ := tracks.alike
  unfold Session.execution
  rw [alike.invocation]
  rfl

theorem events (tracks : Tracks p past live s) :
    live.world.events = past ++ s.world.events := by
  obtain ⟨count, alike⟩ := tracks.alike
  exact congrArg World.events alike.world

/-- An entry keeps the relation. -/
theorem step (ids : p.library.KeepsIds) (tracks : Tracks p past live s) :
    Tracks p past live.step s.step where
  liveRunner := tracks.liveRunner
  runner := tracks.runner
  sound := by
    unfold Session.step
    rw [tracks.runner]
    exact (Runner.keeps_sound (runner_standard p none) ids).execute false false tracks.sound
  alike := by
    obtain ⟨count, alike⟩ := tracks.alike
    unfold Session.step
    rw [tracks.runner, tracks.liveRunner]
    exact Runner.execute_alike_recounted (runner_standard p none) alike

theorem step_rests (tracks : Tracks p past live s) : s.step.execution.Rests := by
  unfold Session.step
  rw [tracks.runner]
  exact ((p.runner none).execute_outcome false false s.scene).rests (runner_standard p none)

/-- A timed wait keeps the relation. -/
theorem waited (tracks : Tracks p past live s) :
    Tracks p past { live with scene := Session.waited live.scene }
      { s with scene := Session.waited s.scene } where
  liveRunner := tracks.liveRunner
  runner := tracks.runner
  sound := tracks.sound
  alike := by
    obtain ⟨count, alike⟩ := tracks.alike
    have ticks : waitTicks live.scene.invocation = waitTicks s.scene.invocation := by
      rw [alike.invocation]
      rfl
    refine ⟨count, alike.invocation, ?_⟩
    show live.scene.world.advance (waitTicks live.scene.invocation) = _
    rw [ticks, alike.world]
    rfl

theorem answered (tracks : Tracks p past live s) (n : Int32) :
    Tracks p past
      { live with scene := { live.scene with invocation := { live.scene.invocation with lastInt := n } } }
      { s with scene := { s.scene with invocation := { s.scene.invocation with lastInt := n } } } where
  liveRunner := tracks.liveRunner
  runner := tracks.runner
  sound := tracks.sound.congr rfl
  alike := by
    obtain ⟨count, alike⟩ := tracks.alike
    refine ⟨count, ?_, alike.world⟩
    dsimp only
    rw [alike.invocation]
    rfl

/-- An answer that the live session takes is taken by the other one, too, and keeps the relation. -/
theorem continueDialog (ids : p.library.KeepsIds) (tracks : Tracks p past live s) {n : Option Int32}
    {live' : Session} (h : live.continueDialog n = .ok live') :
    ∃ s', s.continueDialog n = .ok s' ∧ Tracks p past live' s' ∧ s'.execution.Rests := by
  unfold Session.continueDialog at h ⊢
  rw [tracks.execution] at h
  cases execution : s.execution with
  | pauseButton =>
    rw [execution] at h
    cases h
    exact ⟨_, rfl, tracks.step ids, tracks.step_rests⟩
  | countDown =>
    rw [execution] at h
    cases n with
    | none => nomatch h
    | some n =>
      cases h
      exact ⟨_, rfl, (tracks.answered n).step ids, (tracks.answered n).step_rests⟩
  | _ =>
    rw [execution] at h
    nomatch h

end Tracks

end Session

/-! ## The run of a case, from stop to stop -/

namespace TestCase

variable {c : TestCase} {left steps used : Nat} {s : Session} {report : Report}

/-- A run goes on while there are entries left, and ends where the script has ended. -/
theorem follow_eq_ok (h : c.follow left steps ⟨s, used⟩ = .ok report) :
    (s.execution.isTerminal ∧ c.report ⟨s, used⟩ steps = .ok report) ∨
      (s.execution.isTerminal = false ∧ ∃ left' next, c.goOn ⟨s, used⟩ = .ok next ∧
        c.follow left' (steps + 1) next = .ok report) := by
  cases left with
  | zero => nomatch h
  | succ left =>
    unfold follow at h
    split at h
    next terminal => exact .inl ⟨terminal, h⟩
    next alive =>
      obtain ⟨next, gone, rest⟩ := Except.bind_eq_ok.1 h
      exact .inr ⟨Bool.eq_false_iff.2 alive, left, next, gone, rest⟩

/-- A timed wait passes by itself. -/
theorem follow_of_isTimedWait (timed : s.execution.isTimedWait)
    (h : c.follow left steps ⟨s, used⟩ = .ok report) :
    ∃ left', c.follow left' (steps + 1)
      ⟨{ s with scene := Session.waited s.scene }.step, used⟩ = .ok report := by
  have live : s.execution.isTerminal = false :=
    Execution.isTerminal_of_isSuspended (by rw [Execution.isSuspended, timed]; rfl)
  have silent : s.execution.isDialog = false := by
    cases execution : s.execution <;> rw [execution] at timed <;> first | rfl | nomatch timed
  rcases follow_eq_ok h with ⟨terminal, -⟩ | ⟨-, left', next, gone, rest⟩
  · rw [live] at terminal
    nomatch terminal
  · unfold goOn at gone
    rw [if_neg (by rw [silent]; nofun), if_pos timed] at gone
    unfold Session.wait at gone
    rw [if_pos timed] at gone
    cases gone
    exact ⟨left', rest⟩

end TestCase

namespace Session

variable {p : Pack} {past : Array WorldEvent} {live s t : Session}

/-- There is nothing to wait for. -/
theorem pass_of_untimed (waits : Nat) (untimed : s.execution.isTimedWait = false) :
    pass waits s = (s, true) := by
  unfold pass
  rw [untimed]
  rfl

/-- While one session lets its timed waits pass, the run of a case takes the live one to the same stop. -/
theorem Tracks.pass (ids : p.library.KeepsIds) {c : TestCase} {used : Nat} {report : TestCase.Report} :
    ∀ (waits : Nat) {live s : Session} {left steps : Nat}, Tracks p past live s → s.execution.Rests →
      c.follow left steps ⟨live, used⟩ = .ok report → Session.pass waits s = (t, true) →
      ∃ left' steps' live', Tracks p past live' t ∧ (t.execution.isDialog ∨ t.execution.isTerminal) ∧
        c.follow left' steps' ⟨live', used⟩ = .ok report := by
  intro waits
  induction waits with
  | zero =>
    intro live s left steps tracks rests run passed
    unfold Session.pass at passed
    split at passed
    next untimed =>
      cases passed
      exact ⟨left, steps, live, tracks, rests.dialog_or_terminal (by simpa using untimed), run⟩
    next => nomatch passed
  | succ waits ih =>
    intro live s left steps tracks rests run passed
    unfold Session.pass at passed
    split at passed
    next untimed =>
      cases passed
      exact ⟨left, steps, live, tracks, rests.dialog_or_terminal (by simpa using untimed), run⟩
    next timed =>
      have timed : live.execution.isTimedWait := by
        rw [tracks.execution]
        simpa using timed
      obtain ⟨left', rest⟩ := TestCase.follow_of_isTimedWait timed run
      exact ih (tracks.waited.step ids) tracks.waited.step_rests rest passed

/-! ## Starting, saving and resuming -/

/-- Granting what the bound slots allow changes nothing but the permissions. -/
theorem foldl_grant : ∀ (granted : List Pointers) (i : Invocation),
    granted.foldl Invocation.grant i =
      { i with pointers := (granted.foldl Invocation.grant i).pointers }
  | [], _ => rfl
  | g :: granted, i => by
    rw [List.foldl_cons, foldl_grant granted (i.grant g)]
    rfl

/-- Whatever an entry means is a script of the pack. -/
theorem resolveEntry_eq_ok {entry : String} {script : Script}
    (h : p.resolveEntry entry = .ok script) : ∃ id, p.library.get? id = some script := by
  unfold Pack.resolveEntry at h
  dsimp only at h
  split at h
  next found =>
    cases h
    rcases Option.or_eq_some_iff.1 found with named | ⟨-, found⟩
    · obtain ⟨id, -, there⟩ := Option.bind_eq_some_iff.1 named
      exact ⟨id, there⟩
    · rcases Option.or_eq_some_iff.1 found with named | ⟨-, numbered⟩
      · obtain ⟨id, -, there⟩ := Option.bind_eq_some_iff.1 named
        exact ⟨id, there⟩
      · obtain ⟨id, -, there⟩ := Option.bind_eq_some_iff.1 numbered
        exact ⟨id, there⟩
  next => nomatch h

/-- Saving a session that waits and resuming it keeps the relation; the events that were in its log are
    past from then on. -/
theorem Tracks.resume (tracks : Tracks p past live s) (suspended : s.execution.isSuspended) :
    ∃ snapshot resumed, s.takeEvents.2.snapshot = .ok snapshot ∧
      Session.resume p snapshot none = .ok resumed ∧
      Tracks p (past ++ s.world.events) live resumed := by
  obtain ⟨script, taken, restored⟩ := Snapshot.restore_capture tracks.sound suspended
  have saved : s.takeEvents.2.snapshot =
      .ok ⟨SessionSnapshot.schema, script, s.world.clearEvents⟩ := by
    unfold Session.snapshot
    show (Snapshot.capture s.scene.invocation).mapError _ >>= _ = _
    rw [taken]
    rfl
  have back : Session.resume p ⟨SessionSnapshot.schema, script, s.world.clearEvents⟩ none =
      .ok ⟨p.runner none, ⟨{ s.scene.invocation with opcount := 0 }, s.world.clearEvents, []⟩⟩ := by
    unfold Session.resume
    dsimp only
    rw [if_neg (not_not.2 rfl), restored]
    rfl
  refine ⟨_, _, saved, back, tracks.liveRunner, rfl, tracks.sound.congr rfl, ?_⟩
  obtain ⟨count, alike⟩ := tracks.alike
  refine ⟨count, alike.invocation, ?_⟩
  rw [alike.world]
  show { s.scene.world with events := past ++ s.scene.world.events } =
    { s.scene.world with events := (past ++ s.scene.world.events) ++ #[] }
  rw [Array.append_empty]

end Session

end TickScript
