import Mathlib.Algebra.Ring.Int.Defs
import TickScript.Proofs.ItemSlots
import TickScript.Proofs.Lifecycle
import TickScript.Proofs.Replay
import TickScript.Proofs.Success

/-
  Settling in parts, and the time that it takes.

  A session settles by one wait after the other, until the script has ended, asks for an answer, or has
  waited too often.  Between two waits the script runs, whatever it is, and it may ask for any delay.  So
  that settling for `a` waits and then for `b` more is settling for `a + b` rests on where the limit is
  looked at, which is before a wait and not after it.  And that the clock has moved by the delays, and by
  nothing else, rests on the script, which has no way to touch it.

    Waits             timed waits one after the other, with the delays that they had
    pass_add          settling in two parts
    pass_waits        settling is waiting, and it stops at the limit only where one more wait is asked for
    Drives.clock      whatever a script does to the world, it leaves the clock alone
    settle_exact      the two together
-/

namespace TickScript

/-! ## The clock -/

theorem World.Writes.clock {w v : World} {whom : Option Int32} (h : w.Writes whom v) :
    v.clock = w.clock := by
  cases h <;> rfl

/-- No change of the world that an instruction can ask for touches the clock. -/
theorem WorldCall.perform_clock {call : WorldCall} {w w' : World} (h : call.perform w = .ok w') :
    w'.clock = w.clock := by
  obtain ⟨v, written, rfl | ⟨e, rfl⟩⟩ := WorldCall.perform_writes h
  · exact written.clock
  · exact written.clock

namespace World

variable {w w' : World}

theorem Request.apply_clock (r : Request) (w : World) : (r.apply w).clock = w.clock := by
  cases r with
  | random bound => rfl
  | change call =>
    cases done : call.perform w with
    | ok w' =>
      rw [apply_of_ok done]
      exact call.perform_clock done
    | error f => rw [apply_of_error done]

theorem serve_clock : ∀ (requests : List Request) (w : World), (w.serve requests).clock = w.clock
  | [], _ => rfl
  | r :: requests, w => (serve_clock requests (r.apply w)).trans (r.apply_clock w)

/-- What a script does to a world leaves the clock alone. -/
theorem Drives.clock (h : w.Drives w') : w'.clock = w.clock := by
  obtain ⟨requests, rfl⟩ := h
  exact serve_clock requests w

end World

theorem Runner.dispatch_clock {r : Runner} (standard : r.registry = Op.standard) {opcode : Int32}
    {u v : Scene} (done : r.dispatch opcode r.env u = .ok () v) : v.world.clock = u.world.clock := by
  obtain ⟨_, -, effect⟩ := (r.dispatch_ends standard opcode u).of_ok done
  exact effect.drives.clock

/-! ## Delays that are asked for -/

/-- The invocation waits, for one tick more than were named, or for as many as a script int can hold. -/
structure Invocation.Delays (i : Invocation) (execution : Execution) (ticks : Int32) : Prop where
  execution : i.execution = execution
  delay : ∃ delay, i.delay = some delay ∧ delay.toInt = min (ticks.toInt + 1) 2147483647

namespace Op

variable {env : Env} {s : Scene}

theorem suspendFor_delays (execution : Execution) (ticks : Int32) (env : Env) (s : Scene) :
    ∃ t, suspendFor execution ticks env s = .ok () t ∧ t.invocation.Delays execution ticks := by
  refine ⟨_, rfl, rfl, _, rfl, ?_⟩
  have low := ticks.le_toInt
  rw [Arithmetic.saturatingAdd, Arithmetic.toInt_clamp, Int32.toInt_one]
  omega

variable {u : Scene} {ticks : Int32} {rest : List Int32}

theorem Surroundings.worldDelay_delays (env : Env) (operand : u.invocation.ints = ticks :: rest) :
    ∃ v, worldDelay env u = .ok () v ∧ v.invocation.Delays .worldSuspended ticks :=
  exists_bind_eq_ok (popInt_eq_ok.2 ⟨rest, operand, rfl⟩) (suspendFor_delays _ _ _ _)

theorem Player.pDelay_delays (env : Env) (operand : u.invocation.ints = ticks :: rest)
    (permitted : u.invocation.pointers.includes (.protectedAccess u.invocation.selectedSlot))
    {p : PlayerRef} (bound : u.invocation.players.get u.invocation.selectedSlot = some p) :
    ∃ v, pDelay env u = .ok () v ∧ v.invocation.Delays .suspended ticks := by
  unfold pDelay
  refine exists_bind_eq_ok (popInt_eq_ok.2 ⟨rest, operand, rfl⟩) ?_
  refine exists_bind_eq_ok (requireProtectedPlayer_eq_ok.2 ⟨rfl, permitted, bound⟩) ?_
  exact suspendFor_delays _ _ _ _

theorem Npc.npcDelay_delays (env : Env) (operand : u.invocation.ints = ticks :: rest)
    (permitted : u.invocation.pointers.includes (.npc u.invocation.selectedSlot))
    {npc : NpcRef} (bound : u.invocation.npcs.get u.invocation.selectedSlot = some npc) :
    ∃ v, npcDelay env u = .ok () v ∧ v.invocation.Delays .npcSuspended ticks := by
  unfold npcDelay
  refine exists_bind_eq_ok (popInt_eq_ok.2 ⟨rest, operand, rfl⟩) ?_
  refine exists_bind_eq_ok (requireNpc_eq_ok.2 ⟨rfl, permitted, bound⟩) ?_
  exact suspendFor_delays _ _ _ _

end Op

namespace Session

variable {s t u : Session} {delays : List (Option Int32)}

/-! ## Waits in a row -/

/-- `s.Waits delays t`: timed waits, one after the other, lead from `s` to `t`, and these are the delays
    with which they were asked for. -/
inductive Waits : Session → List (Option Int32) → Session → Prop where
  | nil (s : Session) : Waits s [] s
  | cons {s u t : Session} {delays : List (Option Int32)} :
      s.wait = .ok u → Waits u delays t → Waits s (s.scene.invocation.delay :: delays) t

/-- The ticks of some waits: one at least for each, and one where no delay is set. -/
def ticksOf (delays : List (Option Int32)) : Int := (delays.map fun d => max 1 (d.getD 1).toInt).sum

theorem ticksOf_cons (delay : Option Int32) (delays : List (Option Int32)) :
    ticksOf (delay :: delays) = max 1 (delay.getD 1).toInt + ticksOf delays := List.sum_cons

theorem ticksOf_nonneg (delays : List (Option Int32)) : 0 ≤ ticksOf delays := by
  induction delays with
  | nil => exact Int.le_refl 0
  | cons delay delays ih =>
    rw [ticksOf_cons]
    omega

theorem toInt_waitTicks (i : Invocation) : (waitTicks i).toInt = max 1 (i.delay.getD 1).toInt := by
  unfold waitTicks
  show (if i.delay.getD 1 ≤ 1 then 1 else i.delay.getD 1 : Int32).toInt = _
  split
  next small =>
    have small := Int32.le_iff_toInt_le.1 small
    rw [Int32.toInt_one] at small ⊢
    omega
  next large =>
    have large := mt Int32.le_iff_toInt_le.2 large
    rw [Int32.toInt_one] at large
    omega

theorem step_clock (standard : s.runner.registry = Op.standard) : s.step.world.clock = s.world.clock :=
  ((Runner.keeps_drives standard s.world).execute false false (.of_eq rfl)).clock

theorem wait_eq_ok : s.wait = .ok u ↔
    s.execution.isTimedWait ∧ u = { s with scene := waited s.scene }.step := by
  rcases s.wait_cases with ⟨timed, gone⟩ | ⟨untimed, refused⟩
  · rw [gone]
    exact ⟨fun same => ⟨timed, (Except.ok.inj same).symm⟩, fun ⟨_, same⟩ => congrArg _ same.symm⟩
  · rw [refused, untimed]
    exact ⟨nofun, fun ⟨timed, _⟩ => nomatch timed⟩

/-- A wait takes the ticks that were asked for, if the clock can show them. -/
theorem wait_clock (standard : s.runner.registry = Op.standard) (h : s.wait = .ok u)
    (shown : s.world.clock.toInt + max 1 (s.scene.invocation.delay.getD 1).toInt ≤ 2147483647) :
    u.world.clock.toInt = s.world.clock.toInt + max 1 (s.scene.invocation.delay.getD 1).toInt := by
  obtain ⟨-, rfl⟩ := wait_eq_ok.1 h
  have low := s.world.clock.le_toInt
  have entered : ({ s with scene := waited s.scene }.step).world.clock =
      s.world.clock + waitTicks s.scene.invocation :=
    step_clock standard
  rw [entered, Int32.toInt_add, toInt_waitTicks, Int.bmod_eq_of_le (by omega) (by omega)]

theorem Waits.clock (standard : s.runner.registry = Op.standard) (waits : s.Waits delays t)
    (shown : s.world.clock.toInt + ticksOf delays ≤ 2147483647) :
    t.world.clock.toInt = s.world.clock.toInt + ticksOf delays := by
  induction waits with
  | nil => exact (Int.add_zero _).symm
  | @cons s u t delays wait waits ih =>
    -- the waits to come take some time or none, so the clock can show this one as well
    have later := ticksOf_nonneg delays
    rw [ticksOf_cons] at shown ⊢
    have moved := wait_clock standard wait (by omega)
    obtain ⟨-, rfl⟩ := wait_eq_ok.1 wait
    rw [ih standard (by omega), moved]
    omega

/-! ## Settling -/

/-- Settling goes on from where a wait leads. -/
theorem pass_of_wait (left : Nat) (h : s.wait = .ok u) : pass (left + 1) s = pass left u := by
  obtain ⟨timed, rfl⟩ := wait_eq_ok.1 h
  rw [pass, timed]
  rfl

/-- The session that settling leads to shows whether the waits have sufficed. -/
theorem pass_settled (left : Nat) (s : Session) :
    (pass left s).2 = !(pass left s).1.execution.isTimedWait := by
  fun_induction pass left s with
  | case1 left s untimed => exact untimed.symm
  | case2 s timed => exact (Bool.eq_false_iff.2 timed).symm
  | case3 s timed left ih => exact ih

/-- Settling in two parts.  Where the waits of the first part have sufficed the second has nothing to do. -/
theorem pass_add (a b : Nat) (s : Session) : pass (a + b) s = pass b (pass a s).1 := by
  fun_induction pass a s with
  | case1 a s untimed =>
    have untimed : s.execution.isTimedWait = false := by simpa using untimed
    rw [pass_of_untimed _ untimed, pass_of_untimed _ untimed]
  | case2 s timed => rw [Nat.zero_add]
  | case3 s timed left ih =>
    have wait := wait_eq_ok.2 ⟨by simpa using timed, rfl⟩
    rw [Nat.succ_add, pass_of_wait _ wait, ih]

/-- Settling makes no more waits than allowed, and fewer only if the script has ceased to wait. -/
theorem pass_waits (left : Nat) (s : Session) : ∃ delays, s.Waits delays (pass left s).1 ∧
    delays.length ≤ left ∧ ((pass left s).1.execution.isTimedWait → delays.length = left) := by
  fun_induction pass left s with
  | case1 left s untimed =>
    have untimed : s.execution.isTimedWait = false := by simpa using untimed
    exact ⟨[], .nil s, Nat.zero_le _, fun still => nomatch untimed.symm.trans still⟩
  | case2 s timed => exact ⟨[], .nil s, Nat.le_refl 0, fun _ => rfl⟩
  | case3 s timed left ih =>
    have wait := wait_eq_ok.2 ⟨by simpa using timed, rfl⟩
    obtain ⟨delays, waits, fewer, all⟩ := ih
    exact ⟨_, .cons wait waits, Nat.succ_le_succ fewer, fun still => congrArg (· + 1) (all still)⟩

/-- The session that settling leads to shows its answer: the state, or that the script still waits. -/
theorem settle_eq (n : Nat) (s : Session) : s.settle n = ((pass n s).1,
    if (pass n s).1.execution.isTimedWait then .error (.waitLimit n)
    else .ok (pass n s).1.execution) := by
  unfold settle
  rw [← Prod.eta (pass n s), pass_settled]
  dsimp only
  cases (pass n s).1.execution.isTimedWait <;> rfl

theorem settle_fails_iff {n : Nat} :
    (∃ e, (s.settle n).2 = .error e) ↔ (s.settle n).1.execution.isTimedWait := by
  rw [settle_eq]
  cases (pass n s).1.execution.isTimedWait with
  | false => exact ⟨nofun, nofun⟩
  | true => exact ⟨fun _ => rfl, fun _ => ⟨_, rfl⟩⟩

/-- Settling for fewer waits either was enough, or is taken up by settling for the rest. -/
theorem settle_add (s : Session) (a b : Nat) :
    ((∃ e, (s.settle a).2 = .ok e) → s.settle (a + b) = s.settle a) ∧
    ∀ e, (s.settle a).2 = .error e → e = .waitLimit a ∧
      let t := (s.settle a).1
      (t.settle b).1 = (s.settle (a + b)).1 ∧
      (∀ x, (t.settle b).2 = .ok x ↔ (s.settle (a + b)).2 = .ok x) ∧
      ((t.settle b).2 = .error (.waitLimit b) ↔
        (s.settle (a + b)).2 = .error (.waitLimit (a + b))) := by
  constructor
  · rintro ⟨e, settled⟩
    have untimed : (pass a s).1.execution.isTimedWait = false := by
      rw [settle_eq] at settled
      exact Bool.eq_false_iff.2 fun timed => nomatch settled.symm.trans (if_pos timed)
    rw [settle_eq (a + b), settle_eq a, pass_add, pass_of_untimed b untimed, untimed]
    rfl
  · intro e limit
    constructor
    · rw [settle_eq] at limit
      split at limit <;> cases limit
      rfl
    -- both sides look at one and the same session
    · simp only [settle_eq, pass_add]
      cases (pass b (pass a s).1).1.execution.isTimedWait with
      | false => exact ⟨trivial, fun _ => Iff.rfl, nofun, nofun⟩
      | true => exact ⟨trivial, fun _ => ⟨nofun, nofun⟩, fun _ => rfl, fun _ => rfl⟩

/-- Settling makes so many waits at most, fails if a timed wait is left after all of them, and moves the
    clock by the ticks of the waits made. -/
theorem settle_waits (standard : s.runner.registry = Op.standard) (n : Nat) :
    ∃ delays, s.Waits delays (s.settle n).1 ∧ delays.length ≤ n ∧
      ((∃ e, (s.settle n).2 = .error e) ↔
        delays.length = n ∧ (s.settle n).1.execution.isTimedWait) ∧
      (s.world.clock.toInt + ticksOf delays ≤ 2147483647 →
        (s.settle n).1.world.clock.toInt = s.world.clock.toInt + ticksOf delays) := by
  obtain ⟨delays, waits, fewer, all⟩ := pass_waits n s
  have led : (s.settle n).1 = (pass n s).1 := by rw [settle_eq]
  rw [← led] at waits all
  refine ⟨delays, waits, fewer, settle_fails_iff.trans ?_, waits.clock standard⟩
  exact ⟨fun timed => ⟨all timed, timed⟩, And.right⟩

/-- Whatever else is asked of a session, the clock stands still. -/
theorem calls_clock (standard : s.runner.registry = Op.standard) :
    s.step.world.clock = s.world.clock ∧
    (∀ answer t, s.continueDialog answer = .ok t → t.world.clock = s.world.clock) ∧
    s.takeEvents.2.world.clock = s.world.clock ∧
    ∀ snapshot, s.snapshot = .ok snapshot → snapshot.world.clock = s.world.clock ∧
      ∀ p budget t, resume p snapshot budget = .ok t → t.world.clock = s.world.clock := by
  refine ⟨step_clock standard, fun answer t given => ?_, rfl, fun snapshot taken => ?_⟩
  · rcases s.continueDialog_cases answer with ⟨-, gone⟩ | ⟨n, -, -, gone⟩ | ⟨-, e, refused⟩
    · cases gone.symm.trans given
      exact step_clock standard
    · cases gone.symm.trans given
      have answered : (s.withLastInt n).runner.registry = Op.standard := standard
      exact step_clock answered
    · nomatch refused.symm.trans given
  · obtain ⟨script, -, taken⟩ := Except.bind_eq_ok.1 taken
    cases taken
    refine ⟨rfl, fun p budget t resumed => ?_⟩
    obtain ⟨-, -, resumed⟩ := Except.bind_eq_ok.1 resumed
    obtain ⟨i, -, resumed⟩ := Except.bind_eq_ok.1 resumed
    cases resumed
    rfl

/-- Settling for `a` waits and then, if they were too few, for `b` more is settling for `a + b`, whatever
    the script does in between.  With the standard instructions, which the sessions of a pack have, settling
    makes as many waits as it needs and may make, and moves the clock by what was asked for, though by one
    tick at least for each wait.  An instruction that waits for some
    ticks asks for one more, as far as script ints reach.  Nothing else moves the clock: no instruction,
    whether it succeeds or fails, and nothing else that is asked of a session. -/
theorem settle_exact :
    (∀ (s : Session) (a b : Nat),
      ((∃ e, (s.settle a).2 = .ok e) → s.settle (a + b) = s.settle a) ∧
      ∀ e, (s.settle a).2 = .error e → e = .waitLimit a ∧
        let t := (s.settle a).1
        (t.settle b).1 = (s.settle (a + b)).1 ∧
        (∀ x, (t.settle b).2 = .ok x ↔ (s.settle (a + b)).2 = .ok x) ∧
        ((t.settle b).2 = .error (.waitLimit b) ↔
          (s.settle (a + b)).2 = .error (.waitLimit (a + b)))) ∧
    (∀ s : Session, s.runner.registry = Op.standard →
      (∀ n, ∃ delays, s.Waits delays (s.settle n).1 ∧ delays.length ≤ n ∧
        ((∃ e, (s.settle n).2 = .error e) ↔
          delays.length = n ∧ (s.settle n).1.execution.isTimedWait) ∧
        (s.world.clock.toInt + ticksOf delays ≤ 2147483647 →
          (s.settle n).1.world.clock.toInt = s.world.clock.toInt + ticksOf delays)) ∧
      s.step.world.clock = s.world.clock ∧
      (∀ answer t, s.continueDialog answer = .ok t → t.world.clock = s.world.clock) ∧
      s.takeEvents.2.world.clock = s.world.clock ∧
      ∀ snapshot, s.snapshot = .ok snapshot → snapshot.world.clock = s.world.clock ∧
        ∀ p budget t, resume p snapshot budget = .ok t → t.world.clock = s.world.clock) ∧
    ∀ (library : Library) (config : Config) (budget : Option UInt32),
      let r := Runner.standard library config budget
      (∀ opcode u v, r.dispatch opcode r.env u = .ok () v → v.world.clock = u.world.clock) ∧
      (∀ opcode u f v, r.dispatch opcode r.env u = .error f v → v.world.clock = u.world.clock) ∧
      ∀ (u : Scene) ticks rest, u.invocation.ints = ticks :: rest →
        let slot := u.invocation.selectedSlot
        (u.opcode? = some Opcode.worldDelay.id →
          ∃ v, r.Calls u v ∧ v.invocation.Delays .worldSuspended ticks) ∧
        (u.opcode? = some Opcode.pDelay.id →
          u.invocation.pointers.includes (.protectedAccess slot) →
          (∃ p, u.invocation.players.get slot = some p) →
          ∃ v, r.Calls u v ∧ v.invocation.Delays .suspended ticks) ∧
        (u.opcode? = some Opcode.npcDelay.id → u.invocation.pointers.includes (.npc slot) →
          (∃ npc, u.invocation.npcs.get slot = some npc) →
          ∃ v, r.Calls u v ∧ v.invocation.Delays .npcSuspended ticks) := by
  refine ⟨settle_add, fun s standard => ⟨settle_waits standard, calls_clock standard⟩, ?_⟩
  intro library config budget r
  have standard : r.registry = Op.standard := Runner.standard_registry library config budget
  refine ⟨fun opcode u v => Runner.dispatch_clock standard, fun opcode u f v failed => ?_, ?_⟩
  · have ends := (r.dispatch_ends standard opcode u).of_error failed
    exact congrArg World.clock ends.1.world
  · intro u ticks rest operand slot
    refine ⟨fun here => ?_, fun here permitted ⟨p, bound⟩ => ?_, fun here permitted ⟨npc, bound⟩ => ?_⟩
    · obtain ⟨v, done, delays⟩ := Op.Surroundings.worldDelay_delays r.env operand
      exact ⟨v, Runner.calls_of_listed standard Op.Surroundings.table_listed
        (Op.mem_of_lookup .worldDelay rfl) here done, delays⟩
    · obtain ⟨v, done, delays⟩ := Op.Player.pDelay_delays r.env operand permitted bound
      exact ⟨v, Runner.calls_of_listed standard Op.Player.table_listed
        (Op.mem_of_lookup .pDelay rfl) here done, delays⟩
    · obtain ⟨v, done, delays⟩ := Op.Npc.npcDelay_delays r.env operand permitted bound
      exact ⟨v, Runner.calls_of_listed standard Op.Npc.table_listed
        (Op.mem_of_lookup .npcDelay rfl) here done, delays⟩

open Runner in
/-- A session that waits for six ticks does not settle without a wait, and one wait takes these ticks. -/
theorem settle_exact_waitingStopped :
    let s : Session := ⟨Runner.standard waitingLibrary .empty none, waitingStopped⟩
    (s.settle 0).2 = .error (.waitLimit 0) ∧ ((s.settle 0).1.settle 1).1 = (s.settle 1).1 ∧
      (s.settle 1).1.world.clock.toInt = 6 := by
  -- the runner stays closed: unfolding it would run the script
  obtain ⟨r, given⟩ : ∃ r, r = Runner.standard waitingLibrary .empty none := ⟨_, rfl⟩
  have standard : r.registry = Op.standard := by
    rw [given]
    exact standard_registry _ _ _
  rw [← given]
  intro s
  obtain ⟨parts, time, -⟩ := settle_exact
  have limit : (s.settle 0).2 = .error (.waitLimit 0) := rfl
  obtain ⟨delays, waits, fewer, fails, clock⟩ := (time s standard).1 1
  refine ⟨limit, ((parts s 0 1).2 _ limit).2.1, ?_⟩
  generalize last : (s.settle 1).1 = t at waits fails clock ⊢
  cases waits with
  | nil =>
    -- without a wait the session would wait still, and then a wait would have been made
    have timed : (s.settle 1).1.execution.isTimedWait := by rw [last]; rfl
    nomatch (fails.1 (settle_fails_iff.2 timed)).1
  | @cons _ _ _ rest wait waits =>
    cases List.length_eq_zero_iff.1 (Nat.le_zero.1 (Nat.le_of_succ_le_succ fewer))
    have shown : waitingStopped.world.clock.toInt + ticksOf [waitingStopped.invocation.delay] ≤
        2147483647 := by decide
    exact clock shown

end Session

end TickScript
