import TickScript.Proofs.Course
import TickScript.Proofs.Lifecycle

/-
  Permissions and bindings stay in step.

  A session for which no permissions are named is granted what its bound slots allow: of each category as
  many permissions as slots are bound.  Slots are bound in their order, so these are the permissions for the
  very slots that are bound.  Later an npc may be looked for, in either slot and in any order, which binds
  the slot and grants the permission, or clears it and revokes it.  Nothing else touches either side.

    InStep               every permission is granted for a slot exactly if the slot is bound
    inStep_start         so it is at the start
    Change.inStep        one change keeps it, and so do runs, calls and snapshots
    require_of_inStep    a check then succeeds for a slot that is bound, and otherwise misses the permission
    bindings_inStep      for any session that was started without named permissions
-/

namespace TickScript

/-! ## Sets of permissions -/

/-- The permission for a slot is one bit, which a set has or has not. -/
theorem Permission.includes_eq_getLsbD (permission : Permission) (slot : Slot) :
    ∃ n < 32, ∀ p : Pointers,
      p.includes (permission.pointer slot) = p.bits.toBitVec.getLsbD n := by
  have single : ∃ n < 32, (permission.pointer slot).bits.toBitVec = BitVec.twoPow 32 n := by
    cases permission <;> cases slot <;> decide
  obtain ⟨n, small, one⟩ := single
  refine ⟨n, small, fun p => ?_⟩
  have shared : p.bits.toBitVec &&& (permission.pointer slot).bits.toBitVec =
      if p.bits.toBitVec.getLsbD n then BitVec.twoPow 32 n else 0 := by
    rw [one]
    exact BitVec.and_twoPow _ _
  unfold Pointers.includes
  cases bit : p.bits.toBitVec.getLsbD n with
  | true =>
    rw [bit] at shared
    exact decide_eq_true (UInt32.toBitVec_inj.1 (shared.trans one.symm))
  | false =>
    refine decide_eq_false fun included => ?_
    rw [bit] at shared
    have nothing := (congrArg UInt32.toBitVec included).symm.trans shared
    rw [one] at nothing
    have absent := congrArg (BitVec.getLsbD · n) nothing
    simp [small] at absent

namespace Pointers

theorem includes_union (p q : Pointers) (permission : Permission) (slot : Slot) :
    (p.union q).includes (permission.pointer slot) =
      (p.includes (permission.pointer slot) || q.includes (permission.pointer slot)) := by
  obtain ⟨n, -, bit⟩ := permission.includes_eq_getLsbD slot
  rw [bit, bit, bit]
  exact BitVec.getLsbD_or

theorem includes_without (p q : Pointers) (permission : Permission) (slot : Slot) :
    (p.without q).includes (permission.pointer slot) =
      (p.includes (permission.pointer slot) && !q.includes (permission.pointer slot)) := by
  obtain ⟨n, small, bit⟩ := permission.includes_eq_getLsbD slot
  rw [bit, bit, bit]
  show (p.bits.toBitVec &&& ~~~q.bits.toBitVec).getLsbD n = _
  rw [BitVec.getLsbD_and, BitVec.getLsbD_not, decide_eq_true small, Bool.true_and]

theorem includes_foldl_union (permission : Permission) (slot : Slot) :
    ∀ (sets : List Pointers) (p : Pointers),
      (sets.foldl union p).includes (permission.pointer slot) =
        (p.includes (permission.pointer slot) || sets.any (·.includes (permission.pointer slot)))
  | [], _ => (Bool.or_false _).symm
  | q :: sets, p => by
    rw [List.foldl_cons, includes_foldl_union permission slot sets, includes_union, List.any_cons,
      Bool.or_assoc]

/-- A permission for a slot is that one and no other. -/
theorem includes_pointer (permission permission' : Permission) (slot slot' : Slot) :
    (permission.pointer slot).includes (permission'.pointer slot') =
      decide (permission = permission' ∧ slot = slot') := by
  cases permission <;> cases permission' <;> cases slot <;> cases slot' <;> rfl

end Pointers

/-! ## In step -/

/-- Every permission is granted for a slot exactly if the slot is bound. -/
def Invocation.InStep (i : Invocation) : Prop :=
  ∀ (permission : Permission) (slot : Slot),
    i.pointers.includes (permission.pointer slot) = i.bound permission slot

/-! ## The start -/

namespace Slots

variable {α : Type}

/-- The secondary slot is bound only if the primary one is. -/
def Ordered (s : Slots α) : Prop := s.secondary.isSome → s.primary.isSome

theorem ordered_empty : (empty : Slots α).Ordered := id

/-- Whatever is bound goes into the first free slot. -/
theorem ordered_bind {s : Slots α} {a : α} {b : Slot × Slots α} (h : s.bind a = .ok b) :
    b.2.Ordered := by
  unfold bind at h
  split at h
  · cases h
    exact fun _ => rfl
  next bound =>
    -- The secondary slot has its turn only when the primary one is bound.
    split at h
    · cases h
      exact fun _ => Option.isSome_iff_ne_none.2 fun none => bound (Option.isNone_iff_eq_none.2 none)
    · nomatch h

/-- Of two things as many as slots are bound are those whose slot is bound. -/
theorem any_take_count {β : Type} (f : β → Bool) (a b : β) : ∀ {s : Slots α}, s.Ordered →
    ([a, b].take s.count).any f = (f a && (s.get .primary).isSome || f b && (s.get .secondary).isSome)
  | ⟨none, none⟩, _ => by simp [count, get]
  | ⟨none, some _⟩, ordered => absurd (ordered rfl) nofun
  | ⟨some _, none⟩, _ => by simp [count, get]
  | ⟨some _, some _⟩, _ => by simp [count, get]

end Slots

namespace Invocation

variable {i j : Invocation}

/-- In every category the slots are bound in their order. -/
structure Ordered (i : Invocation) : Prop where
  players : i.players.Ordered
  npcs : i.npcs.Ordered
  locs : i.locs.Ordered
  objs : i.objs.Ordered

theorem ordered_bind {e : Entity} {b : Slot × Invocation} (h : i.bind e = .ok b)
    (ordered : i.Ordered) : b.2.Ordered := by
  cases e with
  | player p =>
    obtain ⟨_, bound, rfl⟩ := Except.map_eq_ok.1 h
    exact { ordered with players := Slots.ordered_bind bound }
  | npc n =>
    obtain ⟨_, bound, rfl⟩ := Except.map_eq_ok.1 h
    exact { ordered with npcs := Slots.ordered_bind bound }
  | loc l =>
    obtain ⟨_, bound, rfl⟩ := Except.map_eq_ok.1 h
    exact { ordered with locs := Slots.ordered_bind bound }
  | obj o =>
    obtain ⟨_, bound, rfl⟩ := Except.map_eq_ok.1 h
    exact { ordered with objs := Slots.ordered_bind bound }

theorem ordered_start {s : Script} {self : Option Entity} {active : List Entity}
    {pointers : Pointers} {args : List Value} (h : start s self active pointers args = .ok i) :
    i.Ordered := by
  refine foldlM_invariant (P := Ordered) ?_
    ⟨Slots.ordered_empty, Slots.ordered_empty, Slots.ordered_empty, Slots.ordered_empty⟩ h
  intro e _ j k ordered hk
  obtain ⟨b, bound, rfl⟩ := Except.map_eq_ok.1 hk
  exact ordered_bind bound ordered

/-- What the bound slots allow, as permissions for slots. -/
theorem boundPointers_eq (i : Invocation) : i.boundPointers =
    [(Permission.player.pointer .primary).union (Permission.protection.pointer .primary),
      (Permission.player.pointer .secondary).union (Permission.protection.pointer .secondary)].take
        i.players.count ++
    [Permission.npc.pointer .primary, Permission.npc.pointer .secondary].take i.npcs.count ++
    [Permission.loc.pointer .primary, Permission.loc.pointer .secondary].take i.locs.count ++
    [Permission.obj.pointer .primary, Permission.obj.pointer .secondary].take i.objs.count :=
  rfl

/-- If slots were bound in their order, they allow what there is a bound slot for. -/
theorem any_boundPointers (ordered : i.Ordered) (permission : Permission) (slot : Slot) :
    i.boundPointers.any (·.includes (permission.pointer slot)) = i.bound permission slot := by
  rw [boundPointers_eq]
  simp only [List.any_append, Slots.any_take_count _ _ _ ordered.players,
    Slots.any_take_count _ _ _ ordered.npcs, Slots.any_take_count _ _ _ ordered.locs,
    Slots.any_take_count _ _ _ ordered.objs, Pointers.includes_union, Pointers.includes_pointer]
  -- Each set is for one category, so only the slots of that category are left.
  cases permission <;> cases slot <;> simp [bound]

/-- Granting sets one after the other grants their union. -/
theorem pointers_foldl_grant : ∀ (granted : List Pointers) (i : Invocation),
    (granted.foldl grant i).pointers = granted.foldl Pointers.union i.pointers
  | [], _ => rfl
  | g :: granted, i => pointers_foldl_grant granted (i.grant g)

theorem inStep_grantBound (ordered : i.Ordered) (nothing : i.pointers = .none) :
    i.grantBound.InStep := by
  intro permission slot
  have same : i.grantBound.bound permission slot = i.bound permission slot := by
    rw [grantBound, Session.foldl_grant]
    rfl
  have absent : Pointers.none.includes (permission.pointer slot) = false := by
    cases permission <;> cases slot <;> rfl
  rw [same, grantBound, pointers_foldl_grant, Pointers.includes_foldl_union, nothing,
    any_boundPointers ordered, absent, Bool.false_or]

/-! ## An npc is looked for -/

/-- An npc that is found is bound in the slot, and the permission is granted. -/
theorem InStep.found (h : i.InStep) (slot : Slot) (npc : NpcRef) :
    ({ i with npcs := i.npcs.set slot (some npc) }.grant (.npc slot)).InStep := by
  intro permission slot'
  show (i.pointers.union (Permission.npc.pointer slot)).includes _ = _
  rw [Pointers.includes_union, Pointers.includes_pointer, h]
  cases permission with
  | npc => cases slot <;> cases slot' <;> simp [bound, grant, Slots.set, Slots.get]
  | player | protection | loc | obj => simp [bound, grant]

/-- If none is found, the slot is cleared and the permission revoked. -/
theorem InStep.lost (h : i.InStep) (slot : Slot) :
    ({ i with npcs := i.npcs.set slot none }.revoke (.npc slot)).InStep := by
  intro permission slot'
  show (i.pointers.without (Permission.npc.pointer slot)).includes _ = _
  rw [Pointers.includes_without, Pointers.includes_pointer, h]
  cases permission with
  | npc => cases slot <;> cases slot' <;> simp [bound, revoke, Slots.set, Slots.get]
  | player | protection | loc | obj => simp [bound, revoke]

end Invocation

/-! ## One instruction -/

theorem Scene.Restacked.inStep {s t : Scene} (h : s.Restacked t) (hs : s.invocation.InStep) :
    t.invocation.InStep := by
  obtain ⟨_, _, _, rfl⟩ := h
  exact hs

/-- Looking for an npc is the only change that binds, clears, grants or revokes. -/
theorem Change.inStep {env : Env} {o : Opcode} {s t : Scene} (c : Change env o s t)
    (hs : s.invocation.InStep) : t.invocation.InStep := by
  -- All other changes leave both sides as they are.
  cases c with
  | found slot npc => exact hs.found slot npc
  | lost slot => exact hs.lost slot
  | call args _ _ entered =>
    obtain ⟨-, rfl⟩ := Invocation.call_eq_ok entered
    exact hs
  | leave _ back =>
    obtain ⟨_, _, -, rfl⟩ := Invocation.leave?_eq_some back
    exact hs
  | nothing | branch | intLocal | stringLocal | jump | finish | wait | search | world | random =>
    exact hs

theorem Effect.inStep {env : Env} {o : Opcode} {s t : Scene} (h : Effect env o s t)
    (hs : s.invocation.InStep) : t.invocation.InStep := by
  obtain ⟨_, _, before, change, after⟩ := h
  exact after.inStep (change.inStep (before.inStep hs))

/-! ## Checks -/

/-- What a check answers for which only the slot counts: what is bound there, or that the permission is
    missing. -/
def Scene.check {α : Type} (s : Scene) (pointer : Pointers) (bound : Option α) :
    EStateM.Result Fault Scene α :=
  match bound with
  | some a => .ok a s
  | none => .error (.notGranted pointer) s

/-- The answer of every check depends on nothing but the slot. -/
structure Scene.ChecksSlots (s : Scene) : Prop where
  player : ∀ env slot, Op.requirePlayerAt slot env s =
    s.check (.player slot) (s.invocation.players.get slot)
  protection : ∀ env slot, Op.requireProtectedPlayerAt slot env s =
    s.check (.protectedAccess slot) (s.invocation.players.get slot)
  npc : ∀ env slot, Op.requireNpcAt slot env s = s.check (.npc slot) (s.invocation.npcs.get slot)
  loc : ∀ env, Op.requireLoc env s =
    s.check (.loc s.invocation.selectedSlot) (s.invocation.locs.get s.invocation.selectedSlot)
  obj : ∀ env, Op.requireObj env s =
    s.check (.obj s.invocation.selectedSlot) (s.invocation.objs.get s.invocation.selectedSlot)

theorem require_of_inStep {α : Type} {s : Scene} (hs : s.invocation.InStep) (permission : Permission)
    (which : Slot) {slot : Invocation → Option α}
    (same : (slot s.invocation).isSome = s.invocation.bound permission which) (env : Env) :
    Op.require (permission.pointer which) slot env s =
      s.check (permission.pointer which) (slot s.invocation) := by
  rw [Op.require_apply, hs, ← same]
  cases slot s.invocation <;> rfl

theorem checksSlots_of_inStep {s : Scene} (hs : s.invocation.InStep) : s.ChecksSlots where
  player env slot := require_of_inStep hs .player slot rfl env
  protection env slot := require_of_inStep hs .protection slot rfl env
  npc env slot := require_of_inStep hs .npc slot rfl env
  loc env := by
    unfold Op.requireLoc
    rw [Op.bind_apply]
    exact require_of_inStep hs .loc _ rfl env
  obj env := by
    unfold Op.requireObj
    rw [Op.bind_apply]
    exact require_of_inStep hs .obj _ rfl env

/-- A check that fails misses the permission, and its slot is empty. -/
theorem Invocation.InStep.of_denies {i : Invocation} (h : i.InStep) {f : Fault} (denied : i.Denies f) :
    ∃ (permission : Permission) (slot : Slot),
      f = .notGranted (permission.pointer slot) ∧ i.bound permission slot = false := by
  obtain ⟨permission, slot, ⟨rfl, absent⟩ | ⟨-, granted, free⟩⟩ := denied
  · exact ⟨permission, slot, rfl, h permission slot ▸ absent⟩
  · rw [h, free] at granted
    nomatch granted

/-! ## Runs -/

namespace Runner

variable {r : Runner} {s t u : Scene} {e : EStateM.Result Fault Scene Unit}

theorem Calls.inStep (standard : r.registry = Op.standard) (calls : r.Calls u t)
    (hu : u.invocation.InStep) : t.invocation.InStep := by
  obtain ⟨opcode, -, done⟩ := calls
  obtain ⟨o, -, effect⟩ := (r.dispatch_ends standard opcode u).of_ok done
  exact effect.inStep hu

/-- An instruction that misses a permission misses it for a slot that is empty. -/
theorem notGranted_of_inStep (standard : r.registry = Op.standard) {opcode : Int32} {f : Fault}
    (failed : r.dispatch opcode r.env u = .error f t) (missing : f.kind = .pointerMissing)
    (hu : u.invocation.InStep) :
    ∃ (permission : Permission) (slot : Slot),
      f = .notGranted (permission.pointer slot) ∧ u.invocation.bound permission slot = false :=
  hu.of_denies (((r.dispatch_ends standard opcode u).of_error failed).denied missing)

theorem inStep_abort (f : Fault) (hs : s.invocation.InStep) : (abort s f).invocation.InStep := by
  rw [abort_invocation]
  exact hs

/-- A loop keeps them in step, wherever it calls an instruction and where it ends. -/
theorem Loops.inStep (standard : r.registry = Op.standard) {us : List Scene} (h : r.Loops s us e)
    (hs : s.invocation.InStep) :
    (∀ u ∈ us, u.invocation.InStep) ∧ (settled e).invocation.InStep := by
  induction h with
  | stopped => exact ⟨List.forall_mem_nil _, hs⟩
  | @unfetched s t f _ still =>
    refine ⟨List.forall_mem_nil _, inStep_abort f ?_⟩
    rcases still with rfl | rfl <;> exact hs
  | @failed s t opcode f _ _ failed =>
    have same := ((r.dispatch_ends standard opcode (advance s)).of_error failed).restacked
    exact ⟨List.forall_mem_singleton.2 hs, inStep_abort f (same.inStep hs)⟩
  | next _ calls _ ih =>
    obtain ⟨called, ended⟩ := ih (calls.inStep standard hs)
    exact ⟨List.forall_mem_cons.2 ⟨hs, called⟩, ended⟩

/-- So does every entry, and an entry that is refused. -/
theorem inStep_entry (standard : r.registry = Op.standard) (entry : Entry) {i : Invocation}
    (hi : i.InStep) : (∀ u ∈ r.visits entry i, u.invocation.InStep) ∧
      (r.execute entry.reset entry.benchmark (entry.scene i)).invocation.InStep := by
  by_cases admits : Admits entry.reset i
  · obtain ⟨result, loops, left⟩ := r.loops_visits admits
    rw [left]
    refine loops.inStep standard ?_
    show (Runner.entered _ (if _ then _ else _)).InStep
    split <;> exact hi
  · -- An entry that is refused calls nothing, and changes at most the state.
    have none : r.visits entry i = [] := if_neg admits
    rw [none]
    refine ⟨List.forall_mem_nil _, ?_⟩
    have refused : ¬ Admits entry.reset (entry.scene i).invocation := admits
    rcases refused_of_not_admits refused with unnamed | ⟨named, keep, terminal⟩
    · rw [r.execute_unnamed unnamed]
      exact hi
    · rw [keep, r.execute_terminal named terminal]
      exact hi

end Runner

/-! ## Snapshots -/

namespace Snapshot

variable {i j : Invocation} {s : Snapshot} {l : Library}

/-- What is restored has the permissions and the slots of what was taken. -/
theorem inStep_restore (taken : capture i = .ok s) (restored : s.restore l = .ok j)
    (hi : i.InStep) : j.InStep := by
  rw [restore_of_capture taken restored]
  exact hi

end Snapshot

/-! ## Sessions -/

namespace Session

/-- `s.Reaches t`: whoever drives the session `s` can bring it to `t`, by calls, by changes of the world from
    outside, and by saving it and resuming what was saved with any pack. -/
inductive Reaches (s : Session) : Session → Prop where
  | start : Reaches s s
  | call {t : Session} (c : Call) : Reaches s t → Reaches s (c.perform t).1
  | withWorld {t : Session} (world : World) : Reaches s t → Reaches s (t.withWorld world)
  | resume {t u : Session} {saved : SessionSnapshot} {p : Pack} {budget : Option UInt32} :
      Reaches s t → t.snapshot = .ok saved → Session.resume p saved budget = .ok u → Reaches s u

/-- The session has the standard instructions, and its permissions and bindings are in step. -/
structure InStep (s : Session) : Prop where
  standard : s.runner.registry = Op.standard
  invocation : s.scene.invocation.InStep

variable {p : Pack} {s t : Session}

theorem InStep.step (h : s.InStep) : s.step.InStep where
  standard := h.standard
  invocation :=
    (Runner.inStep_entry h.standard ⟨false, false, s.scene.world, s.scene.log, none⟩ h.invocation).2

theorem InStep.call (h : s.InStep) (c : Call) : (c.perform s).1.InStep :=
  c.perform_invariant (P := InStep) (fun _ h => h.step) (fun _ h => ⟨h.standard, h.invocation⟩)
    (fun _ _ h => ⟨h.standard, h.invocation⟩) h

theorem InStep.resume (h : s.InStep) {saved : SessionSnapshot} {budget : Option UInt32}
    (taken : s.snapshot = .ok saved) (resumed : Session.resume p saved budget = .ok t) : t.InStep := by
  obtain ⟨script, captured, taken⟩ := Except.bind_eq_ok.1 taken
  cases taken
  unfold Session.resume at resumed
  split at resumed
  · nomatch resumed
  obtain ⟨i, restored, resumed⟩ := Except.bind_eq_ok.1 resumed
  cases resumed
  exact ⟨runner_standard p budget, Snapshot.inStep_restore (Except.mapError_eq_ok.1 captured)
    (Except.mapError_eq_ok.1 restored) h.invocation⟩

theorem InStep.reaches (h : s.InStep) (reaches : s.Reaches t) : t.InStep := by
  induction reaches with
  | start => exact h
  | call c _ ih => exact ih.call c
  | withWorld _ _ ih => exact ⟨ih.standard, ih.invocation⟩
  | resume _ taken resumed ih => exact ih.resume taken resumed

/-- A session that is granted what its bound slots allow starts in step. -/
theorem inStep_start {o : SessionStart} (unnamed : o.pointers = none) (h : start p o = .ok s) :
    s.InStep := by
  obtain ⟨script, _, h⟩ := Except.bind_eq_ok.1 h
  obtain ⟨i, started, h⟩ := Except.bind_eq_ok.1 h
  cases h
  refine ⟨runner_standard p o.budget, ?_⟩
  have started := Except.mapError_eq_ok.1 started
  rw [unnamed] at started ⊢
  have nothing : i.pointers = .none := by
    rw [Invocation.start_eq_ok started]
    rfl
  exact Invocation.inStep_grantBound (Invocation.ordered_start started) nothing

/-- A session is started without named permissions.  Wherever it is brought, by calls, by changes of its world
    and by saving and resuming, every permission is granted for a slot exactly if the slot is bound.  The same
    holds wherever an entry calls an instruction.  A check there, whatever was taken from the stacks before
    it, finds what the slot is bound to, or else misses the permission; and where an instruction fails because
    of a permission, it is one that is not granted, for a slot that is empty. -/
theorem bindings_inStep {o : SessionStart} (unnamed : o.pointers = none) {fresh : Session}
    (started : start p o = .ok fresh) (reaches : fresh.Reaches s) :
    s.scene.invocation.InStep ∧
    ∀ entry, ∀ u ∈ s.runner.visits entry s.scene.invocation,
      u.invocation.InStep ∧
      (∀ v, u.Restacked v → v.ChecksSlots) ∧
      ∀ opcode f t, s.runner.dispatch opcode s.runner.env u = .error f t → f.kind = .pointerMissing →
        ∃ (permission : Permission) (slot : Slot),
          f = .notGranted (permission.pointer slot) ∧ u.invocation.bound permission slot = false := by
  have here := (inStep_start unnamed started).reaches reaches
  refine ⟨here.invocation, fun entry u visited => ?_⟩
  have there := (Runner.inStep_entry here.standard entry here.invocation).1 u visited
  refine ⟨there, fun v same => checksSlots_of_inStep (same.inStep there), ?_⟩
  exact fun _ _ _ failed missing => Runner.notGranted_of_inStep here.standard failed missing there

end Session

/-! ## Slots that are bound out of their order -/

namespace Session

open Runner

/-- A script that looks for an npc in the secondary slot. -/
def seekScript : Script :=
  ⟨1, some ⟨"seek", "seek.rs2", -1, [], #[], #[]⟩, 0, 0, 0, 0,
    #[Opcode.pushConstantInt.id, Opcode.npcFinduid.id, Opcode.leave.id], #[131079, 1, 0], #[], #[]⟩

/-- A world with an npc of type 2. -/
def seekWorld : World := { World.empty with npcs := .ofList [(7, .new 7 2 .origin)] }

def seekPack : Pack := ⟨(Library.ofScripts [seekScript]).toOption.getD .empty, .empty, some seekWorld⟩

def seekStart : Scene := ⟨Invocation.new seekScript [], seekWorld, []⟩

/-- A scene of the run. -/
def seekScene (pc : Int32) (opcount : UInt32) (ints : List Int32) (pointers : Pointers)
    (npcs : Slots NpcRef) : Scene :=
  ⟨{ entered false seekStart.invocation with pc, opcount, ints, pointers, npcs }, seekWorld, []⟩

/-- The scene in which the run ends. -/
def seekFinished : Scene :=
  ⟨{ (seekScene 2 3 [1] .activeNpc2 ⟨none, some ⟨7, 2⟩⟩).invocation with execution := .finished },
    seekWorld, []⟩

theorem execute_seekStart : (seekPack.runner none).execute false false seekStart = seekFinished := by
  obtain ⟨r, given⟩ : ∃ r, r = seekPack.runner none := ⟨_, rfl⟩
  have standard : r.registry = Op.standard := by
    rw [given]
    exact runner_standard _ _
  have pushes : r.Next (seekScene (-1) 0 [] .none .empty) (seekScene 0 1 [131079] .none .empty) :=
    next_of_listed standard Op.Language.table_listed (Op.mem_of_lookup .pushConstantInt rfl) rfl rfl rfl rfl
  have finds : r.Next (seekScene 0 1 [131079] .none .empty)
      (seekScene 1 2 [1] .activeNpc2 ⟨none, some ⟨7, 2⟩⟩) :=
    next_of_listed standard Op.Npc.table_listed (Op.mem_of_lookup .npcFinduid rfl) rfl rfl rfl rfl
  have ends : r.Next (seekScene 1 2 [1] .activeNpc2 ⟨none, some ⟨7, 2⟩⟩) seekFinished :=
    next_of_listed standard Op.Language.table_listed (Op.mem_of_lookup .leave rfl) rfl rfl rfl rfl
  have budget : r.allowance false (seekScene (-1) 0 [] .none .empty).invocation =
      499997 + 1 + 1 + 1 := by
    rw [given]
    rfl
  rw [← given, execute_eq _ ⟨rfl, fun _ => rfl⟩]
  show settled (r.loop (r.allowance false (seekScene (-1) 0 [] .none .empty).invocation)
    (seekScene (-1) 0 [] .none .empty)) = _
  rw [budget, loop_next pushes, loop_next finds, loop_next ends, loop_stopped (by decide)]
  rfl

/-- The secondary slot is bound though the primary one is empty, and the permissions are those for the slots,
    not for their number. -/
theorem bindings_inStep_seekScript : ∃ fresh,
    start seekPack ⟨"seek", none, [], none, [], none, none⟩ = .ok fresh ∧
    fresh.step.scene = seekFinished ∧
    seekFinished.invocation.pointers.includes (.npc .primary) = false ∧
    seekFinished.invocation.pointers.includes (.npc .secondary) := by
  -- the runner stays closed: unfolding it would run the script
  obtain ⟨r, given⟩ : ∃ r, r = seekPack.runner none := ⟨_, rfl⟩
  have begun : start seekPack ⟨"seek", none, [], none, [], none, none⟩ = .ok ⟨r, seekStart⟩ := by
    rw [given]
    rfl
  have ends : (⟨r, seekStart⟩ : Session).step = ⟨r, seekFinished⟩ := by
    rw [given]
    exact congrArg (Session.mk _) execute_seekStart
  have reached : (⟨r, seekStart⟩ : Session).Reaches ⟨r, seekFinished⟩ := ends ▸ .call .step .start
  obtain ⟨inStep, -⟩ := bindings_inStep rfl begun reached
  exact ⟨_, begun, congrArg Session.scene ends, inStep .npc .primary, inStep .npc .secondary⟩

end Session

end TickScript
