import TickScript.Proofs.Instruction.Standard

/-
  What one instruction does to a scene.

  Whatever the handler, its run has three parts: something happens to the stacks and the log, then comes
  at most one CHANGE of anything else, then again something happens to the stacks and the log.  A run
  that fails stops in the first part.  `Change` lists the changes there are, each with what has to hold
  for it: which instructions can make it, which permissions it needs, where the script comes from that
  it enters.

    stacks, log        Restacked          the frame of everything a handler computes
    one write          World.Writes       what a change of the world can write, apart from its event
    one change         Change             the only cases that an invariant has to look at
    together           Effect             closed under restacking on both sides

  `Instruction.ends` is the bridge from the shape of a handler to its effect.  An invariant of whole runs
  is proved over `Change` and never opens a handler.
-/

namespace TickScript

/-! ## Stacks and log -/

/-- `s.Restacked t`: `t` differs from `s` at most in the stacks and the log. -/
def Scene.Restacked (s t : Scene) : Prop :=
  ∃ ints strings log, t = ⟨{ s.invocation with ints, strings }, s.world, log⟩

namespace Scene.Restacked

variable {s t u : Scene}

theorem refl (s : Scene) : s.Restacked s := ⟨s.invocation.ints, s.invocation.strings, s.log, rfl⟩

theorem trans (h : s.Restacked t) (h' : t.Restacked u) : s.Restacked u := by
  obtain ⟨_, _, _, rfl⟩ := h
  obtain ⟨ints, strings, log, rfl⟩ := h'
  exact ⟨ints, strings, log, rfl⟩

theorem note (s : Scene) (level : LogLevel) (text : String) : s.Restacked (s.note level text) :=
  ⟨s.invocation.ints, s.invocation.strings, _, rfl⟩

theorem ints (s : Scene) (ints : List Int32) :
    s.Restacked { s with invocation := { s.invocation with ints } } :=
  ⟨ints, s.invocation.strings, s.log, rfl⟩

theorem strings (s : Scene) (strings : List String) :
    s.Restacked { s with invocation := { s.invocation with strings } } :=
  ⟨s.invocation.ints, strings, s.log, rfl⟩

theorem world (h : s.Restacked t) : t.world = s.world := by
  obtain ⟨_, _, _, rfl⟩ := h
  rfl

theorem intOperand (h : s.Restacked t) : t.invocation.intOperand = s.invocation.intOperand := by
  obtain ⟨_, _, _, rfl⟩ := h
  rfl

end Scene.Restacked

/-! ## Slots -/

namespace Slots

variable {α : Type}

theorem get_set_self (s : Slots α) (slot : Slot) (a : Option α) : (s.set slot a).get slot = a := by
  cases slot <;> rfl

theorem get_set_of_ne (s : Slots α) {slot slot' : Slot} (a : Option α) (other : slot' ≠ slot) :
    (s.set slot a).get slot' = s.get slot' := by
  cases slot <;> cases slot' <;> first | rfl | exact absurd rfl other

end Slots

/-! ## Checks of permissions -/

/-- What a permission is for. -/
inductive Permission where
  | player
  | protection
  | npc
  | loc
  | obj
  deriving DecidableEq

/-- The permission for a slot. -/
def Permission.pointer : Permission → Slot → Pointers
  | player, slot => .player slot
  | protection, slot => .protectedAccess slot
  | npc, slot => .npc slot
  | loc, slot => .loc slot
  | obj, slot => .obj slot

/-- Whether the slot that a permission is for is bound. -/
def Invocation.bound (i : Invocation) : Permission → Slot → Bool
  | .player, slot | .protection, slot => (i.players.get slot).isSome
  | .npc, slot => (i.npcs.get slot).isSome
  | .loc, slot => (i.locs.get slot).isSome
  | .obj, slot => (i.objs.get slot).isSome

/-- The check that the fault tells of fails: the permission is not granted, or it is granted and nothing is
    bound. -/
def Invocation.Denies (i : Invocation) (f : Fault) : Prop :=
  ∃ (permission : Permission) (slot : Slot),
    f = .notGranted (permission.pointer slot) ∧
      i.pointers.includes (permission.pointer slot) = false ∨
    f = .notBound (permission.pointer slot) ∧
      i.pointers.includes (permission.pointer slot) ∧ i.bound permission slot = false

theorem Scene.Restacked.denies {s t : Scene} (h : s.Restacked t) {f : Fault} :
    t.invocation.Denies f ↔ s.invocation.Denies f := by
  obtain ⟨_, _, _, rfl⟩ := h
  exact Iff.rfl

/-! ## Failures -/

/-- How an instruction that starts in `s` fails: at most stacks and log have changed, it is not the budget
    that it complains of, and if it is a permission, then the check fails in `s`. -/
structure Scene.Failed (s : Scene) (f : Fault) (t : Scene) : Prop where
  restacked : s.Restacked t
  unspent : f.kind ≠ .instructionBudgetExceeded
  denied : f.kind = .pointerMissing → s.invocation.Denies f

namespace Scene.Failed

theorem of_ordinary (s : Scene) {f : Fault} (h : f.kind.isOrdinary) : s.Failed f s where
  restacked := .refl s
  unspent := FaultKind.ne_budget_of_isOrdinary h
  denied missing := by
    rw [missing] at h
    nomatch h

theorem after {s t u : Scene} {f : Fault} (h : s.Restacked t) (h' : t.Failed f u) : s.Failed f u :=
  ⟨h.trans h'.restacked, h'.unspent, fun missing => h.denies.1 (h'.denied missing)⟩

end Scene.Failed

/-! ## Calls and returns -/

namespace Invocation

variable {i j : Invocation}

/-- A call that is not too deep puts a frame on the others. -/
theorem call_eq_ok {callee : Script} {args : List Value} (h : i.call callee args = .ok j) :
    i.frames.length < maxFrames ∧ j = { i with
      script := callee
      pc := -1
      intLocals := startInts callee args
      stringLocals := startStrings callee args
      frames := ⟨i.script, i.pc, i.intLocals, i.stringLocals⟩ :: i.frames } := by
  unfold call at h
  split at h
  · nomatch h
  next room =>
    cases h
    exact ⟨Nat.lt_of_not_le room, rfl⟩

/-- A return takes up the innermost frame. -/
theorem leave?_eq_some (h : i.leave? = some j) : ∃ f frames, i.frames = f :: frames ∧
    j = { i with
      script := f.script, pc := f.pc, intLocals := f.intLocals, stringLocals := f.stringLocals,
      frames } := by
  unfold leave? at h
  split at h
  · nomatch h
  next f frames stack =>
    cases h
    exact ⟨f, frames, stack, rfl⟩

end Invocation

/-! ## Writes to the world -/

/-- One write: to the entry of a player who is there, or else to npcs, locs and objs. -/
inductive World.Writes (w : World) : Option Int32 → World → Prop where
  | player {pid : Int32} {p : Player} (there : w.players.get? pid = some p) (p' : Player) :
      w.Writes (some pid) { w with players := w.players.insert pid p' }
  | others (npcs : SortedMap Int32 Npc) (locs : List Loc) (objs : List Obj) :
      w.Writes none { w with npcs, locs, objs }

namespace World

variable {w w' : World} {pid nid : Int32}

theorem findPlayer_eq_ok {p : Player} : w.findPlayer pid = .ok p ↔ w.players.get? pid = some p := by
  unfold findPlayer
  cases w.players.get? pid with
  | none => constructor <;> intro h <;> cases h
  | some q => constructor <;> intro h <;> cases h <;> rfl

/-- A change of a player replaces the entry of one who is there. -/
theorem updatePlayer_eq_ok {f : Player → Except Fault Player} : w.updatePlayer pid f = .ok w' ↔
    ∃ p p', w.players.get? pid = some p ∧ f p = .ok p' ∧
      w' = { w with players := w.players.insert pid p' } := by
  constructor
  · intro h
    obtain ⟨p, found, h⟩ := Except.bind_eq_ok.1 h
    obtain ⟨p', changed, h⟩ := Except.bind_eq_ok.1 h
    exact ⟨p, p', findPlayer_eq_ok.1 found, changed, (Except.ok.inj h).symm⟩
  · rintro ⟨p, p', there, changed, rfl⟩
    exact Except.bind_eq_ok.2 ⟨p, findPlayer_eq_ok.2 there, Except.bind_eq_ok.2 ⟨p', changed, rfl⟩⟩

theorem playerEvent_eq_ok {e : WorldEvent} (h : w.playerEvent pid e = .ok w') : w' = w.record e := by
  obtain ⟨_, _, h⟩ := Except.bind_eq_ok.1 h
  exact (Except.ok.inj h).symm

theorem npcEvent_eq_ok {e : WorldEvent} (h : w.npcEvent nid e = .ok w') : w' = w.record e := by
  obtain ⟨_, _, h⟩ := Except.bind_eq_ok.1 h
  exact (Except.ok.inj h).symm

theorem updatePlayer_writes {f : Player → Except Fault Player} (h : w.updatePlayer pid f = .ok w') :
    w.Writes (some pid) w' := by
  obtain ⟨p, p', there, -, rfl⟩ := updatePlayer_eq_ok.1 h
  exact .player there p'

theorem updateNpc_writes {f : Npc → Npc} (h : w.updateNpc nid f = .ok w') : w.Writes none w' := by
  obtain ⟨n, -, h⟩ := Except.bind_eq_ok.1 h
  cases h
  exact .others (w.npcs.insert nid (f n)) w.locs w.objs

end World

/-- A change of the world that is made is one write, with at most one event behind it. -/
theorem WorldCall.perform_writes {call : WorldCall} {w w' : World} (h : call.perform w = .ok w') :
    ∃ v, w.Writes call.changedPlayer? v ∧ (w' = v ∨ ∃ e, w' = v.record e) := by
  cases call with
  | message | playerAnim | playerSay | queuePlayerScript =>
    exact ⟨w, .others w.npcs w.locs w.objs, .inr ⟨_, World.playerEvent_eq_ok h⟩⟩
  | npcAnim | npcSay | npcSpotanim | queueNpcScript =>
    exact ⟨w, .others w.npcs w.locs w.objs, .inr ⟨_, World.npcEvent_eq_ok h⟩⟩
  | setVarp | setItemSlots => exact ⟨w', World.updatePlayer_writes h, .inl rfl⟩
  | setVarn => exact ⟨w', World.updateNpc_writes h, .inl rfl⟩
  | giveXp | teleport =>
    obtain ⟨v, updated, h⟩ := Except.bind_eq_ok.1 h
    cases h
    exact ⟨v, World.updatePlayer_writes updated, .inr ⟨_, rfl⟩⟩
  | npcDamage | npcSetTimer =>
    obtain ⟨v, updated, h⟩ := Except.bind_eq_ok.1 h
    cases h
    exact ⟨v, World.updateNpc_writes updated, .inr ⟨_, rfl⟩⟩
  | npcRemove nid =>
    obtain ⟨_, _, h⟩ := Except.bind_eq_ok.1 h
    cases h
    exact ⟨_, .others (w.npcs.erase nid) w.locs w.objs, .inr ⟨_, rfl⟩⟩
  | addLoc loc =>
    cases h
    exact ⟨_, .others w.npcs (w.locs ++ [loc]) w.objs, .inr ⟨_, rfl⟩⟩
  | removeLoc loc =>
    change (if _ then _ else _) = _ at h
    split at h <;> cases h
    exact ⟨_, .others w.npcs (w.locs.erase loc) w.objs, .inr ⟨_, rfl⟩⟩
  | addObj obj =>
    cases h
    exact ⟨_, .others w.npcs w.locs (w.objs ++ [obj]), .inr ⟨_, rfl⟩⟩
  | removeObj obj =>
    change (if _ then _ else _) = _ at h
    split at h <;> cases h
    exact ⟨_, .others w.npcs w.locs (w.objs.erase obj), .inr ⟨_, rfl⟩⟩

/-! ## Permission to change a player -/

/-- The invocation has protected access to the player: the player is bound in a slot for which it is
    granted. -/
def Invocation.Protects (i : Invocation) (pid : Int32) : Prop :=
  ∃ slot p, i.pointers.includes (.protectedAccess slot) ∧ i.players.get slot = some p ∧ p.pid = pid

theorem Scene.Restacked.protects {s t : Scene} (h : s.Restacked t) {pid : Int32} :
    t.invocation.Protects pid ↔ s.invocation.Protects pid := by
  obtain ⟨_, _, _, rfl⟩ := h
  exact Iff.rfl

/-! ## Changes -/

/-- `Change env o s t`: the one thing beyond stacks and log that the instruction `o` does to `s`. -/
inductive Change (env : Env) (o : Opcode) : Scene → Scene → Prop where
  | nothing (s : Scene) : Change env o s s
  | branch (s : Scene) {offset pc : Int32} :
      Arithmetic.checkedAdd? s.invocation.pc offset = some pc →
      Change env o s { s with invocation := { s.invocation with pc } }
  | intLocal (s : Scene) (index : Nat) (value : Int32) :
      Change env o s { s with invocation := { s.invocation with
        intLocals := s.invocation.intLocals.set index value } }
  | stringLocal (s : Scene) (index : Nat) (value : String) :
      Change env o s { s with invocation := { s.invocation with
        stringLocals := s.invocation.stringLocals.set index value } }
  | call (s : Scene) {callee : Script} (args : List Value) {i : Invocation} :
      o = .gosub ∨ o = .gosubWithParams →
      env.library.get? s.invocation.intOperand = some callee →
      s.invocation.call callee args = .ok i →
      Change env o s { s with invocation := i }
  | jump (s : Scene) {target : Script} (args : List Value) :
      o = .jump ∨ o = .jumpWithParams →
      env.library.get? s.invocation.intOperand = some target →
      Change env o s { s with invocation := s.invocation.jump target args }
  | leave (s : Scene) {i : Invocation} :
      o = .leave → s.invocation.leave? = some i → Change env o s { s with invocation := i }
  | finish (s : Scene) :
      o = .leave → s.invocation.frames = [] →
      Change env o s { s with invocation := { s.invocation with execution := .finished } }
  | wait (s : Scene) (execution : Execution) (delay : Option Int32) :
      execution.isSuspended → delay.isSome = execution.isTimedWait →
      (execution.isPlayerWait → ∃ pid, s.invocation.Protects pid) →
      o ∈ Opcode.waiting →
      Change env o s { s with invocation := s.invocation.suspend execution delay }
  | search (s : Scene) (query : DbQuery) :
      o = .dbFind ∨ o = .dbListall ∨ o = .dbFindnext →
      Change env o s { s with invocation := { s.invocation with query } }
  | found (s : Scene) (slot : Slot) (npc : NpcRef) :
      o = .npcFinduid →
      Change env o s { s with invocation :=
        { s.invocation with npcs := s.invocation.npcs.set slot (some npc) }.grant (.npc slot) }
  | lost (s : Scene) (slot : Slot) :
      o = .npcFinduid →
      Change env o s { s with invocation :=
        { s.invocation with npcs := s.invocation.npcs.set slot none }.revoke (.npc slot) }
  | world (s : Scene) (call : WorldCall) {w : World} :
      call.perform s.world = .ok w →
      (∀ pid, call.changedPlayer? = some pid → s.invocation.Protects pid) →
      o ∈ call.instructions →
      Change env o s { s with world := w }
  | random (s : Scene) (bound : Int32) :
      Change env o s { s with world := (s.world.random bound).2 }

/-- `Effect env o s u`: up to stacks and log before and after it, `u` comes from `s` by one change. -/
def Effect (env : Env) (o : Opcode) (s u : Scene) : Prop :=
  ∃ t t', s.Restacked t ∧ Change env o t t' ∧ t'.Restacked u

namespace Effect

variable {env : Env} {o : Opcode} {s t u : Scene}

theorem of_change (h : Change env o s t) : Effect env o s t := ⟨s, t, .refl s, h, .refl t⟩

theorem of_restacked (h : s.Restacked t) : Effect env o s t := ⟨t, t, h, .nothing t, .refl t⟩

theorem after (h : s.Restacked t) (h' : Effect env o t u) : Effect env o s u := by
  obtain ⟨t₁, t₂, before, change, rest⟩ := h'
  exact ⟨t₁, t₂, h.trans before, change, rest⟩

theorem before (h : Effect env o s t) (h' : t.Restacked u) : Effect env o s u := by
  obtain ⟨t₁, t₂, before, change, rest⟩ := h
  exact ⟨t₁, t₂, before, change, rest.trans h'⟩

end Effect

/-! ## Which instructions stop an invocation -/

/-- A change leaves the state and the delay, unless it is a return that ends the script or a wait. -/
theorem Change.stops {env : Env} {o : Opcode} {s t : Scene} (c : Change env o s t) :
    (t.invocation.execution = s.invocation.execution ∧ t.invocation.delay = s.invocation.delay) ∨
    (o = .leave ∧ t.invocation.execution = .finished ∧ t.invocation.delay = s.invocation.delay) ∨
    (o ∈ Opcode.waiting ∧ t.invocation.execution.isSuspended) := by
  cases c with
  | call args _ _ entered =>
    obtain ⟨-, rfl⟩ := Invocation.call_eq_ok entered
    exact .inl ⟨rfl, rfl⟩
  | leave _ back =>
    obtain ⟨_, _, -, rfl⟩ := Invocation.leave?_eq_some back
    exact .inl ⟨rfl, rfl⟩
  | finish ho => exact .inr (.inl ⟨ho, rfl, rfl⟩)
  | wait execution delay suspended _ _ ho => exact .inr (.inr ⟨ho, suspended⟩)
  | nothing | branch | intLocal | stringLocal | jump | search | found | lost | world | random =>
    exact .inl ⟨rfl, rfl⟩

theorem Effect.stops {env : Env} {o : Opcode} {s t : Scene} (h : Effect env o s t) :
    (t.invocation.execution = s.invocation.execution ∧ t.invocation.delay = s.invocation.delay) ∨
    (o = .leave ∧ t.invocation.execution = .finished ∧ t.invocation.delay = s.invocation.delay) ∨
    (o ∈ Opcode.waiting ∧ t.invocation.execution.isSuspended) := by
  obtain ⟨_, _, before, change, after⟩ := h
  obtain ⟨_, _, _, rfl⟩ := before
  obtain ⟨_, _, _, rfl⟩ := after
  exact change.stops

/-! ## How an operation ends -/

namespace Op

variable {α β : Type} {x : Op α} {env : Env} {s : Scene}

/-- Run on `s`, the operation gives a result and a scene of `Q`, or fails with a fault and a scene of
    `R`. -/
def Ends (x : Op α) (env : Env) (s : Scene) (Q : α → Scene → Prop) (R : Fault → Scene → Prop) :
    Prop :=
  match x env s with
  | .ok a t => Q a t
  | .error f t => R f t

theorem Ends.of_ok {Q : α → Scene → Prop} {R : Fault → Scene → Prop} (h : Ends x env s Q R) {a : α}
    {t : Scene} (run : x env s = .ok a t) : Q a t := by
  unfold Ends at h
  rw [run] at h
  exact h

theorem Ends.of_error {Q : α → Scene → Prop} {R : Fault → Scene → Prop} (h : Ends x env s Q R)
    {f : Fault} {t : Scene} (run : x env s = .error f t) : R f t := by
  unfold Ends at h
  rw [run] at h
  exact h

theorem Ends.mono {Q Q' : α → Scene → Prop} {R R' : Fault → Scene → Prop} (h : Ends x env s Q R)
    (hQ : ∀ a t, Q a t → Q' a t) (hR : ∀ f t, R f t → R' f t) : Ends x env s Q' R' := by
  unfold Ends
  cases run : x env s with
  | ok a t => exact hQ a t (h.of_ok run)
  | error f t => exact hR f t (h.of_error run)

theorem bind_apply (x : Op α) (k : α → Op β) (env : Env) (s : Scene) :
    (x >>= k) env s = match x env s with
      | .ok a t => k a env t
      | .error f t => .error f t := by
  show EStateM.bind (x env) (fun a => k a env) s = _
  unfold EStateM.bind
  cases x env s <;> rfl

theorem Ends.bind {Q : α → Scene → Prop} {Q' : β → Scene → Prop} {R : Fault → Scene → Prop}
    {k : α → Op β} (hx : Ends x env s Q R) (hk : ∀ a t, Q a t → Ends (k a) env t Q' R) :
    Ends (x >>= k) env s Q' R := by
  unfold Ends
  rw [bind_apply]
  cases run : x env s with
  | ok a t => exact hk a t (hx.of_ok run)
  | error f t => exact hx.of_error run

/-! ## The parts of handlers -/

/-- Taking from a stack leaves everything else. -/
theorem takeInts_ends (take : List Int32 → Option (α × List Int32)) (env : Env) (s : Scene) :
    Ends (takeInts take) env s (fun _ => s.Restacked) s.Failed := by
  unfold Ends takeInts
  cases take s.invocation.ints with
  | none => exact ⟨.refl s, nofun, nofun⟩
  | some taken => exact .ints s taken.2

theorem takeStrings_ends (take : List String → Option (α × List String)) (env : Env) (s : Scene) :
    Ends (takeStrings take) env s (fun _ => s.Restacked) s.Failed := by
  unfold Ends takeStrings
  cases take s.invocation.strings with
  | none => exact ⟨.refl s, nofun, nofun⟩
  | some taken => exact .strings s taken.2

/-- A check looks at the permission first and then at the slot. -/
theorem require_apply (pointer : Pointers) (slot : Invocation → Option α) (env : Env) (s : Scene) :
    require pointer slot env s =
      if s.invocation.pointers.includes pointer then
        match slot s.invocation with
        | some a => .ok a s
        | none => .error (.notBound pointer) s
      else .error (.notGranted pointer) s := by
  unfold require
  rw [bind_apply]
  show (if s.invocation.pointers.includes pointer then ask slot >>= orFail (.notBound pointer)
    else fail (.notGranted pointer) : Op α) env s = _
  split
  · rw [bind_apply]
    show orFail _ (slot s.invocation) env s = _
    cases slot s.invocation <;> rfl
  · rfl

section

variable (permission : Permission) (which : Slot) {slot : Invocation → Option α}

/-- A bound entity is found where the permission is granted, and the scene stays. -/
theorem require_ends (same : ∀ i, (slot i).isSome = i.bound permission which) (env : Env) (s : Scene) :
    Ends (require (permission.pointer which) slot) env s
      (fun a t => t = s ∧ s.invocation.pointers.includes (permission.pointer which) ∧
        slot s.invocation = some a)
      s.Failed := by
  unfold Ends
  rw [require_apply]
  by_cases granted : s.invocation.pointers.includes (permission.pointer which)
  · rw [if_pos granted]
    cases bound : slot s.invocation with
    | some entity => exact ⟨rfl, granted, rfl⟩
    | none =>
      have free : s.invocation.bound permission which = false := by
        rw [← same, bound]
        rfl
      exact ⟨.refl s, nofun, fun _ => ⟨permission, which, .inr ⟨rfl, granted, free⟩⟩⟩
  · rw [if_neg granted]
    exact ⟨.refl s, nofun, fun _ => ⟨permission, which, .inl ⟨rfl, Bool.eq_false_iff.2 granted⟩⟩⟩

theorem require_quiet_ends (same : ∀ i, (slot i).isSome = i.bound permission which) (env : Env)
    (s : Scene) :
    Ends (require (permission.pointer which) slot) env s (fun _ => s.Restacked) s.Failed :=
  (require_ends permission which same env s).mono (fun _ _ h => h.1 ▸ .refl s) fun _ _ h => h

end

theorem observe_ends {f : World → Except Fault α} (hf : ∀ w, Ordinary (f w)) (env : Env)
    (s : Scene) : Ends (observe f) env s (fun a t => t = s ∧ f s.world = .ok a) s.Failed := by
  unfold Ends observe
  cases run : f s.world with
  | ok a => exact ⟨rfl, rfl⟩
  | error e => exact .of_ordinary s (hf s.world e run)

theorem fromLibrary_ends {f : Library → Except Fault α} (hf : ∀ l, Ordinary (f l)) (env : Env)
    (s : Scene) :
    Ends (fromLibrary f) env s (fun a t => t = s ∧ f env.library = .ok a) s.Failed := by
  unfold Ends fromLibrary
  cases run : f env.library with
  | ok a => exact ⟨rfl, rfl⟩
  | error e => exact .of_ordinary s (hf env.library e run)

theorem fromConfig_ends {f : Config → Except Fault α} (hf : ∀ c, Ordinary (f c)) (env : Env)
    (s : Scene) :
    Ends (fromConfig f) env s (fun a t => t = s ∧ f env.config = .ok a) s.Failed := by
  unfold Ends fromConfig
  cases run : f env.config with
  | ok a => exact ⟨rfl, rfl⟩
  | error e => exact .of_ordinary s (hf env.config e run)

/-- A change that may be refused. -/
theorem tryUpdate_ends {o : Opcode} {f : Invocation → Except Fault Invocation}
    (done : ∀ i, f s.invocation = .ok i → Effect env o s { s with invocation := i })
    (refused : ∀ e, f s.invocation = .error e →
      e.kind ≠ .instructionBudgetExceeded ∧ e.kind ≠ .pointerMissing) :
    Ends (tryUpdate f) env s (fun _ => Effect env o s) s.Failed := by
  unfold Ends tryUpdate
  cases run : f s.invocation with
  | ok i => exact done i run
  | error e =>
    obtain ⟨unspent, unchecked⟩ := refused e run
    exact ⟨.refl s, unspent, fun missing => absurd missing unchecked⟩

/-- A quiet operation restacks, whether it fails or not. -/
theorem Quiet.ends (hx : Quiet x) (env : Env) :
    ∀ s : Scene, Ends x env s (fun _ => s.Restacked) s.Failed := by
  induction hx with
  | pure a => exact .refl
  | bind _ _ ihx ihk =>
    intro s
    refine (ihx s).bind fun a t ht => ?_
    exact (ihk a t).mono (fun _ _ hu => ht.trans hu) fun _ _ hu => hu.after ht
  | fail h => exact fun s => .of_ordinary s h
  | ask h => exact .refl
  | player slot => exact require_quiet_ends .player slot (fun _ => rfl) env
  | protectedPlayer slot => exact require_quiet_ends .protection slot (fun _ => rfl) env
  | npc slot => exact require_quiet_ends .npc slot (fun _ => rfl) env
  | loc slot => exact require_quiet_ends .loc slot (fun _ => rfl) env
  | obj slot => exact require_quiet_ends .obj slot (fun _ => rfl) env
  | observe hf _ =>
    exact fun s => (observe_ends hf env s).mono (fun _ _ h => h.1 ▸ .refl s) fun _ _ h => h
  | fromLibrary hf =>
    exact fun s => (fromLibrary_ends hf env s).mono (fun _ _ h => h.1 ▸ .refl s) fun _ _ h => h
  | fromConfig hf =>
    exact fun s => (fromConfig_ends hf env s).mono (fun _ _ h => h.1 ▸ .refl s) fun _ _ h => h
  | note level text => exact fun s => .note s level text
  | popInt => exact takeInts_ends _ env
  | popInt2 => exact takeInts_ends _ env
  | popInt3 => exact takeInts_ends _ env
  | popInt4 => exact takeInts_ends _ env
  | popInt5 => exact takeInts_ends _ env
  | popInts n => exact takeInts_ends _ env
  | popString => exact takeStrings_ends _ env
  | popStrings n => exact takeStrings_ends _ env
  | pushInt n => exact fun s => .ints s _
  | pushString t => exact fun s => .strings s _

/-- After a quiet operation the rest of the handler has the effect. -/
theorem Quiet.thenEffect {o : Opcode} (hx : Quiet x) {k : α → Handler}
    (hk : ∀ a t, s.Restacked t → Ends (k a) env t (fun _ => Effect env o t) t.Failed) :
    Ends (x >>= k) env s (fun _ => Effect env o s) s.Failed := by
  refine (hx.ends env s).bind fun a t ht => ?_
  exact (hk a t ht).mono (fun _ _ hu => hu.after ht) fun _ _ hu => hu.after ht

/-! ## Handlers with a shape of their own -/

/-- The script that the operand names is in the library. -/
theorem callee_ends (env : Env) (s : Scene) :
    Ends Language.callee env s
      (fun c t => t = s ∧ env.library.get? s.invocation.intOperand = some c) s.Failed := by
  refine Ends.bind (Q := fun id t => t = s ∧ id = s.invocation.intOperand) ⟨rfl, rfl⟩ ?_
  rintro id t ⟨rfl, rfl⟩
  refine (fromLibrary_ends (fun l => l.require_ordinary _) env t).mono ?_ fun _ _ h => h
  intro c u h
  exact ⟨h.1, Library.require_eq_ok.1 h.2⟩

theorem popArguments_quiet (c : Script) : Quiet (Language.popArguments c) :=
  .bind (.popStrings _) fun _ => .bind (.popInts _) fun _ => .pure _

/-- Entering a script is one change; that the depth is remarked on comes after it. -/
theorem call_ends {o : Opcode} (callee : Script) (args : List Value) (env : Env) (s : Scene)
    (ho : o = .gosub ∨ o = .gosubWithParams)
    (found : env.library.get? s.invocation.intOperand = some callee) :
    Ends (call callee args) env s (fun _ => Effect env o s) s.Failed := by
  have entering : Ends (tryUpdate (·.call callee args)) env s (fun _ => Effect env o s) s.Failed := by
    refine tryUpdate_ends (fun i entered => .of_change (.call s args ho found entered)) fun e h => ?_
    unfold Invocation.call at h
    split at h
    · cases h
      exact ⟨nofun, nofun⟩
    · nomatch h
  exact entering.bind fun _ t ht => ht.before (.note t _ _)

theorem jump_ends {o : Opcode} (target : Script) (args : List Value) (env : Env) (s : Scene)
    (ho : o = .jump ∨ o = .jumpWithParams)
    (found : env.library.get? s.invocation.intOperand = some target) :
    Ends (update (·.jump target args)) env s (fun _ => Effect env o s) s.Failed :=
  Effect.of_change (.jump s args ho found)

theorem leave_ends (env : Env) (s : Scene) :
    Ends Language.leave env s (fun _ => Effect env .leave s) s.Failed := by
  unfold Ends Language.leave update
  dsimp only
  cases back : s.invocation.leave? with
  | some i => exact .of_change (.leave s rfl back)
  | none =>
    refine .of_change (.finish s rfl ?_)
    unfold Invocation.leave? at back
    split at back
    next none => exact none
    next => nomatch back

theorem branchBy_ends (o : Opcode) (offset : Int32) (env : Env) (s : Scene) :
    Ends (branchBy offset) env s (fun _ => Effect env o s) s.Failed := by
  refine tryUpdate_ends (fun i moved => ?_) fun e refused => ?_
  · split at moved
    next sum =>
      cases moved
      exact .of_change (.branch s sum)
    next => nomatch moved
  · split at refused
    next => nomatch refused
    next =>
      cases refused
      exact ⟨nofun, nofun⟩

theorem popIntLocal_ends (env : Env) (s : Scene) :
    Ends Language.popIntLocal env s (fun _ => Effect env .popIntLocal s) s.Failed := by
  refine Language.index_quiet.thenEffect fun index t _ => ?_
  refine Quiet.popInt.thenEffect fun value u _ => ?_
  refine tryUpdate_ends (fun i stored => ?_) fun e refused => ?_
  · split at stored
    · cases stored
      exact .of_change (.intLocal u index value)
    · nomatch stored
  · split at refused
    · nomatch refused
    · cases refused
      exact ⟨nofun, nofun⟩

theorem popStringLocal_ends (env : Env) (s : Scene) :
    Ends Language.popStringLocal env s (fun _ => Effect env .popStringLocal s) s.Failed := by
  refine Language.index_quiet.thenEffect fun index t _ => ?_
  refine Quiet.popString.thenEffect fun value u _ => ?_
  refine tryUpdate_ends (fun i stored => ?_) fun e refused => ?_
  · split at stored
    · cases stored
      exact .of_change (.stringLocal u index value)
    · nomatch stored
  · split at refused
    · nomatch refused
    · cases refused
      exact ⟨nofun, nofun⟩

theorem dbFindnext_ends (env : Env) (s : Scene) :
    Ends Database.dbFindnext env s (fun _ => Effect env .dbFindnext s) s.Failed := by
  refine Quiet.thenEffect (.ask fun i j h => congrArg (·.2.2.2.2.2) h) fun query t _ => ?_
  split
  · exact .of_ordinary t rfl
  · split
    · exact (Effect.of_change (.search t _ (.inr (.inr rfl)))).before (.ints _ _)
    · exact .of_restacked (.ints t _)

theorem resolve_quiet (uid : Int32) : Quiet (observe (Npc.resolve uid)) :=
  .observe (fun w => w.resolve_ordinary uid) fun _ _ => rfl

theorem npcFinduid_ends (env : Env) (s : Scene) :
    Ends Npc.npcFinduid env s (fun _ => Effect env .npcFinduid s) s.Failed := by
  refine Quiet.popInt.thenEffect fun uid t _ => ?_
  refine Quiet.selectedSlot.thenEffect fun slot u _ => ?_
  refine (resolve_quiet uid).thenEffect fun found v _ => ?_
  cases found with
  | some npc => exact (Effect.of_change (.found v slot npc rfl)).before (.ints _ _)
  | none =>
    refine (Effect.of_change (.lost v slot rfl)).before ?_
    exact ⟨_, _, _, rfl⟩

/-! ## All instructions -/

/-- What an instruction does, when it starts where the players of `g` may be changed. -/
theorem Instruction.ends {o : Opcode} {g : Int32 → Prop} {h : Handler} (hh : Instruction o g h)
    (env : Env) : ∀ s : Scene, (∀ pid, g pid → s.invocation.Protects pid) →
      Ends h env s (fun _ => Effect env o s) s.Failed := by
  induction hh with
  | quiet hq => exact fun s _ => (hq.ends env s).mono (fun _ _ => .of_restacked) fun _ _ h => h
  | bind hx _ ih =>
    intro s hg
    exact hx.thenEffect fun a t ht => ih a t fun pid h => ht.protects.2 (hg pid h)
  | withProtected slot _ ih =>
    intro s hg
    refine (require_ends .protection slot (fun _ => rfl) env s).bind ?_
    rintro p t ⟨rfl, granted, bound⟩
    refine ih p t fun pid h => ?_
    rcases h with rfl | h
    · exact ⟨slot, p, granted, bound, rfl⟩
    · exact hg pid h
  | credited _ _ ih =>
    intro s hg
    exact Ends.bind (Q := fun _ t => t = s) rfl fun p t ht => ht ▸ ih p s hg
  | isBound slots _ _ => exact fun s _ => .of_restacked (.ints s _)
  | branchBy offset => exact fun s _ => branchBy_ends _ offset env s
  | popIntLocal => exact fun s _ => popIntLocal_ends env s
  | popStringLocal => exact fun s _ => popStringLocal_ends env s
  | gosub =>
    intro s _
    refine (callee_ends env s).bind ?_
    rintro c t ⟨rfl, found⟩
    exact call_ends c [] env t (.inl rfl) found
  | gosubWithParams =>
    intro s _
    refine (callee_ends env s).bind ?_
    rintro c t ⟨rfl, found⟩
    refine (popArguments_quiet c).thenEffect fun args u hu => ?_
    exact call_ends c args env u (.inr rfl) (by rw [hu.intOperand]; exact found)
  | jump =>
    intro s _
    refine (callee_ends env s).bind ?_
    rintro c t ⟨rfl, found⟩
    exact jump_ends c [] env t (.inl rfl) found
  | jumpWithParams =>
    intro s _
    refine (callee_ends env s).bind ?_
    rintro c t ⟨rfl, found⟩
    refine (popArguments_quiet c).thenEffect fun args u hu => ?_
    exact jump_ends c args env u (.inr rfl) (by rw [hu.intOperand]; exact found)
  | leave => exact fun s _ => leave_ends env s
  | suspend execution delay waits timed players ho =>
    intro s hg
    refine .of_change (.wait s execution delay waits timed (fun h => ?_) ho)
    obtain ⟨pid, hp⟩ := players h
    exact ⟨pid, hg pid hp⟩
  | search query ho => exact fun s _ => .of_change (.search s query (ho.imp_right .inl))
  | dbFindnext => exact fun s _ => dbFindnext_ends env s
  | npcFinduid => exact fun s _ => npcFinduid_ends env s
  | random bound => exact fun s _ => (Effect.of_change (.random s bound)).before (.ints _ _)
  | effect call players ho =>
    intro s hg
    unfold Ends Op.effect
    cases done : call.perform s.world with
    | ok w => exact .of_change (.world s call done (fun pid h => hg pid (players pid h)) ho)
    | error f => exact .of_ordinary s (call.perform_ordinary s.world f done)

end Op

end TickScript
