import TickScript.Proofs.Inventories

/-
  What a slot is bound to does not show without a permission for the slot, save in one way.

  Most instructions reach an entity through a check, which looks at the permission before it looks at the
  slot.  So two scenes that differ only in what one slot is bound to are the same to them, as long as no
  permission for the slot is granted: they fail with the same fault or do the same to both scenes.  Two
  instructions also note a player to whom they credit what they do, and that one is the first player
  bound, with or without permission.  Where they succeed, the event that they log tells who it was.

    Scene.SameBut            the scenes differ at most in what one slot is bound to
    Invocation.Hides         no permission for the slot is granted
    Op.Ignores               the operation does not look at the slot at all
    Op.Overlooks             it goes the same way in both scenes if the slot is hidden
    Instruction.overlooks    every instruction does, but for the tests of what is bound and those that
                             credit a player
    credit_sameBut_iff       crediting shows the player if and only if it succeeds
-/

namespace TickScript

/-! ## Scenes that differ in one slot -/

/-- What the slots of an invocation are for. -/
inductive Category where
  | player
  | npc
  | loc
  | obj
  deriving DecidableEq

/-- The category of the slots that a permission is for. -/
def Permission.category : Permission → Category
  | player | protection => .player
  | npc => .npc
  | loc => .loc
  | obj => .obj

namespace Invocation

/-- The invocation with a slot emptied. -/
def cleared (c : Category) (k : Slot) (i : Invocation) : Invocation :=
  match c with
  | .player => { i with players := i.players.set k none }
  | .npc => { i with npcs := i.npcs.set k none }
  | .loc => { i with locs := i.locs.set k none }
  | .obj => { i with objs := i.objs.set k none }

/-- No permission for the slot is granted. -/
def Hides (c : Category) (k : Slot) (i : Invocation) : Prop :=
  ∀ permission : Permission, permission.category = c →
    i.pointers.includes (permission.pointer k) = false

/-- The player to whom an effect is credited, the first that is bound. -/
def credited (i : Invocation) : Option Int32 := i.players.first.map (·.pid)

end Invocation

/-- `s.SameBut c k t`: the scenes differ at most in what the slot is bound to. -/
structure Scene.SameBut (c : Category) (k : Slot) (s t : Scene) : Prop where
  invocation : t.invocation.cleared c k = s.invocation.cleared c k
  world : t.world = s.world
  log : t.log = s.log

/-- Two runs end the same, with the same result or the same fault, in scenes that differ at most in what
    the slot is bound to. -/
inductive EndsSameBut {α : Type} (c : Category) (k : Slot) :
    EStateM.Result Fault Scene α → EStateM.Result Fault Scene α → Prop where
  | ok {a : α} {s t : Scene} : s.SameBut c k t → EndsSameBut c k (.ok a s) (.ok a t)
  | error {f : Fault} {s t : Scene} : s.SameBut c k t → EndsSameBut c k (.error f s) (.error f t)

section

variable {α β : Type} {c : Category} {k : Slot} {s t : Scene}

namespace Scene.SameBut

/-- Whatever does not depend on the slot is the same. -/
theorem reads {f : Invocation → α} (same : s.SameBut c k t) (hf : ∀ i, f (i.cleared c k) = f i) :
    f t.invocation = f s.invocation := by
  rw [← hf t.invocation, same.invocation, hf]

/-- A change of the invocation that looks at the slot at most to write it. -/
theorem update {f : Invocation → Invocation} (same : s.SameBut c k t)
    (hf : ∀ i, (f (i.cleared c k)).cleared c k = (f i).cleared c k) :
    SameBut c k { s with invocation := f s.invocation } { t with invocation := f t.invocation } where
  invocation := by
    show (f t.invocation).cleared c k = (f s.invocation).cleared c k
    rw [← hf t.invocation, same.invocation, hf]
  world := same.world
  log := same.log

end Scene.SameBut

/-! ## Operations that do not look at the slot -/

namespace Op

variable {x : Op α}

/-- The operation does not look at the slot. -/
def Ignores (c : Category) (k : Slot) (x : Op α) : Prop :=
  ∀ (env : Env) (s t : Scene), s.SameBut c k t → EndsSameBut c k (x env s) (x env t)

namespace Ignores

theorem pure (a : α) : Ignores c k (Pure.pure a : Op α) := fun _ _ _ same => .ok same

theorem fail (f : Fault) : Ignores c k (Op.fail f : Op α) := fun _ _ _ same => .error same

theorem bind {y : α → Op β} (hx : Ignores c k x) (hy : ∀ a, Ignores c k (y a)) :
    Ignores c k (x >>= y) := by
  intro env s t same
  have first := hx env s t same
  rw [bind_apply, bind_apply]
  generalize x env s = left, x env t = right at first
  cases first with
  | ok after => exact hy _ env _ _ after
  | error after => exact .error after

theorem ask {f : Invocation → α} (hf : ∀ i, f (i.cleared c k) = f i) : Ignores c k (Op.ask f) := by
  intro env s t same
  unfold Op.ask
  rw [same.reads hf]
  exact .ok same

theorem update {f : Invocation → Invocation}
    (hf : ∀ i, (f (i.cleared c k)).cleared c k = (f i).cleared c k) : Ignores c k (Op.update f) :=
  fun _ _ _ same => .ok (same.update hf)

/-- A change that may be refused, and whether it is does not depend on the slot. -/
theorem tryUpdate {f : Invocation → Except Fault Invocation}
    (hf : ∀ i, f (i.cleared c k) = (f i).map (Invocation.cleared c k)) :
    Ignores c k (Op.tryUpdate f) := by
  intro env s t same
  have both := hf t.invocation
  rw [same.invocation, hf s.invocation] at both
  unfold Op.tryUpdate
  cases here : f s.invocation with
  | ok i =>
    cases there : f t.invocation with
    | ok j =>
      rw [here, there] at both
      exact .ok ⟨(Except.ok.inj both).symm, same.world, same.log⟩
    | error e =>
      rw [here, there] at both
      nomatch both
  | error e =>
    cases there : f t.invocation with
    | ok j =>
      rw [here, there] at both
      nomatch both
    | error e' =>
      rw [here, there] at both
      cases both
      exact .error same

theorem takeInts (take : List Int32 → Option (α × List Int32)) : Ignores c k (Op.takeInts take) := by
  intro env s t same
  have stack : t.invocation.ints = s.invocation.ints := same.reads fun _ => by cases c <;> rfl
  unfold Op.takeInts
  rw [stack]
  cases take s.invocation.ints with
  | none => exact .error same
  | some taken =>
    exact .ok (same.update (f := fun i => { i with ints := taken.2 }) fun _ => by
      cases c <;> cases k <;> rfl)

theorem takeStrings (take : List String → Option (α × List String)) :
    Ignores c k (Op.takeStrings take) := by
  intro env s t same
  have stack : t.invocation.strings = s.invocation.strings := same.reads fun _ => by cases c <;> rfl
  unfold Op.takeStrings
  rw [stack]
  cases take s.invocation.strings with
  | none => exact .error same
  | some taken =>
    exact .ok (same.update (f := fun i => { i with strings := taken.2 }) fun _ => by
      cases c <;> cases k <;> rfl)

theorem observe (f : World → Except Fault α) : Ignores c k (Op.observe f) := by
  intro env s t same
  unfold Op.observe
  rw [same.world]
  cases f s.world with
  | ok a => exact .ok same
  | error e => exact .error same

theorem fromLibrary (f : Library → Except Fault α) : Ignores c k (Op.fromLibrary f) := by
  intro env s t same
  unfold Op.fromLibrary
  cases f env.library with
  | ok a => exact .ok same
  | error e => exact .error same

theorem fromConfig (f : Config → Except Fault α) : Ignores c k (Op.fromConfig f) := by
  intro env s t same
  unfold Op.fromConfig
  cases f env.config with
  | ok a => exact .ok same
  | error e => exact .error same

theorem note (level : LogLevel) (text : String) : Ignores c k (Op.note level text) :=
  fun _ _ _ same => .ok ⟨same.invocation, same.world, congrArg (List.cons _) same.log⟩

theorem random (bound : Int32) : Ignores c k (Op.random bound) := by
  intro env s t same
  unfold Op.random
  rw [same.world]
  exact .ok ⟨same.invocation, rfl, same.log⟩

theorem effect (f : World → Except Fault World) : Ignores c k (Op.effect f) := by
  intro env s t same
  unfold Op.effect
  rw [same.world]
  cases f s.world with
  | ok w => exact .ok ⟨same.invocation, rfl, same.log⟩
  | error e => exact .error same

theorem pushInt (n : Int32) : Ignores c k (Op.pushInt n) :=
  .update fun _ => by cases c <;> cases k <;> rfl

theorem pushString (t : String) : Ignores c k (Op.pushString t) :=
  .update fun _ => by cases c <;> cases k <;> rfl

end Ignores

/-! ## Operations that ask for permission first -/

/-- As long as no permission for the slot is granted, what it is bound to makes no difference to the
    operation. -/
def Overlooks (c : Category) (k : Slot) (x : Op α) : Prop :=
  ∀ (env : Env) (s t : Scene), s.invocation.Hides c k → s.SameBut c k t →
    EndsSameBut c k (x env s) (x env t)

theorem Ignores.overlooks (h : Ignores c k x) : Overlooks c k x := fun env s t _ => h env s t

/-- A check fails in both scenes where the permission is for the hidden slot, and any other looks at another
    slot. -/
theorem require_overlooks (permission : Permission) (which : Slot) {slot : Invocation → Option α}
    (other : ¬ (permission.category = c ∧ which = k) → ∀ i, slot (i.cleared c k) = slot i) :
    Overlooks c k (require (permission.pointer which) slot) := by
  intro env s t hidden same
  have pointers : t.invocation.pointers = s.invocation.pointers :=
    same.reads fun _ => by cases c <;> rfl
  rw [require_apply, require_apply, pointers]
  by_cases this : permission.category = c ∧ which = k
  · obtain ⟨about, rfl⟩ := this
    rw [hidden permission about]
    exact .error same
  · rw [same.reads (other this)]
    split
    · cases slot s.invocation with
      | some a => exact .ok same
      | none => exact .error same
    · exact .error same

/-- The rest of a handler runs where a quiet part has left the permissions as they were. -/
theorem Quiet.thenOverlooks {y : α → Op β} (quiet : Quiet x) (hx : Overlooks c k x)
    (hy : ∀ a, Overlooks c k (y a)) : Overlooks c k (x >>= y) := by
  intro env s t hidden same
  have first := hx env s t hidden same
  rw [bind_apply, bind_apply]
  cases run : x env s with
  | ok a u =>
    have restacked : s.Restacked u := (quiet.ends env s).of_ok run
    have hidden' : u.invocation.Hides c k := by
      obtain ⟨_, _, _, rfl⟩ := restacked
      exact hidden
    rw [run] at first
    generalize x env t = there at first
    cases first with
    | ok after => exact hy a env _ _ hidden' after
  | error f u =>
    rw [run] at first
    generalize x env t = there at first
    cases first with
    | error after => exact .error after

theorem Quiet.overlooks (quiet : Quiet x) : Overlooks c k x := by
  induction quiet with
  | pure a => exact (Ignores.pure a).overlooks
  | bind quiet _ ihx ihk => exact quiet.thenOverlooks ihx ihk
  | fail _ => exact (Ignores.fail _).overlooks
  | ask h => exact (Ignores.ask fun i => h (i.cleared c k) i (by cases c <;> rfl)).overlooks
  | player slot =>
    refine require_overlooks .player slot fun other i => ?_
    cases c with
    | player => exact Slots.get_set_of_ne _ _ fun h => other ⟨rfl, h⟩
    | npc | loc | obj => rfl
  | protectedPlayer slot =>
    refine require_overlooks .protection slot fun other i => ?_
    cases c with
    | player => exact Slots.get_set_of_ne _ _ fun h => other ⟨rfl, h⟩
    | npc | loc | obj => rfl
  | npc slot =>
    refine require_overlooks .npc slot fun other i => ?_
    cases c with
    | npc => exact Slots.get_set_of_ne _ _ fun h => other ⟨rfl, h⟩
    | player | loc | obj => rfl
  | loc slot =>
    refine require_overlooks .loc slot fun other i => ?_
    cases c with
    | loc => exact Slots.get_set_of_ne _ _ fun h => other ⟨rfl, h⟩
    | player | npc | obj => rfl
  | obj slot =>
    refine require_overlooks .obj slot fun other i => ?_
    cases c with
    | obj => exact Slots.get_set_of_ne _ _ fun h => other ⟨rfl, h⟩
    | player | npc | loc => rfl
  | observe _ _ => exact (Ignores.observe _).overlooks
  | fromLibrary _ => exact (Ignores.fromLibrary _).overlooks
  | fromConfig _ => exact (Ignores.fromConfig _).overlooks
  | note level text => exact (Ignores.note level text).overlooks
  | popInt => exact (Ignores.takeInts _).overlooks
  | popInt2 => exact (Ignores.takeInts _).overlooks
  | popInt3 => exact (Ignores.takeInts _).overlooks
  | popInt4 => exact (Ignores.takeInts _).overlooks
  | popInt5 => exact (Ignores.takeInts _).overlooks
  | popInts n => exact (Ignores.takeInts _).overlooks
  | popString => exact (Ignores.takeStrings _).overlooks
  | popStrings n => exact (Ignores.takeStrings _).overlooks
  | pushInt n => exact (Ignores.pushInt n).overlooks
  | pushString t => exact (Ignores.pushString t).overlooks

/-- The rest of a handler after a quiet part. -/
theorem Quiet.overlooks_bind {y : α → Op β} (quiet : Quiet x) (hy : ∀ a, Overlooks c k (y a)) :
    Overlooks c k (x >>= y) :=
  quiet.thenOverlooks quiet.overlooks hy

/-! ## Handlers with a shape of their own -/

theorem branchBy_ignores (offset : Int32) : Ignores c k (branchBy offset) := by
  refine .tryUpdate fun i => ?_
  have pc : (i.cleared c k).pc = i.pc := by cases c <;> rfl
  rw [pc]
  cases Arithmetic.checkedAdd? i.pc offset with
  | none => rfl
  | some pc => cases c <;> rfl

theorem popIntLocal_overlooks : Overlooks c k Language.popIntLocal := by
  refine Language.index_quiet.overlooks_bind fun index => Quiet.popInt.overlooks_bind fun value => ?_
  refine (Ignores.tryUpdate fun i => ?_).overlooks
  have locals : (i.cleared c k).intLocals = i.intLocals := by cases c <;> rfl
  rw [locals]
  split
  · cases c <;> rfl
  · rfl

theorem popStringLocal_overlooks : Overlooks c k Language.popStringLocal := by
  refine Language.index_quiet.overlooks_bind fun index =>
    Quiet.popString.overlooks_bind fun value => ?_
  refine (Ignores.tryUpdate fun i => ?_).overlooks
  have locals : (i.cleared c k).stringLocals = i.stringLocals := by cases c <;> rfl
  rw [locals]
  split
  · cases c <;> rfl
  · rfl

theorem callee_quiet : Quiet Language.callee := .bind .intOperand fun id => .script id

theorem call_ignores (callee : Script) (args : List Value) : Ignores c k (call callee args) := by
  refine .bind (.tryUpdate fun i => ?_) fun _ => .bind (.ask fun _ => by cases c <;> rfl) fun _ =>
    .note _ _
  have frames : (i.cleared c k).frames = i.frames := by cases c <;> rfl
  unfold Invocation.call
  rw [frames]
  split
  · rfl
  · cases c <;> rfl

theorem jump_ignores (target : Script) (args : List Value) :
    Ignores c k (update (·.jump target args)) :=
  .update fun _ => by cases c <;> cases k <;> rfl

theorem leave_ignores : Ignores c k Language.leave := by
  refine .update fun i => ?_
  have frames : (i.cleared c k).frames = i.frames := by cases c <;> rfl
  unfold Invocation.leave?
  rw [frames]
  cases i.frames with
  | nil => cases c <;> cases k <;> rfl
  | cons f frames => cases c <;> cases k <;> rfl

theorem dbFindnext_overlooks : Overlooks c k Database.dbFindnext := by
  refine Quiet.overlooks_bind (.ask fun i j h => congrArg (·.2.2.2.2.2) h) fun query => ?_
  split
  · exact (Ignores.fail _).overlooks
  · split
    · exact (Ignores.bind (.update fun _ => by cases c <;> cases k <;> rfl) fun _ =>
        .pushInt _).overlooks
    · exact (Ignores.pushInt _).overlooks

/-- Looking for an npc writes the slot and does not look at it. -/
theorem npcFinduid_overlooks : Overlooks c k Npc.npcFinduid := by
  refine Quiet.popInt.overlooks_bind fun uid => Quiet.selectedSlot.overlooks_bind fun slot => ?_
  refine (resolve_quiet uid).overlooks_bind fun found => ?_
  refine (Ignores.bind (.update fun _ => ?_) fun _ => ?_).overlooks
  · cases c <;> cases k <;> cases slot <;> rfl
  · split
    · exact .bind (.update fun _ => by cases c <;> cases k <;> rfl) fun _ => .pushInt _
    · exact .bind (.note _ _) fun _ =>
        .bind (.update fun _ => by cases c <;> cases k <;> rfl) fun _ => .pushInt _

end Op

/-! ## Most instructions -/

/-- The instructions that credit a player with what they do. -/
def Opcode.crediting : List Opcode := [.npcDamage, .objAdd]

/-- The tests of what is bound. -/
def Opcode.boundTests : List Opcode := [.activeNpc, .activePlayer, .activeLoc, .activeObj]

theorem Op.Instruction.overlooks {o : Opcode} {g : Int32 → Prop} {h : Handler}
    (instruction : Instruction o g h) (uncredited : o ∉ Opcode.crediting)
    (noTest : o ∉ Opcode.boundTests) : Overlooks c k h := by
  induction instruction with
  | quiet quiet => exact quiet.overlooks
  | bind quiet _ ih => exact quiet.overlooks_bind fun a => ih a uncredited noTest
  | withProtected slot _ ih =>
    exact (Quiet.protectedPlayer slot).overlooks_bind fun p => ih p uncredited noTest
  | credited ho _ _ =>
    refine absurd ?_ uncredited
    rcases ho with rfl | rfl <;> decide
  | isBound _ _ ho =>
    refine absurd ?_ noTest
    rcases ho with rfl | rfl | rfl | rfl <;> decide
  | branchBy offset => exact (branchBy_ignores offset).overlooks
  | popIntLocal => exact popIntLocal_overlooks
  | popStringLocal => exact popStringLocal_overlooks
  | gosub => exact callee_quiet.overlooks_bind fun callee => (call_ignores callee []).overlooks
  | gosubWithParams =>
    refine callee_quiet.overlooks_bind fun callee => ?_
    exact (popArguments_quiet callee).overlooks_bind fun args => (call_ignores callee args).overlooks
  | jump => exact callee_quiet.overlooks_bind fun target => (jump_ignores target []).overlooks
  | jumpWithParams =>
    refine callee_quiet.overlooks_bind fun target => ?_
    exact (popArguments_quiet target).overlooks_bind fun args => (jump_ignores target args).overlooks
  | leave => exact leave_ignores.overlooks
  | suspend execution delay _ _ _ _ =>
    exact (Ignores.update fun _ => by cases c <;> cases k <;> rfl).overlooks
  | search query => exact (Ignores.update fun _ => by cases c <;> cases k <;> rfl).overlooks
  | dbFindnext => exact dbFindnext_overlooks
  | npcFinduid => exact npcFinduid_overlooks
  | random bound => exact (Ignores.bind (.random bound) fun _ => .pushInt _).overlooks
  | effect call _ _ => exact (Ignores.effect call.perform).overlooks

/-! ## Instructions that credit a player -/

/-- Whether the change can be made does not depend on the player who is credited, but what it leaves
    tells who that is. -/
structure WorldCall.Credits (call : Option Int32 → WorldCall) : Prop where
  refused : ∀ {p q : Option Int32} {w : World} {f : Fault},
    (call p).perform w = .error f → (call q).perform w = .error f
  tells : ∀ {p q : Option Int32} {w w' : World},
    (call p).perform w = .ok w' → (call q).perform w = .ok w' → p = q

theorem WorldCall.credits_npcDamage (nid damageType amount : Int32) :
    Credits fun p => .npcDamage nid damageType amount p where
  refused {p q w f} failed := by
    change w.npcDamage nid damageType amount p = _ at failed
    show w.npcDamage nid damageType amount q = _
    unfold World.npcDamage World.updateNpc at failed ⊢
    cases found : w.findNpc nid with
    | error e =>
      rw [found] at failed
      exact failed
    | ok n =>
      rw [found] at failed
      nomatch failed
  tells {p q w w'} hp hq := by
    obtain ⟨u, _, hu⟩ := Except.bind_eq_ok.1 hp
    obtain ⟨v, _, hv⟩ := Except.bind_eq_ok.1 hq
    have last := congrArg (fun w : World => w.events.back?)
      ((Except.ok.inj hu).trans (Except.ok.inj hv).symm)
    simpa [World.record] using last

theorem WorldCall.credits_addObj (obj : Obj) (duration : Int32) :
    Credits fun p => .addObj obj p duration where
  refused failed := nomatch failed
  tells {p q w w'} hp hq := by
    have last := congrArg (fun w : World => w.events.back?)
      ((Except.ok.inj hp).trans (Except.ok.inj hq).symm)
    simpa [World.addObj, World.record] using last

namespace Op

/-- A quiet part, and then a change that is credited to the first player bound. -/
def credit (x : Op α) (call : α → Option Int32 → WorldCall) : Handler :=
  x >>= fun a => creditedPlayer >>= fun p => effect (call a p).perform

theorem credit_apply (x : Op α) (call : α → Option Int32 → WorldCall) (env : Env) (s : Scene) :
    credit x call env s = match x env s with
      | .ok a u => effect (call a u.invocation.credited).perform env u
      | .error f u => .error f u :=
  bind_apply _ _ env s

/-- What is credited ends the same, with the slot hidden, unless it succeeds and the two players are not
    the same. -/
theorem credit_sameBut_iff {x : Op α} {call : α → Option Int32 → WorldCall} (quiet : Quiet x)
    (credits : ∀ a, WorldCall.Credits (call a)) {env : Env} (hidden : s.invocation.Hides c k)
    (same : s.SameBut c k t) :
    EndsSameBut c k (credit x call env s) (credit x call env t) ↔
      ((∃ u, credit x call env s = .ok () u) → s.invocation.credited = t.invocation.credited) := by
  have first := quiet.overlooks env s t hidden same
  have stays : ∀ {s u : Scene} {a : α}, x env s = .ok a u →
      u.invocation.credited = s.invocation.credited := by
    intro s u a run
    obtain ⟨_, _, _, rfl⟩ := (quiet.ends env s).of_ok run
    rfl
  rw [credit_apply, credit_apply]
  cases run : x env s with
  | error f u =>
    rw [run] at first
    generalize x env t = there at first
    cases first with
    | error after => exact ⟨fun _ ⟨_, done⟩ => (nomatch done), fun _ => .error after⟩
  | ok a u =>
    rw [run] at first
    cases run' : x env t with
    | error f v =>
      rw [run'] at first
      nomatch first
    | ok b v =>
      rw [run'] at first
      cases first with
      | ok after =>
        have world := after.world
        dsimp only
        rw [← stays run, ← stays run']
        unfold effect
        rw [world]
        cases made : (call a u.invocation.credited).perform u.world with
        | error f =>
          rw [(credits a).refused made]
          exact ⟨fun _ ⟨_, done⟩ => (nomatch done), fun _ => .error after⟩
        | ok w =>
          cases made' : (call a v.invocation.credited).perform u.world with
          | error f => nomatch made.symm.trans ((credits a).refused made')
          | ok w' =>
            constructor
            · intro both _
              cases both with
              | ok left => exact (credits a).tells made ((made'.trans (congrArg _ left.world)))
            · intro alike
              have told := alike ⟨_, rfl⟩
              rw [told] at made
              cases made.symm.trans made'
              exact .ok ⟨after.invocation, rfl, after.log⟩

theorem npcDamage_eq_credit : Npc.npcDamage =
    credit (do
      let (damageType, amount) ← popInt2
      let npc ← requireNpc
      pure (npc, damageType, amount))
      fun a p => .npcDamage a.1.nid a.2.1 a.2.2 p := by
  unfold credit
  simp only [bind_assoc, pure_bind]
  rfl

theorem objAdd_eq_credit : Ground.objAdd =
    credit (do
      let operands ← popInt4
      let _ ← fromConfig (·.obj operands.2.1)
      pure operands)
      fun a p => .addObj ⟨a.2.1, .ofScriptInt a.1, a.2.2.1⟩ p a.2.2.2 := by
  unfold credit
  simp only [bind_assoc, pure_bind]
  rfl

end Op

/-! ## All instructions -/

namespace Runner

variable {r : Runner} {opcode : Int32}

theorem dispatch_overlooks (standard : r.registry = Op.standard)
    (uncredited : ∀ o ∈ Opcode.crediting, opcode ≠ o.id)
    (noTest : ∀ o ∈ Opcode.boundTests, opcode ≠ o.id) : Op.Overlooks c k (r.dispatch opcode) := by
  unfold dispatch
  rw [standard]
  cases found : Op.standard.handler? opcode with
  | none => exact (Op.Ignores.fail _).overlooks
  | some h =>
    obtain ⟨o, number, shape⟩ := Op.handler?_standard found
    exact (shape fun _ => False).overlooks (fun mem => uncredited o mem number.symm) fun mem =>
      noTest o mem number.symm

theorem dispatch_crediting (standard : r.registry = Op.standard)
    (crediting : ∃ o ∈ Opcode.crediting, opcode = o.id) :
    ∃ (α : Type) (x : Op α) (call : α → Option Int32 → WorldCall),
      Op.Quiet x ∧ (∀ a, WorldCall.Credits (call a)) ∧ r.dispatch opcode = Op.credit x call := by
  obtain ⟨o, mem, rfl⟩ := crediting
  rcases List.mem_cons.1 mem with rfl | mem
  · rw [dispatch_of_listed standard Op.Npc.table_listed (Op.mem_of_lookup .npcDamage rfl),
      Op.npcDamage_eq_credit]
    exact ⟨_, _, _, .bind .popInt2 fun _ => .bind .requireNpc fun _ => .pure _,
      fun _ => WorldCall.credits_npcDamage _ _ _, rfl⟩
  · cases List.mem_singleton.1 mem
    rw [dispatch_of_listed standard Op.Ground.objTable_listed (Op.mem_of_lookup .objAdd rfl),
      Op.objAdd_eq_credit]
    exact ⟨_, _, _, .bind .popInt4 fun _ => .bind (.objType _) fun _ => .pure _,
      fun _ => WorldCall.credits_addObj _ _, rfl⟩

/-- Two scenes differ at most in what one slot is bound to, and no permission for the slot is granted.  Then
    any instruction but the tests of what is bound ends the same in both, and leaves the same world and
    scenes that differ at most in the slot, with one exception: an instruction that credits a player and
    succeeds ends the same only where both scenes have the same player to credit. -/
theorem hiddenSlot_unread_iff (library : Library) (config : Config) (budget : Option UInt32)
    (same : s.SameBut c k t) (hidden : s.invocation.Hides c k)
    (noTest : ∀ o ∈ Opcode.boundTests, opcode ≠ o.id) :
    let r := Runner.standard library config budget
    EndsSameBut c k (r.dispatch opcode r.env s) (r.dispatch opcode r.env t) ↔
      ((∃ o ∈ Opcode.crediting, opcode = o.id) → (∃ u, r.dispatch opcode r.env s = .ok () u) →
        s.invocation.credited = t.invocation.credited) := by
  intro r
  have standard : r.registry = Op.standard := standard_registry library config budget
  by_cases crediting : ∃ o ∈ Opcode.crediting, opcode = o.id
  · obtain ⟨α, x, call, quiet, credits, dispatched⟩ := dispatch_crediting standard crediting
    rw [dispatched, Op.credit_sameBut_iff quiet credits hidden same]
    exact ⟨fun h _ => h, fun h => h crediting⟩
  · have uncredited : ∀ o ∈ Opcode.crediting, opcode ≠ o.id :=
      fun o mem number => crediting ⟨o, mem, number⟩
    exact iff_of_true (dispatch_overlooks standard uncredited noTest r.env s t hidden same)
      fun h => absurd h crediting

end Runner

end

/-! ## A blow that tells of a hidden player -/

namespace Runner

/-- A script that damages the npc. -/
def strikeScript : Script :=
  ⟨1, some ⟨"strike", "strike.rs2", -1, [], #[], #[]⟩, 0, 0, 0, 0,
    #[Opcode.npcDamage.id], #[], #[], #[]⟩

def strikeWorld : World := { World.empty with npcs := .ofList [(7, .new 7 2 .origin)] }

/-- There is a permission for the npc, but none for the players. -/
def strikeScene (players : Slots PlayerRef) : Scene :=
  ⟨{ Invocation.new strikeScript [] with
      pc := 0, ints := [5, 1], pointers := .activeNpc, players, npcs := ⟨some ⟨7, 2⟩, none⟩ },
    strikeWorld, []⟩

theorem hides_strikeScene (k : Slot) (players : Slots PlayerRef) :
    (strikeScene players).invocation.Hides .player k := by
  intro permission about
  show Pointers.activeNpc.includes (permission.pointer k) = false
  cases permission with
  | player | protection => cases k <;> decide
  | npc | loc | obj => nomatch about

/-- Behind another player the hidden one does not show. -/
theorem hiddenSlot_unread_strikeScene :
    let r := Runner.standard .empty .empty none
    let s := strikeScene ⟨some ⟨1⟩, some ⟨2⟩⟩
    let t := strikeScene ⟨some ⟨1⟩, none⟩
    s.SameBut .player .secondary t ∧ s.invocation.Hides .player .secondary ∧
    EndsSameBut .player .secondary (r.dispatch Opcode.npcDamage.id r.env s)
      (r.dispatch Opcode.npcDamage.id r.env t) := by
  intro r s t
  have same : s.SameBut .player .secondary t := ⟨rfl, rfl, rfl⟩
  have hidden := hides_strikeScene .secondary ⟨some ⟨1⟩, some ⟨2⟩⟩
  exact ⟨same, hidden, (hiddenSlot_unread_iff .empty .empty none same hidden (by decide)).2
    fun _ _ => rfl⟩

/-- The blow falls, whoever the players are. -/
theorem npcDamage_strikeScene (env : Env) (players : Slots PlayerRef) :
    ∃ u, Op.Npc.npcDamage env (strikeScene players) = .ok () u := by
  let popped : Scene :=
    { strikeScene players with invocation := { (strikeScene players).invocation with ints := [] } }
  have operands : Op.popInt2 env (strikeScene players) = .ok (1, 5) popped := rfl
  have granted : Pointers.activeNpc.includes (.npc .primary) = true := by decide
  have npc : Op.requireNpc env popped = .ok ⟨7, 2⟩ popped :=
    Op.bind_eq_ok.2 ⟨.primary, popped, rfl, Op.require_eq_ok.2 ⟨rfl, granted, rfl⟩⟩
  exact ⟨_, Op.bind_eq_ok.2 ⟨_, _, operands, Op.bind_eq_ok.2 ⟨_, _, npc, rfl⟩⟩⟩

/-- The first player shows in what the blow leaves, though no permission for a player is granted. -/
theorem hiddenSlot_credited_strikeScene :
    let r := Runner.standard .empty .empty none
    let s := strikeScene ⟨some ⟨1⟩, none⟩
    let t := strikeScene ⟨none, none⟩
    s.SameBut .player .primary t ∧ s.invocation.Hides .player .primary ∧
    ¬ EndsSameBut .player .primary (r.dispatch Opcode.npcDamage.id r.env s)
      (r.dispatch Opcode.npcDamage.id r.env t) := by
  intro r s t
  have same : s.SameBut .player .primary t := ⟨rfl, rfl, rfl⟩
  have hidden : s.invocation.Hides .player .primary := hides_strikeScene .primary _
  refine ⟨same, hidden, ?_⟩
  obtain ⟨u, struck⟩ := npcDamage_strikeScene r.env ⟨some ⟨1⟩, none⟩
  have standard : r.registry = Op.standard := standard_registry _ _ _
  have run := dispatch_of_listed standard Op.Npc.table_listed (Op.mem_of_lookup .npcDamage rfl)
  rw [run, Op.npcDamage_eq_credit, Op.credit_sameBut_iff ?quiet ?credits hidden same,
    ← Op.npcDamage_eq_credit]
  · intro alike
    have credited : (some 1 : Option Int32) = none := alike ⟨u, struck⟩
    nomatch credited
  · exact .bind .popInt2 fun _ => .bind .requireNpc fun _ => .pure _
  · exact fun _ => WorldCall.credits_npcDamage _ _ _

end Runner

end TickScript
