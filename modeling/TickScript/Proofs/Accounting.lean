import TickScript.Proofs.Inventories
import TickScript.Proofs.ItemTotals

/-
  Instructions about inventories account for every obj.

  The five instructions that put in, take out and count all start alike: they find the player of the
  selected slot, by the permission that they ask for, and the slots of an inventory of the player.
  `Scene.Views` says that these are there.  Then the instruction succeeds, and what it writes or pushes is
  what the slots themselves say: `Added` and `Removed` for the two that write, the exact number of an obj
  and the number of slots for those that count.

    Scene.Views              the slots that an instruction of the scene is about
    invDel_of_views          taking out succeeds and writes the slots
    pushCount_of_views       counting succeeds and pushes a number, whatever is counted
    inventories_accounted    what the five instructions do, by number, over the standard registry
-/

namespace TickScript

/-- `s.Views permission pid inv slots`: the permission is granted for the player of the selected slot, and
    the player has the inventory, whose slots are these. -/
structure Scene.Views (permission : Slot → Pointers) (s : Scene) (pid inv : Int32)
    (slots : ItemSlots) : Prop where
  granted : s.invocation.pointers.includes (permission s.invocation.selectedSlot)
  bound : ∃ p, s.invocation.players.get s.invocation.selectedSlot = some p ∧ p.pid = pid
  there : s.world.itemSlots pid inv = .ok slots

variable {s : Scene} {pid inv obj count : Int32} {rest : List Int32} {slots : ItemSlots}

/-- Together with the operands and the type of the obj, this is what an addition is about. -/
theorem Scene.Views.adds {config : Config} {type : ObjType} (views : s.Views .protectedAccess pid inv slots)
    (ints : s.invocation.ints = count :: obj :: inv :: rest) (known : config.obj obj = .ok type) :
    s.Adds config pid inv obj count type slots :=
  ⟨⟨rest, ints⟩, views.granted, views.bound, known, views.there⟩

/-! ## When the instructions succeed -/

namespace Op

variable {env : Env}

theorem invDel_of_views (views : s.Views .protectedAccess pid inv slots)
    (ints : s.invocation.ints = count :: obj :: inv :: rest) :
    ∃ t, Inventory.invDel env s = .ok () t ∧
      s.world.setItemSlots pid inv (slots.remove obj count) = .ok t.world := by
  obtain ⟨p, bound, rfl⟩ := views.bound
  obtain ⟨w, written, -⟩ :=
    World.setItemSlots_spec views.there (ItemSlots.length_remove obj count slots)
  refine exists_bind_eq_ok (popInt3_eq_ok.2 ⟨rest, ints, rfl⟩) ?_
  refine exists_bind_eq_ok (requireProtectedPlayer_eq_ok.2 ⟨rfl, views.granted, bound⟩) ?_
  refine exists_bind_eq_ok (observe_eq_ok.2 ⟨rfl, views.there⟩) ?_
  exact ⟨_, effect_eq_ok.2 ⟨w, written, rfl⟩, written⟩

/-- Counting, once the operands are popped. -/
def pushCount (inv : Int32) (f : ItemSlots → Int32) : Handler := do
  let player ← requirePlayer
  pushInt (f (← observe (·.itemSlots player.pid inv)))

theorem pushCount_of_views (views : s.Views .player pid inv slots) (f : ItemSlots → Int32) :
    ∃ t, pushCount inv f env s = .ok () t ∧
      t.world = s.world ∧ t.invocation.ints = f slots :: s.invocation.ints := by
  obtain ⟨p, bound, rfl⟩ := views.bound
  refine exists_bind_eq_ok (requirePlayer_eq_ok.2 ⟨rfl, views.granted, bound⟩) ?_
  refine exists_bind_eq_ok (observe_eq_ok.2 ⟨rfl, views.there⟩) ?_
  exact ⟨_, rfl, rfl, rfl⟩

/-- Popping operands does not change what the scene is about. -/
theorem popped_views {permission : Slot → Pointers} (views : s.Views permission pid inv slots)
    (rest : List Int32) :
    Scene.Views permission { s with invocation := { s.invocation with ints := rest } } pid inv slots :=
  ⟨views.granted, views.bound, views.there⟩

/-- The instructions that count the slots pop the inventory and push what they count. -/
theorem popInt_pushCount_of_views (views : s.Views .player pid inv slots)
    (ints : s.invocation.ints = inv :: rest) (f : ItemSlots → Int32) :
    ∃ t, (popInt >>= fun inv => pushCount inv f) env s = .ok () t ∧
      t.world = s.world ∧ t.invocation.ints = f slots :: rest := by
  have popped : popInt env s =
      .ok inv { s with invocation := { s.invocation with ints := rest } } :=
    takeInts_eq_ok.2 ⟨rest, by rw [ints], rfl⟩
  exact exists_bind_eq_ok popped (pushCount_of_views (popped_views views rest) f)

theorem invTotal_of_views (views : s.Views .player pid inv slots)
    (ints : s.invocation.ints = obj :: inv :: rest) :
    ∃ t, Inventory.invTotal env s = .ok () t ∧
      t.world = s.world ∧ t.invocation.ints = slots.total obj :: rest := by
  have popped : popInt2 env s =
      .ok (inv, obj) { s with invocation := { s.invocation with ints := rest } } :=
    takeInts_eq_ok.2 ⟨rest, by rw [ints], rfl⟩
  exact exists_bind_eq_ok popped (pushCount_of_views (popped_views views rest) (·.total obj))

end Op

/-! ## By number -/

namespace Runner

/-- Where the instruction is about slots without an empty stack:

    - putting in succeeds and raises the number of the obj by as many as find room, and by no others;
    - taking out succeeds, lowers the number of the obj by as many as there are at most, from the front, and
      leaves no empty stack;
    - counting an obj pushes its number, as far as a script int can say it;
    - the empty slots that are counted and those that are not empty make up the slots that are counted. -/
theorem inventories_accounted (library : Library) (config : Config) (budget : Option UInt32)
    {slots : ItemSlots} (filled : slots.Filled) (pid inv : Int32) :
    let r := Runner.standard library config budget
    (∀ u obj count rest type, u.opcode? = some Opcode.invAdd.id →
      u.invocation.ints = count :: obj :: inv :: rest → config.obj obj = .ok type →
      u.Views .protectedAccess pid inv slots →
      ∃ t slots', r.Calls u t ∧ t.world.itemSlots pid inv = .ok slots' ∧
        slots.Added type.stackable obj count slots') ∧
    (∀ u obj count rest, u.opcode? = some Opcode.invDel.id →
      u.invocation.ints = count :: obj :: inv :: rest → u.Views .protectedAccess pid inv slots →
      ∃ t slots', r.Calls u t ∧ t.world.itemSlots pid inv = .ok slots' ∧
        slots.Removed obj count slots') ∧
    (∀ u obj rest, u.opcode? = some Opcode.invTotal.id → u.invocation.ints = obj :: inv :: rest →
      u.Views .player pid inv slots →
      ∃ t n, r.Calls u t ∧ t.world = u.world ∧ t.invocation.ints = n :: rest ∧
        n.toInt = min (slots.tally obj) 2147483647) ∧
    (∀ u v rest rest', u.opcode? = some Opcode.invFreespace.id →
      v.opcode? = some Opcode.invSize.id → u.invocation.ints = inv :: rest →
      v.invocation.ints = inv :: rest' → u.Views .player pid inv slots →
      v.Views .player pid inv slots →
      ∃ t t' free size, r.Calls u t ∧ t.world = u.world ∧ t.invocation.ints = free :: rest ∧
        r.Calls v t' ∧ t'.world = v.world ∧ t'.invocation.ints = size :: rest' ∧
        free + Arithmetic.ofLength (slots.countP Option.isSome) = size ∧
        (slots.length < 2147483648 →
          size.toInt = slots.length ∧ free.toInt + slots.countP Option.isSome = size.toInt)) := by
  intro r
  have standard : r.registry = Op.standard := standard_registry library config budget
  refine ⟨?_, ?_, ?_, ?_⟩
  · intro u obj count rest type here ints known views
    obtain ⟨t, calls, stored, -⟩ := calls_of_adds standard here (views.adds ints known)
    exact ⟨t, _, calls, stored, ItemSlots.added_add filled type.stackable obj count⟩
  · intro u obj count rest here ints views
    obtain ⟨t, done, written⟩ := Op.invDel_of_views views ints
    obtain ⟨w, written', stored, -⟩ :=
      World.setItemSlots_spec views.there (ItemSlots.length_remove obj count slots)
    cases written.symm.trans written'
    exact ⟨t, _,
      calls_of_listed standard Op.Inventory.table_listed (Op.mem_of_lookup .invDel rfl) here done,
      stored, ItemSlots.removed_remove filled obj count⟩
  · intro u obj rest here ints views
    obtain ⟨t, done, same, pushed⟩ := Op.invTotal_of_views views ints
    exact ⟨t, _,
      calls_of_listed standard Op.Inventory.table_listed (Op.mem_of_lookup .invTotal rfl) here done,
      same, pushed, ItemSlots.toInt_total filled obj⟩
  · intro u v rest rest' here here' ints ints' views views'
    obtain ⟨t, done, same, pushed⟩ := Op.popInt_pushCount_of_views views ints
      fun slots => Arithmetic.ofLength slots.freeCount
    obtain ⟨t', done', same', pushed'⟩ := Op.popInt_pushCount_of_views views' ints'
      fun slots => Arithmetic.ofLength slots.length
    exact ⟨t, t', _, _,
      calls_of_listed standard Op.Inventory.table_listed (Op.mem_of_lookup .invFreespace rfl) here done,
      same, pushed,
      calls_of_listed standard Op.Inventory.table_listed (Op.mem_of_lookup .invSize rfl) here' done',
      same', pushed',
      slots.ofLength_freeCount_add_occupied, ItemSlots.toInt_ofLength_counts⟩

/-! ## A purse -/

/-- A script of the five instructions. -/
def purseScript : Script :=
  ⟨1, some ⟨"purse", "purse.rs2", -1, [], #[], #[]⟩, 0, 0, 0, 0,
    #[Opcode.invAdd.id, Opcode.invDel.id, Opcode.invTotal.id, Opcode.invFreespace.id, Opcode.invSize.id],
    #[], #[], #[]⟩

/-- Two stacks of coins with something else between them, and an empty slot. -/
def purseSlots : ItemSlots := [some ⟨995, 7⟩, some ⟨4151, 1⟩, none, some ⟨995, 3⟩]

def purseWorld : World :=
  { World.empty with players := .ofList [(1,
    { Player.new 1 "owner" .origin with invs := .ofList [(93, ⟨4, purseSlots⟩)] })] }

/-- A scene in which the script is about the owner of the purse. -/
def purseScene (pc : Int32) (ints : List Int32) : Scene :=
  ⟨{ Invocation.new purseScript [] with
      execution := .running, pc, ints, pointers := .union .activePlayer .protectedPlayer,
      players := ⟨some ⟨1⟩, none⟩ },
    purseWorld, []⟩

open ItemSlots in
theorem filled_purseSlots : purseSlots.Filled :=
  filled_some_cons.2 ⟨by decide, filled_some_cons.2 ⟨by decide,
    filled_none_cons.2 (filled_some_cons.2 ⟨by decide, fun _ mem => nomatch mem⟩)⟩⟩

/-- The instructions of the script are about the first slot. -/
theorem selectedSlot_purseScene (pc : Int32) (ints : List Int32) :
    (purseScene pc ints).invocation.selectedSlot = .primary := by
  have operand : purseScript.intOperand pc = 0 := by
    unfold Script.intOperand
    cases position? pc <;> rfl
  show Slot.ofOperand (purseScript.intOperand pc) = _
  rw [operand]
  rfl

theorem purseScene_views {permission : Slot → Pointers}
    (granted : (Pointers.union .activePlayer .protectedPlayer).includes (permission .primary))
    (pc : Int32) (ints : List Int32) : (purseScene pc ints).Views permission 1 93 purseSlots := by
  have primary := selectedSlot_purseScene pc ints
  refine ⟨?_, ?_, rfl⟩
  · rw [primary]
    exact granted
  · rw [primary]
    exact ⟨⟨1⟩, rfl, rfl⟩

/-- Five coins are put in, eight are taken out, and so on. -/
theorem inventories_accounted_purse :
    let r := standard .empty depositConfig none
    purseSlots.Filled ∧
    (∃ t slots, r.Calls (purseScene 0 [5, 995, 93]) t ∧ t.world.itemSlots 1 93 = .ok slots ∧
      (slots.tally 995 : ℕ∞) = 15) ∧
    (∃ t slots, r.Calls (purseScene 1 [8, 995, 93]) t ∧ t.world.itemSlots 1 93 = .ok slots ∧
      slots.tally 995 = 2 ∧ ItemSlots.tally 995 (List.take 2 slots) = 0) ∧
    (∃ t, r.Calls (purseScene 2 [995, 93]) t ∧ t.invocation.ints = [10]) ∧
    (∃ t t' free size, r.Calls (purseScene 3 [93]) t ∧ t.invocation.ints = [free] ∧
      r.Calls (purseScene 4 [93]) t' ∧ t'.invocation.ints = [size] ∧ free + 3 = size) := by
  intro r
  have write (pc : Int32) (ints : List Int32) :
      (purseScene pc ints).Views .protectedAccess 1 93 purseSlots := purseScene_views (by decide) pc ints
  have read (pc : Int32) (ints : List Int32) :
      (purseScene pc ints).Views .player 1 93 purseSlots := purseScene_views (by decide) pc ints
  obtain ⟨add, del, total, counts⟩ :=
    inventories_accounted .empty depositConfig none filled_purseSlots 1 93
  refine ⟨filled_purseSlots, ?_, ?_, ?_, ?_⟩
  · obtain ⟨t, slots, calls, stored, added⟩ := add (purseScene 0 [5, 995, 93]) 995 5 [] _ rfl rfl rfl
      (write _ _)
    refine ⟨t, slots, calls, stored, ?_⟩
    have sum : (slots.tally 995 : ℕ∞) = (10 : ℕ) + min ((5 : ℕ) : ℕ∞) (2147483640 : ℕ) := added.tally
    rw [sum, ← Nat.mono_cast.map_min, ← Nat.cast_add]
    rfl
  · obtain ⟨t, slots, calls, stored, removed⟩ := del (purseScene 1 [8, 995, 93]) 995 8 [] rfl rfl
      (write _ _)
    refine ⟨t, slots, calls, stored, ?_, ?_⟩
    · rw [removed.tally]
      decide
    · rw [removed.fromFront]
      decide
  · obtain ⟨t, n, calls, -, pushed, counted⟩ := total (purseScene 2 [995, 93]) 995 [] rfl rfl (read _ _)
    have ten : n = 10 := by
      rw [← Int32.toInt_inj, counted]
      decide
    exact ⟨t, calls, pushed.trans (congrArg (List.cons · []) ten)⟩
  · obtain ⟨t, t', free, size, calls, -, pushed, calls', -, pushed', sum, -⟩ :=
      counts (purseScene 3 [93]) (purseScene 4 [93]) [] [] rfl rfl rfl rfl (read _ _) (read _ _)
    exact ⟨t, t', free, size, calls, pushed, calls', pushed', sum⟩

end Runner

end TickScript
