import TickScript.Proofs.Course
import TickScript.Proofs.ItemSlots
import TickScript.Proofs.Protection
import TickScript.Proofs.Success

/-
  Inventories over whole runs: when do all of them stay without an empty stack?

  Three instructions write the slots of an inventory, and nothing else touches any.  Two of them keep the
  slots filled whatever their operands; the third, which puts in, does so unless the addition is hollow.
  A hollow addition leaves a world that is not filled, so the worlds of a run are all filled if and only if
  the first one is and no instruction of the run is a hollow addition.

    inventory?         the view of a world through which inventories are described
    World.Filled       no inventory has an empty stack
    Scene.Adds         what an addition is about: the inventory, its slots, and what is put in
    HollowAddition     the instruction puts in nothing, and an empty slot is taken up by it
    Calls.filled       one instruction
    Loops.filled       the instructions of one entry
    story_filled       those of any entries
-/

namespace TickScript

/-! ## Inventories in the world -/

namespace World

variable {w w' : World} {pid inv : Int32} {i : Inventory} {slots slots' : ItemSlots}

/-- An inventory of a player. -/
def inventory? (w : World) (pid inv : Int32) : Option Inventory :=
  (w.players.get? pid).bind (·.invs.get? inv)

/-- No inventory of the world has an empty stack. -/
def Filled (w : World) : Prop := ∀ pid inv i, w.inventory? pid inv = some i → i.items.Filled

theorem inventory?_of_players (same : w'.players = w.players) (pid inv : Int32) :
    w'.inventory? pid inv = w.inventory? pid inv := by
  unfold inventory?
  rw [same]

theorem filled_congr (same : ∀ pid inv, w'.inventory? pid inv = w.inventory? pid inv) :
    w'.Filled ↔ w.Filled := by
  unfold Filled
  simp only [same]

theorem findInventory_eq_ok {p : Player} :
    findInventory p pid inv = .ok i ↔ p.invs.get? inv = some i := by
  unfold findInventory
  cases p.invs.get? inv with
  | none => constructor <;> intro h <;> cases h
  | some j => constructor <;> intro h <;> cases h <;> rfl

theorem itemSlots_eq_ok :
    w.itemSlots pid inv = .ok slots ↔ ∃ i, w.inventory? pid inv = some i ∧ i.slots = slots := by
  unfold itemSlots inventory?
  constructor
  · intro h
    obtain ⟨p, player, h⟩ := Except.bind_eq_ok.1 h
    obtain ⟨i, found, h⟩ := Except.bind_eq_ok.1 h
    refine ⟨i, ?_, Except.ok.inj h⟩
    exact Option.bind_eq_some_iff.2 ⟨p, findPlayer_eq_ok.1 player, findInventory_eq_ok.1 found⟩
  · rintro ⟨i, there, rfl⟩
    obtain ⟨p, player, found⟩ := Option.bind_eq_some_iff.1 there
    refine Except.bind_eq_ok.2 ⟨p, findPlayer_eq_ok.2 player, ?_⟩
    exact Except.bind_eq_ok.2 ⟨i, findInventory_eq_ok.2 found, rfl⟩

/-- A change of a player that leaves the inventories alone. -/
theorem inventory?_updatePlayer {f : Player → Except Fault Player} (h : w.updatePlayer pid f = .ok w')
    (keeps : ∀ p p', f p = .ok p' → p'.invs = p.invs) (q inv : Int32) :
    w'.inventory? q inv = w.inventory? q inv := by
  obtain ⟨p, p', there, changed, rfl⟩ := updatePlayer_eq_ok.1 h
  unfold inventory?
  dsimp only
  by_cases same : q = pid
  · rw [same, SortedMap.get?_insert_self, there, Option.bind_some, Option.bind_some, keeps p p' changed]
  · rw [SortedMap.get?_insert_of_ne _ _ same]

/-- Writing the slots of an inventory that is there changes this inventory and no other. -/
theorem setItemSlots_eq_ok (there : w.inventory? pid inv = some i) (slots : ItemSlots) :
    ∃ w', w.setItemSlots pid inv slots = .ok w' ∧
      w'.inventory? pid inv = some (i.withSlots slots) ∧
      ∀ q j, ¬ (q = pid ∧ j = inv) → w'.inventory? q j = w.inventory? q j := by
  obtain ⟨p, player, found⟩ := Option.bind_eq_some_iff.1 there
  refine ⟨{ w with players := w.players.insert pid { p with
    invs := p.invs.insert inv (i.withSlots slots) } }, ?_, ?_, ?_⟩
  · refine updatePlayer_eq_ok.2 ⟨p, _, player, ?_, rfl⟩
    exact Except.bind_eq_ok.2 ⟨i, findInventory_eq_ok.2 found, rfl⟩
  · show ((w.players.insert pid _).get? pid).bind _ = _
    rw [SortedMap.get?_insert_self, Option.bind_some, SortedMap.get?_insert_self]
  · intro q j other
    show ((w.players.insert pid _).get? q).bind _ = (w.players.get? q).bind _
    by_cases same : q = pid
    · have apart : j ≠ inv := fun h => other ⟨same, h⟩
      rw [same, SortedMap.get?_insert_self, player, Option.bind_some, Option.bind_some,
        SortedMap.get?_insert_of_ne _ _ apart]
    · rw [SortedMap.get?_insert_of_ne _ _ same]

/-- Where slots are written over as many others, what is read then is what was written, and the world is
    filled if and only if they are. -/
theorem setItemSlots_spec (there : w.itemSlots pid inv = .ok slots)
    (length : slots'.length = slots.length) :
    ∃ w', w.setItemSlots pid inv slots' = .ok w' ∧ w'.itemSlots pid inv = .ok slots' ∧
      (w.Filled → (w'.Filled ↔ slots'.Filled)) := by
  obtain ⟨i, found, rfl⟩ := itemSlots_eq_ok.1 there
  obtain ⟨w', written, here, elsewhere⟩ := setItemSlots_eq_ok found slots'
  refine ⟨w', written, itemSlots_eq_ok.2 ⟨_, here, Inventory.slots_withSlots length⟩, fun filled => ?_⟩
  constructor
  · intro filled'
    rw [← Inventory.items_withSlots length]
    exact filled' pid inv _ here
  · intro filled' q j k found'
    by_cases same : q = pid ∧ j = inv
    · rw [same.1, same.2, here] at found'
      cases found'
      rw [Inventory.items_withSlots length]
      exact filled'
    · rw [elsewhere q j same] at found'
      exact filled q j k found'

/-- The slots of a filled world are filled. -/
theorem filled_of_itemSlots (filled : w.Filled) (there : w.itemSlots pid inv = .ok slots) :
    slots.Filled := by
  obtain ⟨i, found, rfl⟩ := itemSlots_eq_ok.1 there
  exact Inventory.filled_slots (filled pid inv i found)

end World

/-- No other change of the world touches an inventory. -/
theorem WorldCall.perform_inventory? {call : WorldCall} {w w' : World} (h : call.perform w = .ok w')
    (other : ∀ pid inv slots, call ≠ .setItemSlots pid inv slots) (pid inv : Int32) :
    w'.inventory? pid inv = w.inventory? pid inv := by
  -- Most changes write no player.  Of the four that do, three write other things than the inventories.
  by_cases whom : call.changedPlayer? = none
  · rcases WorldCall.perform_players h with ⟨-, same⟩ | ⟨_, _, _, someone, -⟩
    · exact World.inventory?_of_players same pid inv
    · rw [whom] at someone
      nomatch someone
  · cases call with
    | setVarp q var value =>
      refine World.inventory?_updatePlayer h (fun p p' changed => ?_) pid inv
      cases changed
      rfl
    | giveXp q stat xp =>
      obtain ⟨_, updated, h⟩ := Except.bind_eq_ok.1 h
      cases h
      refine World.inventory?_updatePlayer updated (fun p p' changed => ?_) pid inv
      cases changed
      rfl
    | teleport q coord =>
      obtain ⟨_, updated, h⟩ := Except.bind_eq_ok.1 h
      cases h
      refine World.inventory?_updatePlayer updated (fun p p' changed => ?_) pid inv
      cases changed
      rfl
    | setItemSlots q j slots => exact absurd rfl (other q j slots)
    | _ => exact absurd rfl whom

/-- Only the three instructions that write slots touch an inventory. -/
theorem Effect.inventory? {env : Env} {o : Opcode} {s t : Scene} (h : Effect env o s t)
    (add : o ≠ .invAdd) (clear : o ≠ .invClear) (del : o ≠ .invDel) (pid inv : Int32) :
    t.world.inventory? pid inv = s.world.inventory? pid inv := by
  obtain ⟨u, v, before, change, after⟩ := h
  rw [after.world, ← before.world]
  cases change with
  | world call done _ ho =>
    refine WorldCall.perform_inventory? done (fun q j slots same => ?_) pid inv
    subst same
    rcases List.mem_cons.1 ho with h | ho
    · exact add h
    · rcases List.mem_cons.1 ho with h | ho
      · exact clear h
      · exact del (List.mem_singleton.1 ho)
  | nothing | branch | intLocal | stringLocal | call | jump | leave | finish | wait | search | found
  | lost | random => rfl

/-! ## The instructions that write slots -/

/-- `s.Adds config pid inv obj count type slots`: where `s` puts something in, it is so many of the obj, of
    this type, and it goes into the inventory of the player, whose slots are these. -/
structure Scene.Adds (config : Config) (s : Scene) (pid inv obj count : Int32) (type : ObjType)
    (slots : ItemSlots) : Prop where
  operands : ∃ rest, s.invocation.ints = count :: obj :: inv :: rest
  granted : s.invocation.pointers.includes (.protectedAccess s.invocation.selectedSlot)
  bound : ∃ p, s.invocation.players.get s.invocation.selectedSlot = some p ∧ p.pid = pid
  type : config.obj obj = .ok type
  there : s.world.itemSlots pid inv = .ok slots

/-- The instruction of `s` puts in nothing, of an obj that stacks and is in no slot, where a slot is
    empty. -/
def Scene.HollowAddition (config : Config) (s : Scene) : Prop :=
  s.opcode? = some Opcode.invAdd.id ∧ ∃ pid inv obj count type slots,
    s.Adds config pid inv obj count type slots ∧ slots.Hollow type.stackable obj count

theorem Scene.not_hollowAddition {config : Config} {s : Scene} {opcode : Int32}
    (there : s.opcode? = some opcode) (other : opcode ≠ Opcode.invAdd.id) :
    ¬ s.HollowAddition config :=
  fun h => other (Option.some.inj (there.symm.trans h.1))

/-- Whether an addition is hollow is a matter of the one inventory that it is about. -/
theorem Scene.Adds.hollowAddition_iff {config : Config} {s : Scene} {pid inv obj count : Int32}
    {type : ObjType} {slots : ItemSlots} (adds : s.Adds config pid inv obj count type slots)
    (here : s.opcode? = some Opcode.invAdd.id) :
    s.HollowAddition config ↔ slots.Hollow type.stackable obj count := by
  constructor
  · rintro ⟨-, pid', inv', obj', count', type', slots', adds', hollow⟩
    obtain ⟨rest, ints⟩ := adds.operands
    obtain ⟨rest', ints'⟩ := adds'.operands
    cases ints.symm.trans ints'
    obtain ⟨p, bound, rfl⟩ := adds.bound
    obtain ⟨p', bound', rfl⟩ := adds'.bound
    cases bound.symm.trans bound'
    cases adds.type.symm.trans adds'.type
    cases adds.there.symm.trans adds'.there
    exact hollow
  · exact fun hollow => ⟨here, pid, inv, obj, count, type, slots, adds, hollow⟩

/-- `s.Rewrites f t`: the slots of one inventory are written over as `f` says. -/
def Scene.Rewrites (s : Scene) (f : ItemSlots → ItemSlots) (t : Scene) : Prop :=
  ∃ pid inv slots, s.world.itemSlots pid inv = .ok slots ∧
    s.world.setItemSlots pid inv (f slots) = .ok t.world

/-- Writing over slots is harmless where it is so for the slots alone. -/
theorem Scene.Rewrites.filled {f : ItemSlots → ItemSlots} {s t : Scene} (h : s.Rewrites f t)
    (length : ∀ slots, (f slots).length = slots.length)
    (keeps : ∀ slots, slots.Filled → (f slots).Filled) (filled : s.world.Filled) :
    t.world.Filled := by
  obtain ⟨pid, inv, slots, there, written⟩ := h
  obtain ⟨w, written', -, same⟩ := World.setItemSlots_spec there (length slots)
  cases written.symm.trans written'
  exact (same filled).2 (keeps slots (World.filled_of_itemSlots filled there))

namespace Op

variable {env : Env} {s t : Scene}

/-! ## When the instructions succeed -/

/-- An addition that succeeds is about something, and writes the slots with what was added. -/
theorem invAdd_adds (h : Inventory.invAdd env s = .ok () t) : ∃ pid inv obj count type slots,
    s.Adds env.config pid inv obj count type slots ∧
      s.world.setItemSlots pid inv (slots.add type.stackable obj count).1 = .ok t.world := by
  obtain ⟨⟨inv, obj, count⟩, _, popped, h⟩ := bind_eq_ok.1 h
  obtain ⟨rest, ints, rfl⟩ := popInt3_eq_ok.1 popped
  obtain ⟨p, _, required, h⟩ := bind_eq_ok.1 h
  obtain ⟨rfl, granted, bound⟩ := requireProtectedPlayer_eq_ok.1 required
  obtain ⟨type, _, looked, h⟩ := bind_eq_ok.1 h
  obtain ⟨rfl, known⟩ := fromConfig_eq_ok.1 looked
  obtain ⟨slots, _, observed, h⟩ := bind_eq_ok.1 h
  obtain ⟨rfl, there⟩ := observe_eq_ok.1 observed
  refine ⟨p.pid, inv, obj, count, type, slots,
    ⟨⟨rest, ints⟩, granted, ⟨p, bound, rfl⟩, known, there⟩, ?_⟩
  dsimp only at h
  split at h
  · obtain ⟨_, _, noted, h⟩ := bind_eq_ok.1 h
    cases noted
    obtain ⟨w, written, rfl⟩ := effect_eq_ok.1 h
    exact written
  · obtain ⟨w, written, rfl⟩ := effect_eq_ok.1 h
    exact written

/-- An addition that is about something succeeds. -/
theorem invAdd_of_adds {pid inv obj count : Int32} {type : ObjType} {slots : ItemSlots}
    (adds : s.Adds env.config pid inv obj count type slots) :
    ∃ t, Inventory.invAdd env s = .ok () t ∧
      s.world.setItemSlots pid inv (slots.add type.stackable obj count).1 = .ok t.world := by
  obtain ⟨rest, ints⟩ := adds.operands
  obtain ⟨p, bound, rfl⟩ := adds.bound
  obtain ⟨w, written, -⟩ :=
    World.setItemSlots_spec adds.there (ItemSlots.length_add type.stackable obj count slots)
  refine exists_bind_eq_ok (popInt3_eq_ok.2 ⟨rest, ints, rfl⟩) ?_
  refine exists_bind_eq_ok (requireProtectedPlayer_eq_ok.2 ⟨rfl, adds.granted, bound⟩) ?_
  refine exists_bind_eq_ok (fromConfig_eq_ok.2 ⟨rfl, adds.type⟩) ?_
  refine exists_bind_eq_ok (observe_eq_ok.2 ⟨rfl, adds.there⟩) ?_
  -- Whether or not something found no room, the slots are written.
  have stored : ∀ u : Scene, u.world = s.world →
      ∃ t, effect (·.setItemSlots p.pid inv (slots.add type.stackable obj count).1) env u = .ok () t ∧
        s.world.setItemSlots p.pid inv (slots.add type.stackable obj count).1 = .ok t.world := by
    intro u same
    exact ⟨_, effect_eq_ok.2 ⟨w, same ▸ written, rfl⟩, written⟩
  dsimp only
  split
  · exact exists_bind_eq_ok (u := _) rfl (stored _ rfl)
  · exact stored _ rfl

/-- Slots of a player with protected access are read, changed and written back. -/
theorem rewrites_of_eq_ok {inv : Int32} {f : ItemSlots → ItemSlots}
    (h : (requireProtectedPlayer >>= fun p => observe (·.itemSlots p.pid inv) >>= fun slots =>
      effect (·.setItemSlots p.pid inv (f slots))) env s = .ok () t) : s.Rewrites f t := by
  obtain ⟨p, _, required, rest⟩ := bind_eq_ok.1 h
  obtain ⟨rfl, -, -⟩ := requireProtectedPlayer_eq_ok.1 required
  obtain ⟨slots, _, observed, last⟩ := bind_eq_ok.1 rest
  obtain ⟨rfl, there⟩ := observe_eq_ok.1 observed
  obtain ⟨w, written, rfl⟩ := effect_eq_ok.1 last
  exact ⟨p.pid, inv, slots, there, written⟩

theorem invClear_rewrites (h : Inventory.invClear env s = .ok () t) :
    s.Rewrites (·.map fun _ => none) t := by
  obtain ⟨inv, _, popped, h⟩ := bind_eq_ok.1 h
  obtain ⟨rest, -, rfl⟩ := takeInts_eq_ok.1 popped
  have written := rewrites_of_eq_ok h
  exact written

theorem invDel_rewrites (h : Inventory.invDel env s = .ok () t) :
    ∃ obj count, s.Rewrites (·.remove obj count) t := by
  obtain ⟨⟨inv, obj, count⟩, _, popped, h⟩ := bind_eq_ok.1 h
  obtain ⟨rest, -, rfl⟩ := takeInts_eq_ok.1 popped
  have written := rewrites_of_eq_ok h
  exact ⟨obj, count, written⟩

end Op

/-! ## Runs -/

namespace Runner

variable {r : Runner} {s t u : Scene} {e : EStateM.Result Fault Scene Unit}

/-- An addition that is about something succeeds, and leaves a filled world filled unless it is hollow. -/
theorem calls_of_adds (standard : r.registry = Op.standard) {pid inv obj count : Int32} {type : ObjType}
    {slots : ItemSlots} (here : u.opcode? = some Opcode.invAdd.id)
    (adds : u.Adds r.config pid inv obj count type slots) :
    ∃ t, r.Calls u t ∧
      t.world.itemSlots pid inv = .ok (slots.add type.stackable obj count).1 ∧
      (u.world.Filled → (t.world.Filled ↔ ¬ u.HollowAddition r.config)) := by
  have known : u.Adds r.env.config pid inv obj count type slots := adds
  obtain ⟨t, done, written⟩ := Op.invAdd_of_adds known
  have calls := calls_of_listed standard Op.Inventory.table_listed (Op.mem_of_lookup .invAdd rfl) here done
  refine ⟨t, calls, ?_⟩
  obtain ⟨w, written', stored, same⟩ := World.setItemSlots_spec adds.there
    (ItemSlots.length_add type.stackable obj count slots)
  cases written.symm.trans written'
  refine ⟨stored, fun filled => ?_⟩
  rw [same filled, adds.hollowAddition_iff here]
  exact ItemSlots.filled_add (World.filled_of_itemSlots filled adds.there)

/-- An instruction that succeeds leaves a filled world filled, unless it is a hollow addition. -/
theorem Calls.filled (standard : r.registry = Op.standard) (calls : r.Calls u t)
    (filled : u.world.Filled) : t.world.Filled ↔ ¬ u.HollowAddition r.config := by
  -- The three handlers that write slots are opened; of all others it is enough to know the effect.
  have calls' := calls
  obtain ⟨opcode, there, done⟩ := calls
  by_cases add : opcode = Opcode.invAdd.id
  · subst add
    rw [dispatch_of_listed standard Op.Inventory.table_listed (Op.mem_of_lookup .invAdd rfl)] at done
    obtain ⟨pid, inv, obj, count, type, slots, adds, -⟩ := Op.invAdd_adds done
    obtain ⟨t', calls'', -, same⟩ := calls_of_adds standard there adds
    cases calls'.unique calls''
    exact same filled
  · refine iff_of_true ?_ (Scene.not_hollowAddition there add)
    by_cases clear : opcode = Opcode.invClear.id
    · subst clear
      rw [dispatch_of_listed standard Op.Inventory.table_listed (Op.mem_of_lookup .invClear rfl)] at done
      exact (Op.invClear_rewrites done).filled (fun _ => List.length_map _)
        (fun slots _ => ItemSlots.filled_cleared slots) filled
    · by_cases del : opcode = Opcode.invDel.id
      · subst del
        rw [dispatch_of_listed standard Op.Inventory.table_listed (Op.mem_of_lookup .invDel rfl)] at done
        obtain ⟨obj, count, rewrites⟩ := Op.invDel_rewrites done
        exact rewrites.filled (ItemSlots.length_remove obj count)
          (fun _ => ItemSlots.filled_remove obj count) filled
      · obtain ⟨o, rfl, effect⟩ := (r.dispatch_ends standard opcode u).of_ok done
        have same := effect.inventory? (fun h => add (congrArg _ h)) (fun h => clear (congrArg _ h))
          (fun h => del (congrArg _ h))
        exact (World.filled_congr same).2 filled

/-- An instruction that fails leaves the world, and is no hollow addition. -/
theorem dispatch_fails_world (standard : r.registry = Op.standard) {opcode : Int32} {f : Fault}
    (here : u.opcode? = some opcode) (failed : r.dispatch opcode r.env u = .error f t) :
    t.world = u.world ∧ ¬ u.HollowAddition r.config := by
  constructor
  · exact ((r.dispatch_ends standard opcode u).of_error failed).1.world
  · rintro ⟨add, pid, inv, obj, count, type, slots, adds, -⟩
    obtain ⟨t', ⟨opcode', here', done⟩, -⟩ := calls_of_adds standard add adds
    cases here.symm.trans here'
    nomatch failed.symm.trans done

theorem filled_abort (s : Scene) (f : Fault) : (abort s f).world.Filled ↔ s.world.Filled := by
  have same : (abort s f).world.players = s.world.players :=
    foldl_deliver_players _ (s.note .error f.headline)
  exact World.filled_congr (World.inventory?_of_players same)

/-- The worlds of a loop are filled if and only if the first is and no instruction is a hollow addition. -/
theorem Loops.filled (standard : r.registry = Op.standard) {us : List Scene} (h : r.Loops s us e) :
    (∀ u ∈ us, u.world.Filled) ∧ (settled e).world.Filled ↔
      s.world.Filled ∧ ∀ u ∈ us, ¬ u.HollowAddition r.config := by
  induction h with
  | stopped => exact ⟨fun h => ⟨h.2, List.forall_mem_nil _⟩, fun h => ⟨List.forall_mem_nil _, h.1⟩⟩
  | @unfetched s t f _ still =>
    have same : t.world = s.world := by
      rcases still with rfl | rfl <;> rfl
    show _ ∧ (abort t f).world.Filled ↔ _
    rw [filled_abort, same]
    exact ⟨fun h => ⟨h.2, List.forall_mem_nil _⟩, fun h => ⟨List.forall_mem_nil _, h.1⟩⟩
  | @failed s t opcode f _ here failed =>
    obtain ⟨same, solid⟩ := dispatch_fails_world standard here failed
    show _ ∧ (abort t f).world.Filled ↔ _
    rw [filled_abort, same, List.forall_mem_singleton, List.forall_mem_singleton]
    exact ⟨fun h => ⟨h.1, solid⟩, fun h => ⟨h.1, h.1⟩⟩
  | @next s t us e _ calls rest ih =>
    -- Whether this instruction is hollow shows in the world from which the others start.
    rw [List.forall_mem_cons, List.forall_mem_cons, and_assoc, ih]
    refine and_congr_right fun filled => ?_
    rw [calls.filled standard filled]

/-- The same for any entries one after the other. -/
theorem story_filled (standard : r.registry = Op.standard) (flags : List (Bool × Bool)) :
    ∀ s : Scene, (∀ u ∈ r.story flags s, u.world.Filled) ∧ (r.executeAll flags s).world.Filled ↔
      s.world.Filled ∧ ∀ u ∈ r.story flags s, ¬ u.HollowAddition r.config := by
  induction flags with
  | nil =>
    intro s
    exact ⟨fun h => ⟨h.2, List.forall_mem_nil _⟩, fun h => ⟨List.forall_mem_nil _, h.1⟩⟩
  | cons flag flags ih =>
    obtain ⟨reset, benchmark⟩ := flag
    intro s
    show (∀ u ∈ r.story _ s, _) ∧ (r.executeAll flags (r.execute reset benchmark s)).world.Filled ↔ _
    by_cases admits : Admits reset s.invocation
    · have loops := r.loops (r.allowance benchmark (started reset benchmark s).invocation)
        (started reset benchmark s)
      rw [story_of_admits admits, List.forall_mem_append, List.forall_mem_append, and_assoc, ih,
        ← and_assoc, ← and_assoc, r.execute_eq admits, loops.filled standard]
      rfl
    · have same : (r.execute reset benchmark s).world = s.world := by
        rcases refused_of_not_admits admits with unnamed | ⟨named, rfl, terminal⟩
        · rw [r.execute_unnamed unnamed]
        · rw [r.execute_terminal named terminal]
          rfl
      rw [story_of_refused admits, ih, same]

/-- Over any entries, no inventory has an empty stack where an instruction is called or at the end, if and
    only if none has one at the start and no addition is hollow.  An addition of nothing leaves the slots
    as they were if and only if it is not hollow. -/
theorem inventories_filled_iff (library : Library) (config : Config) (budget : Option UInt32)
    (flags : List (Bool × Bool)) (s : Scene) :
    let r := Runner.standard library config budget
    ((∀ u ∈ r.story flags s, u.world.Filled) ∧ (r.executeAll flags s).world.Filled ↔
      s.world.Filled ∧ ∀ u ∈ r.story flags s, ¬ u.HollowAddition config) ∧
    ∀ u pid inv obj count type slots, u.opcode? = some Opcode.invAdd.id →
      u.Adds config pid inv obj count type slots → count ≤ 0 →
      ∃ t, r.Calls u t ∧
        (t.world.itemSlots pid inv = .ok slots ↔ ¬ slots.Hollow type.stackable obj count) := by
  intro r
  have standard : r.registry = Op.standard := standard_registry library config budget
  refine ⟨story_filled standard flags s, ?_⟩
  intro u pid inv obj count type slots here adds nothing
  obtain ⟨t, calls, stored, -⟩ := calls_of_adds standard here adds
  refine ⟨t, calls, ?_⟩
  rw [stored, Except.ok.injEq]
  exact ItemSlots.add_eq_self nothing

/-! ## An empty stack that is put in -/

/-- A script that puts no coins into a purse. -/
def depositScript : Script :=
  ⟨1, some ⟨"deposit", "deposit.rs2", -1, [], #[], #[]⟩, 0, 0, 0, 0,
    #[Opcode.pushConstantInt.id, Opcode.pushConstantInt.id, Opcode.pushConstantInt.id, Opcode.invAdd.id,
      Opcode.leave.id], #[93, 995, 0], #[], #[]⟩

def depositLibrary : Library := (Library.ofScripts [depositScript]).toOption.getD .empty

/-- Any number of coins fits one slot. -/
def depositConfig : Config :=
  { Config.empty with objs := .ofList [(995, ⟨995, "coins", none, none, -1, false, 0, 1, true, .empty⟩)] }

/-- The owner of the purse, which has one slot. -/
def depositor (items : ItemSlots) : Player :=
  { Player.new 1 "depositor" .origin with invs := .ofList [(93, ⟨1, items⟩)] }

def depositWorld (items : ItemSlots) : World :=
  { World.empty with players := .ofList [(1, depositor items)] }

/-- The script is about the owner of the purse and has protected access. -/
def depositStart : Invocation :=
  { Invocation.new depositScript [] with
    self := some (.player ⟨1⟩), pointers := .protectedPlayer, players := ⟨some ⟨1⟩, none⟩ }

/-- A scene of the run. -/
def depositScene (pc : Int32) (opcount : UInt32) (ints : List Int32) (items : ItemSlots) : Scene :=
  ⟨{ (started false false ⟨depositStart, depositWorld [none], []⟩).invocation with pc, opcount, ints },
    depositWorld items, []⟩

/-- The scene in which the run ends. -/
def depositFinished : Scene :=
  ⟨{ (depositScene 4 5 [] [none]).invocation with execution := .finished },
    depositWorld [some ⟨995, 0⟩], []⟩

theorem execute_depositStart :
    (standard depositLibrary depositConfig none).execute false false
      ⟨depositStart, depositWorld [none], []⟩ = depositFinished := by
  obtain ⟨r, given⟩ : ∃ r, r = standard depositLibrary depositConfig none := ⟨_, rfl⟩
  have standard : r.registry = Op.standard := given ▸ standard_registry _ _ _
  rw [← given]
  have first : r.Next (depositScene (-1) 0 [] [none]) (depositScene 0 1 [93] [none]) :=
    next_of_listed standard Op.Language.table_listed (Op.mem_of_lookup .pushConstantInt rfl) rfl rfl rfl rfl
  have second : r.Next (depositScene 0 1 [93] [none]) (depositScene 1 2 [995, 93] [none]) :=
    next_of_listed standard Op.Language.table_listed (Op.mem_of_lookup .pushConstantInt rfl) rfl rfl rfl rfl
  have third : r.Next (depositScene 1 2 [995, 93] [none]) (depositScene 2 3 [0, 995, 93] [none]) :=
    next_of_listed standard Op.Language.table_listed (Op.mem_of_lookup .pushConstantInt rfl) rfl rfl rfl rfl
  have adds : r.Next (depositScene 2 3 [0, 995, 93] [none]) (depositScene 3 4 [] [some ⟨995, 0⟩]) := by
    subst given
    exact next_of_listed standard Op.Inventory.table_listed (Op.mem_of_lookup .invAdd rfl) rfl rfl rfl rfl
  have ends : r.Next (depositScene 3 4 [] [some ⟨995, 0⟩]) depositFinished :=
    next_of_listed standard Op.Language.table_listed (Op.mem_of_lookup .leave rfl) rfl rfl rfl rfl
  have budget : r.allowance false (depositScene (-1) 0 [] [none]).invocation =
      499995 + 1 + 1 + 1 + 1 + 1 := by
    subst given
    rfl
  rw [execute_eq r ⟨rfl, fun _ => rfl⟩]
  show settled (r.loop (r.allowance false (depositScene (-1) 0 [] [none]).invocation)
    (depositScene (-1) 0 [] [none])) = _
  rw [budget, loop_next first, loop_next second, loop_next third, loop_next adds, loop_next ends,
    loop_stopped (by decide)]
  rfl

/-- The scene in which no coins are put into the purse. -/
def depositCalled (slot : Option ItemStack) : Scene := advance (depositScene 2 3 [0, 995, 93] [slot])

theorem adds_depositCalled (slot : Option ItemStack) : (depositCalled slot).Adds depositConfig 1 93 995 0
    ⟨995, "coins", none, none, -1, false, 0, 1, true, .empty⟩ [slot] := by
  have same : (depositCalled slot).invocation = (depositCalled none).invocation := rfl
  refine ⟨⟨[], rfl⟩, ?_, ?_, rfl, rfl⟩
  · rw [same]
    rfl
  · rw [same]
    exact ⟨⟨1⟩, rfl, rfl⟩

/-- Putting nothing into an empty purse changes its slots, and putting nothing to five coins does not. -/
theorem inventories_filled_iff_depositCalled :
    (∃ t, (standard depositLibrary depositConfig none).Calls (depositCalled none) t ∧
      t.world.itemSlots 1 93 ≠ .ok [none]) ∧
    ∃ t, (standard depositLibrary depositConfig none).Calls (depositCalled (some ⟨995, 5⟩)) t ∧
      t.world.itemSlots 1 93 = .ok [some ⟨995, 5⟩] := by
  have nothing : (0 : Int32) ≤ 0 := Int32.le_refl 0
  constructor
  · have hollow : ItemSlots.Hollow true 995 0 [none] := ⟨rfl, nothing, nofun, .head _⟩
    obtain ⟨t, calls, kept⟩ :=
      (inventories_filled_iff depositLibrary depositConfig none [] (depositCalled none)).2
        _ _ _ _ _ _ _ rfl (adds_depositCalled _) nothing
    exact ⟨t, calls, fun same => kept.1 same hollow⟩
  · obtain ⟨t, calls, kept⟩ :=
      (inventories_filled_iff depositLibrary depositConfig none [] (depositCalled (some ⟨995, 5⟩))).2
        _ _ _ _ _ _ _ rfl (adds_depositCalled _) nothing
    exact ⟨t, calls, kept.2 fun hollow => nomatch hollow.room⟩

/-- The purse is the only inventory there is. -/
theorem filled_depositWorld {items : ItemSlots} : (depositWorld items).Filled ↔ items.Filled := by
  refine ⟨fun filled => filled 1 93 ⟨1, items⟩ rfl, fun filled pid inv i there => ?_⟩
  obtain ⟨p, player, found⟩ := Option.bind_eq_some_iff.1 there
  by_cases owner : pid = 1
  · subst owner
    cases player
    by_cases purse : inv = 93
    · subst purse
      cases found
      exact filled
    · cases (SortedMap.get?_insert_of_ne .empty _ purse).symm.trans found
  · cases (SortedMap.get?_insert_of_ne .empty _ owner).symm.trans player

/-- A filled world in which nothing is put into an empty slot is not filled afterwards. -/
theorem emptyStack_deposited :
    Library.ofScripts [depositScript] = .ok depositLibrary ∧
    Invocation.start depositScript (some (.player ⟨1⟩)) [] .protectedPlayer [] = .ok depositStart ∧
    (depositWorld [none]).Filled ∧
    ¬ ((standard depositLibrary depositConfig none).execute false false
      ⟨depositStart, depositWorld [none], []⟩).world.Filled := by
  have empty : ItemSlots.Filled [none] := ItemSlots.filled_cleared [none]
  refine ⟨rfl, rfl, filled_depositWorld.2 empty, ?_⟩
  rw [execute_depositStart]
  intro filled
  have some : (1 : Int32) ≤ 0 := filled_depositWorld.1 filled ⟨995, 0⟩ List.mem_cons_self
  exact absurd some (by decide)

end Runner

end TickScript
