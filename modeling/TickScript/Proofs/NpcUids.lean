import TickScript.Proofs.Bindings
import TickScript.Proofs.Packing
import TickScript.Proofs.Protection
import TickScript.Proofs.Success

/-
  What a uid resolves to.

  A script keeps an npc across its waits as a uid, and looks for the npc again by it.  In between the npc
  may have gone, or have become one of another type.  Looking for it never fails: the slot is bound to that
  npc, or else it is cleared, and the answer and the permission say which.

    World.sought             the npc, if the world holds it and it is still of that type
    Scene.Rebinds            what looking for an npc does to a scene
    npcFinduid_rebinds       it does this to every scene with an int on its stack
    uids_resolve             and a uid that was made of an npc leads to this npc or to none
-/

namespace TickScript

/-! ## What the world holds -/

/-- The world holds an npc of that number, and at the moment it is of that type. -/
def World.Holds (w : World) (npc : NpcRef) : Prop :=
  ∃ n, w.npcs.get? npc.nid = some n ∧ n.typeId = npc.typeId

/-- `w.Finds npc found`: `found` is the npc if the world holds it, and otherwise it is none. -/
structure World.Finds (w : World) (npc : NpcRef) (found : Option NpcRef) : Prop where
  held : w.Holds npc → found = some npc
  gone : ¬ w.Holds npc → found = none

/-- The look-up of a uid does not fail, and finds what the uid stands for. -/
theorem Op.Npc.resolve_finds (uid : Int32) (w : World) :
    ∃ found, resolve uid w = .ok found ∧ w.Finds (.ofUid uid) found := by
  unfold resolve World.npcInfo World.findNpc
  dsimp only
  cases there : w.npcs.get? (NpcRef.ofUid uid).nid with
  | none =>
    refine ⟨none, rfl, ?_, fun _ => rfl⟩
    rintro ⟨n, held, -⟩
    nomatch there.symm.trans held
  | some n =>
    by_cases same : n.typeId = (NpcRef.ofUid uid).typeId
    · refine ⟨some ⟨(NpcRef.ofUid uid).nid, n.typeId⟩, congrArg Except.ok (if_pos same), ?_, ?_⟩
      · intro _
        rw [same]
      · exact fun gone => absurd ⟨n, there, same⟩ gone
    · refine ⟨none, congrArg Except.ok (if_neg same), ?_, fun _ => rfl⟩
      rintro ⟨m, held, type⟩
      cases there.symm.trans held
      exact absurd type same

/-! ## Looking for an npc -/

/-- `s.Rebinds slot rest found t`: the slot is bound to what was found, or cleared.  The answer, put on the
    rest of the int stack, and the permission for the slot say which; nothing else changes, apart from
    remarks. -/
structure Scene.Rebinds (s : Scene) (slot : Slot) (rest : List Int32) (found : Option NpcRef)
    (t : Scene) : Prop where
  answer : t.invocation.ints = (if found.isSome then 1 else 0) :: rest
  bound : t.invocation.npcs.get slot = found
  permission : t.invocation.pointers.includes (.npc slot) = found.isSome
  otherSlot : ∀ slot', slot' ≠ slot →
    t.invocation.npcs.get slot' = s.invocation.npcs.get slot'
  otherPermissions :
    t.invocation.pointers.without (.npc slot) = s.invocation.pointers.without (.npc slot)
  invocation : t.invocation = { s.invocation with
    ints := t.invocation.ints, npcs := t.invocation.npcs, pointers := t.invocation.pointers }
  world : t.world = s.world

namespace Pointers

theorem includes_npc_grant (p : Pointers) (slot : Slot) :
    (p.union (.npc slot)).includes (.npc slot) := by
  show (p.union (Permission.npc.pointer slot)).includes (Permission.npc.pointer slot) = true
  rw [includes_union, includes_pointer, decide_eq_true ⟨rfl, rfl⟩, Bool.or_true]

theorem includes_npc_revoke (p : Pointers) (slot : Slot) :
    (p.without (.npc slot)).includes (.npc slot) = false := by
  show (p.without (Permission.npc.pointer slot)).includes (Permission.npc.pointer slot) = false
  rw [includes_without, includes_pointer, decide_eq_true ⟨rfl, rfl⟩, Bool.not_true, Bool.and_false]

theorem without_npc_grant (p : Pointers) (slot : Slot) :
    (p.union (.npc slot)).without (.npc slot) = p.without (.npc slot) :=
  p.without_union _ _ (by cases slot <;> decide)

theorem without_npc_revoke (p : Pointers) (slot : Slot) :
    (p.without (.npc slot)).without (.npc slot) = p.without (.npc slot) :=
  p.without_without _ _ (by cases slot <;> decide)

end Pointers

namespace Op.Npc

variable (env : Env) {s : Scene}

/-- With an int on the stack, looking for the npc that it stands for succeeds. -/
theorem npcFinduid_rebinds {uid : Int32} {rest : List Int32}
    (ints : s.invocation.ints = uid :: rest) :
    ∃ t, npcFinduid env s = .ok () t ∧ ∃ found, s.world.Finds (.ofUid uid) found ∧
      s.Rebinds s.invocation.selectedSlot rest found t := by
  obtain ⟨found, resolved, finds⟩ := resolve_finds uid s.world
  unfold npcFinduid
  refine exists_bind_eq_ok (popInt_eq_ok.2 ⟨rest, ints, rfl⟩) ?_
  refine exists_bind_eq_ok rfl ?_
  refine exists_bind_eq_ok (observe_eq_ok.2 ⟨rfl, resolved⟩) ?_
  cases found with
  | some npc =>
    refine ⟨_, rfl, some npc, finds, rfl, ?_, ?_, ?_, ?_, rfl, rfl⟩
    · exact Slots.get_set_self _ _ _
    · exact Pointers.includes_npc_grant _ _
    · exact fun _ => Slots.get_set_of_ne _ _
    · exact Pointers.without_npc_grant _ _
  | none =>
    refine ⟨_, rfl, none, finds, rfl, ?_, ?_, ?_, ?_, rfl, rfl⟩
    · exact Slots.get_set_self _ _ _
    · exact Pointers.includes_npc_revoke _ _
    · exact fun _ => Slots.get_set_of_ne _ _
    · exact Pointers.without_npc_revoke _ _

/-- The uid of a bound npc is pushed, if the permission is granted. -/
theorem npcUid_pushes {npc : NpcRef}
    (permitted : s.invocation.pointers.includes (.npc s.invocation.selectedSlot))
    (bound : s.invocation.npcs.get s.invocation.selectedSlot = some npc) :
    npcUid env s = .ok () { s with invocation :=
      { s.invocation with ints := npc.uid :: s.invocation.ints } } :=
  bind_of_ok (requireNpc_eq_ok.2 ⟨rfl, permitted, bound⟩)

end Op.Npc

/-! ## Uids -/

namespace Runner

/-- With an int on the stack, looking for an npc never fails.  The npc is the one whose number stands in
    the low half of the int and whose type stands in the high half, and it is found exactly if the world
    holds it.

    So let the uid of an npc be taken whose number and type fit into the two halves.  Wherever the npc is
    looked for by that uid, whatever has become of the world in between, it is found if the world still
    holds it with that type, and otherwise none is. -/
theorem uids_resolve (library : Library) (config : Config) (budget : Option UInt32) :
    let r := Runner.standard library config budget
    (∀ u uid rest, u.opcode? = some Opcode.npcFinduid.id → u.invocation.ints = uid :: rest →
      ∃ t, r.Calls u t ∧
        ∃ found, u.world.Finds ⟨uid &&& 0xffff, (uid >>> 16) &&& 0xffff⟩ found ∧
          u.Rebinds u.invocation.selectedSlot rest found t) ∧
    (∀ s npc, s.opcode? = some Opcode.npcUid.id →
      s.invocation.pointers.includes (.npc s.invocation.selectedSlot) →
      s.invocation.npcs.get s.invocation.selectedSlot = some npc → npc.Fits →
      ∃ t uid, r.Calls s t ∧ t.invocation.ints = uid :: s.invocation.ints ∧
        ∀ u rest, u.opcode? = some Opcode.npcFinduid.id → u.invocation.ints = uid :: rest →
          ∃ t', r.Calls u t' ∧ ∃ found, u.world.Finds npc found ∧
            u.Rebinds u.invocation.selectedSlot rest found t') := by
  intro r
  have standard : r.registry = Op.standard := standard_registry library config budget
  have rebinds : ∀ u uid rest, u.opcode? = some Opcode.npcFinduid.id →
      u.invocation.ints = uid :: rest → ∃ t, r.Calls u t ∧
        ∃ found, u.world.Finds (.ofUid uid) found ∧
          u.Rebinds u.invocation.selectedSlot rest found t := by
    intro u uid rest here ints
    obtain ⟨t, done, found⟩ := Op.Npc.npcFinduid_rebinds r.env ints
    have calls : r.Calls u t :=
      calls_of_listed standard Op.Npc.table_listed (Op.mem_of_lookup .npcFinduid rfl) here done
    exact ⟨t, calls, found⟩
  refine ⟨rebinds, fun s npc here permitted bound fits => ?_⟩
  have pushes := Op.Npc.npcUid_pushes r.env permitted bound
  have calls := calls_of_listed standard Op.Npc.table_listed (Op.mem_of_lookup .npcUid rfl) here pushes
  refine ⟨_, npc.uid, calls, rfl, fun u rest there ints => ?_⟩
  have again := rebinds u npc.uid rest there ints
  rw [NpcRef.ofUid_uid fits] at again
  exact again

/-! ## A type that reaches into the sign bit -/

/-- Tells the uid of the npc in the primary slot, and looks by it for an npc for the secondary one. -/
def trackScript : Script :=
  ⟨1, some ⟨"track", "track.rs2", -1, [], #[], #[]⟩, 0, 0, 0, 0,
    #[Opcode.npcUid.id, Opcode.npcFinduid.id], #[0, 1], #[], #[]⟩

/-- A scene at one of the two instructions, with an npc of type 40000 bound. -/
def trackScene (pc : Int32) (ints : List Int32) (npcs : SortedMap Int32 Npc) : Scene :=
  ⟨{ Invocation.new trackScript [] with
      execution := .running, pc, ints, pointers := .activeNpc, npcs := ⟨some ⟨7, 40000⟩, none⟩ },
    { World.empty with npcs }, []⟩

/-- The npc is found while it is in the world, and not once it is gone. -/
theorem uids_resolve_trackScript :
    let r := Runner.standard .empty .empty none
    let present := SortedMap.ofList [(7, Npc.new 7 40000 .origin)]
    ∃ t uid, r.Calls (trackScene 0 [] present) t ∧ t.invocation.ints = [uid] ∧
      (∃ t', r.Calls (trackScene 1 [uid] present) t' ∧
        t'.invocation.ints = [1] ∧ t'.invocation.npcs.get .secondary = some ⟨7, 40000⟩) ∧
      (∃ t', r.Calls (trackScene 1 [uid] .empty) t' ∧
        t'.invocation.ints = [0] ∧ t'.invocation.npcs.get .secondary = none) := by
  intro r present
  have fits : (⟨7, 40000⟩ : NpcRef).Fits := ⟨by decide, by decide⟩
  obtain ⟨t, uid, calls, pushed, again⟩ := (uids_resolve .empty .empty none).2
    (trackScene 0 [] present) ⟨7, 40000⟩ rfl (by decide) rfl fits
  refine ⟨t, uid, calls, pushed, ?_, ?_⟩
  · obtain ⟨t', calls', found, finds, rebinds⟩ := again (trackScene 1 [uid] present) [] rfl rfl
    obtain rfl := finds.held ⟨Npc.new 7 40000 .origin, rfl, rfl⟩
    exact ⟨t', calls', rebinds.answer, rebinds.bound⟩
  · obtain ⟨t', calls', found, finds, rebinds⟩ := again (trackScene 1 [uid] .empty) [] rfl rfl
    obtain rfl := finds.gone fun ⟨_, held, _⟩ => nomatch held
    exact ⟨t', calls', rebinds.answer, rebinds.bound⟩

end Runner

end TickScript
