import TickScript.Op.Database
import TickScript.Op.Npc

/-
  Which faults a look-up can end in.

  A fault's kind tells where it comes from.  Taking an operand, asking for a bound entity, entering a
  script, moving the position and running out of instructions have kinds of their own.  Everything that is
  looked up in the world, the config or the library, and every check that a handler makes itself, ends in
  one of the three ORDINARY kinds; so a run that ends with any other kind ended in the place for it.
-/

namespace TickScript

/-- The kinds that look-ups and the checks of single instructions end in. -/
def FaultKind.isOrdinary : FaultKind → Bool
  | runtime | entityLookupFailure | unimplementedOpcode => true
  | _ => false

theorem FaultKind.ne_budget_of_isOrdinary {k : FaultKind} (h : k.isOrdinary) :
    k ≠ .instructionBudgetExceeded := by
  rintro rfl
  nomatch h

/-- If it fails, then with an ordinary fault. -/
def Ordinary {α : Type} (x : Except Fault α) : Prop := ∀ f, x = .error f → f.kind.isOrdinary

namespace Ordinary

variable {α β : Type}

theorem ok (a : α) : Ordinary (.ok a : Except Fault α) := fun _ h => nomatch h

theorem error {f : Fault} (h : f.kind.isOrdinary) : Ordinary (.error f : Except Fault α) := by
  intro _ e
  cases e
  exact h

theorem bind {x : Except Fault α} {k : α → Except Fault β} (hx : Ordinary x)
    (hk : ∀ a, Ordinary (k a)) : Ordinary (x >>= k) := by
  cases x with
  | error f => exact error (hx f rfl)
  | ok a => exact hk a

end Ordinary

/-! ## The world -/

namespace World

variable (w : World)

theorem findPlayer_ordinary (pid : Int32) : Ordinary (w.findPlayer pid) := by
  unfold findPlayer
  split
  · exact .ok _
  · exact .error rfl

theorem findNpc_ordinary (nid : Int32) : Ordinary (w.findNpc nid) := by
  unfold findNpc
  split
  · exact .ok _
  · exact .error rfl

theorem findInventory_ordinary (p : Player) (pid inv : Int32) :
    Ordinary (findInventory p pid inv) := by
  unfold findInventory
  split
  · exact .ok _
  · exact .error rfl

theorem playerInfo_ordinary (pid : Int32) : Ordinary (w.playerInfo pid) :=
  .bind (w.findPlayer_ordinary pid) fun _ => .ok _

theorem varp_ordinary (pid var : Int32) : Ordinary (w.varp pid var) :=
  .bind (w.findPlayer_ordinary pid) fun _ => .ok _

theorem stat_ordinary (pid stat : Int32) : Ordinary (w.stat pid stat) :=
  .bind (w.findPlayer_ordinary pid) fun _ => .ok _

theorem itemSlots_ordinary (pid inv : Int32) : Ordinary (w.itemSlots pid inv) :=
  .bind (w.findPlayer_ordinary pid) fun p => .bind (findInventory_ordinary p pid inv) fun _ => .ok _

theorem npcInfo_ordinary (nid : Int32) : Ordinary (w.npcInfo nid) :=
  .bind (w.findNpc_ordinary nid) fun _ => .ok _

theorem varn_ordinary (nid var : Int32) : Ordinary (w.varn nid var) :=
  .bind (w.findNpc_ordinary nid) fun _ => .ok _

theorem npcStat_ordinary (nid stat : Int32) : Ordinary (w.npcStat nid stat) :=
  .bind (w.findNpc_ordinary nid) fun _ => .ok _

theorem playerEvent_ordinary (pid : Int32) (e : WorldEvent) : Ordinary (w.playerEvent pid e) :=
  .bind (w.findPlayer_ordinary pid) fun _ => .ok _

theorem npcEvent_ordinary (nid : Int32) (e : WorldEvent) : Ordinary (w.npcEvent nid e) :=
  .bind (w.findNpc_ordinary nid) fun _ => .ok _

theorem updatePlayer_ordinary (pid : Int32) {f : Player → Except Fault Player}
    (hf : ∀ p, Ordinary (f p)) : Ordinary (w.updatePlayer pid f) :=
  .bind (w.findPlayer_ordinary pid) fun p => .bind (hf p) fun _ => .ok _

theorem setItemSlots_ordinary (pid inv : Int32) (slots : ItemSlots) :
    Ordinary (w.setItemSlots pid inv slots) :=
  w.updatePlayer_ordinary pid fun p => .bind (findInventory_ordinary p pid inv) fun _ => .ok _

theorem updateNpc_ordinary (nid : Int32) (f : Npc → Npc) : Ordinary (w.updateNpc nid f) :=
  .bind (w.findNpc_ordinary nid) fun _ => .ok _

theorem removeLoc_ordinary (loc : Loc) (duration : Int32) : Ordinary (w.removeLoc loc duration) := by
  unfold removeLoc
  split
  · exact .ok _
  · exact .error rfl

theorem removeObj_ordinary (obj : Obj) (duration : Int32) : Ordinary (w.removeObj obj duration) := by
  unfold removeObj
  split
  · exact .ok _
  · exact .error rfl

/-- Resolving a uid does not fail at all: that the npc is gone is an answer. -/
theorem resolve_ordinary (uid : Int32) : Ordinary (Op.Npc.resolve uid w) := by
  unfold Op.Npc.resolve
  dsimp only
  split
  · exact .ok _
  next f failed =>
    split
    · exact .ok _
    · exact .error (w.npcInfo_ordinary _ f failed)

end World

/-! ## The config -/

namespace Config

variable (c : Config)

theorem entry_ordinary {α : Type} (table : ConfigTable) (m : SortedMap Int32 α) (id : Int32) :
    Ordinary (entry table m id) := by
  unfold entry
  split
  · exact .ok _
  · exact .error rfl

theorem resolveParam_ordinary (params : SortedMap Int32 Value) (id : Int32) :
    Ordinary (c.resolveParam params id) :=
  .bind (entry_ordinary _ _ _) fun _ => .ok _

theorem findColumn_ordinary (ref : Op.Database.ColumnRef) :
    Ordinary (Op.Database.findColumn ref c) := by
  refine .bind (entry_ordinary _ _ _) fun table => ?_
  split
  · exact .ok _
  · exact .error rfl

theorem findRow_ordinary (ref : Op.Database.ColumnRef) (id : Int32) :
    Ordinary (Op.Database.findRow ref id c) := by
  refine .bind (entry_ordinary _ _ _) fun row => ?_
  split
  · exact .ok _
  · exact .error rfl

end Config

/-! ## The library -/

theorem Library.require_ordinary (l : Library) (id : Int32) : Ordinary (l.require id) := by
  unfold Library.require
  split
  · exact .ok _
  · exact .error rfl

end TickScript
