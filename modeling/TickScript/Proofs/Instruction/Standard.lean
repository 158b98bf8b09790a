import Mathlib.Tactic.FinCases
import TickScript.Proofs.Instruction
import TickScript.Proofs.Loading

/-
  Every instruction of the standard registry has the shape of an instruction.

  Each table of handlers is walked once; a handler's derivation repeats the steps of its definition, and
  the last step names its effect.  Nothing later looks at a handler again: `handler?_standard` says that
  what the registry finds under a number is the entry of some table, and hence an `Instruction` of an
  opcode with that number.
-/

namespace TickScript.Op

variable {g : Int32 → Prop}

/-- A table is walked entry by entry. -/
theorem Instruction.cons {o : Opcode} {h : Handler} {rest : List (Opcode × Handler)}
    (head : Instruction o g h) (tail : ∀ e ∈ rest, Instruction e.1 g e.2) :
    ∀ e ∈ (o, h) :: rest, Instruction e.1 g e.2 :=
  List.forall_mem_cons.2 ⟨head, tail⟩

/-! ## The language -/

namespace Language

theorem varOperand_quiet : Quiet varOperand := .bind .intOperand fun _ => .pure _

theorem index_quiet : Quiet index := .bind .intOperand fun _ => .orFail rfl _

theorem branchIf_instruction {o : Opcode} (taken : Int32 → Int32 → Bool) :
    Instruction o g (branchIf taken) := by
  refine .bind .popInt fun b => .bind .popInt fun a => ?_
  split
  · exact .bind .intOperand fun offset => .branchBy offset
  · exact .quiet (.pure ())

theorem switch_instruction {o : Opcode} : Instruction o g switch := by
  refine .bind .popInt fun key => .bind .intOperand fun index => ?_
  refine .bind (.current fun s _ => s.switchTable? index) fun table => ?_
  refine .bind (.orFail rfl table) fun table => ?_
  split
  · exact .branchBy _
  · exact .quiet (.pure ())

/-- The permission that is checked is the one for the slot that is written. -/
theorem popVarp_instruction : Instruction .popVarp g popVarp := by
  refine .bind varOperand_quiet fun (var, slot) => ?_
  refine .withProtected slot fun player => .bind .popInt fun value => ?_
  exact .effect (.setVarp player.pid var value) (fun pid e => .inl (Option.some.inj e).symm) (.head _)

theorem pushLocal_quiet {α : Type} {f : Invocation → List α} (sort : ValueSort)
    (h : ∀ i j, i.view = j.view → f i = f j) {push : α → Op Unit} (hp : ∀ a, Quiet (push a)) :
    Quiet (do
      let index ← index
      push (← orFail (.localUnset sort index) (← ask fun i => (f i)[index]?))) :=
  .bind index_quiet fun index =>
    .bind (.ask fun i j e => by rw [h i j e]) fun _ => .bind (.orFail rfl _) hp

theorem table_instruction : ∀ e ∈ table, Instruction e.1 g e.2 := by
  unfold table
  refine .cons (.quiet (.bind .intOperand .pushInt)) ?_
  refine .cons (.quiet (.bind varOperand_quiet fun (_, slot) =>
    .bind (.player slot) fun _ => .bind (.varp _ _) .pushInt)) ?_
  refine .cons popVarp_instruction ?_
  refine .cons (.quiet (.bind .stringOperand .pushString)) ?_
  refine .cons (.quiet (.bind varOperand_quiet fun (_, slot) =>
    .bind (.npc slot) fun _ => .bind (.varn _ _) .pushInt)) ?_
  refine .cons (.bind varOperand_quiet fun (var, slot) => .bind (.npc slot) fun npc =>
    .bind .popInt fun value => .effectOnOthers (.setVarn npc.nid var value) rfl (.head _)) ?_
  refine .cons (.bind .intOperand .branchBy) ?_
  refine .cons (branchIf_instruction _) ?_
  refine .cons (branchIf_instruction _) ?_
  refine .cons (branchIf_instruction _) ?_
  refine .cons (branchIf_instruction _) ?_
  refine .cons .leave ?_
  refine .cons .gosub ?_
  refine .cons .jump ?_
  refine .cons switch_instruction ?_
  refine .cons (branchIf_instruction _) ?_
  refine .cons (branchIf_instruction _) ?_
  refine .cons (.quiet (pushLocal_quiet .int (fun i j h => congrArg (·.2.2.1) h) .pushInt)) ?_
  refine .cons .popIntLocal ?_
  refine .cons
    (.quiet (pushLocal_quiet .string (fun i j h => congrArg (·.2.2.2.1) h) .pushString)) ?_
  refine .cons .popStringLocal ?_
  refine .cons (.quiet (.bind index_quiet fun n => .bind (.popStrings n) fun _ => .pushString _)) ?_
  refine .cons (.quiet (.bind .popInt fun _ => .pure ())) ?_
  refine .cons (.quiet (.bind .popString fun _ => .pure ())) ?_
  refine .cons .gosubWithParams ?_
  refine .cons .jumpWithParams ?_
  exact List.forall_mem_nil _

end Language

/-! ## Instructions that only compute -/

theorem Surroundings.table_instruction : ∀ e ∈ Surroundings.table, Instruction e.1 g e.2 := by
  unfold Surroundings.table
  refine .cons (.quiet (.bind (.observe (fun _ => .ok _) fun _ _ => rfl) .pushInt)) ?_
  refine .cons (.quiet (.bind (.observe (fun _ => .ok _) fun _ _ => rfl) .pushBool)) ?_
  refine .cons (.quiet (.bind (.observe (fun _ => .ok _) fun _ _ => rfl) .pushInt)) ?_
  refine .cons (.quiet (.bind .popCoord fun _ => .pushInt _)) ?_
  refine .cons (.quiet (.bind .popCoord fun _ => .pushInt _)) ?_
  refine .cons (.quiet (.bind .popCoord fun _ => .pushInt _)) ?_
  refine .cons (.quiet (.bind .popInt4 fun _ => .pushInt _)) ?_
  refine .cons (.quiet (.bind .popCoord fun _ => .bind .popCoord fun _ => .pushInt _)) ?_
  refine .cons
    (.bind .popInt fun ticks => .suspend _ _ rfl rfl (fun h => nomatch h) (by decide)) ?_
  refine .cons (.quiet (.bind .popCoord fun _ =>
    .bind .popCoord fun _ => .bind .popCoord fun _ => .pushBool _)) ?_
  refine .cons (.quiet .unimplemented) ?_
  refine .cons (.quiet .unimplemented) ?_
  refine .cons (.quiet .unimplemented) ?_
  exact List.forall_mem_nil _

namespace Text

theorem popPair_quiet : Quiet popPair :=
  .bind .popString fun _ => .bind .popString fun _ => .pure _

theorem popChar_quiet : Quiet popChar := .bind .popInt fun _ => .orFail rfl _

theorem table_instruction : ∀ e ∈ table, Instruction e.1 g e.2 := by
  unfold table
  refine .cons (.quiet (.bind popPair_quiet fun _ => .pushString _)) ?_
  refine .cons (.quiet (.bind popChar_quiet fun _ => .bind .popString fun _ =>
    .pushString _)) ?_
  refine .cons (.quiet (.bind .popInt fun _ => .bind .popString fun _ => .pushString _)) ?_
  refine .cons (.quiet (.bind .popInt fun _ => .bind .popString fun _ => .pushString _)) ?_
  refine .cons (.quiet (.bind popPair_quiet fun _ => .pushInt _)) ?_
  refine .cons (.quiet (.bind .popString fun _ => .pushString _)) ?_
  refine .cons (.quiet (.bind popChar_quiet fun _ => .bind .popString fun _ =>
    .pushInt _)) ?_
  refine .cons (.quiet (.bind popPair_quiet fun _ => .pushInt _)) ?_
  refine .cons (.quiet (.bind .popString fun _ => .pushInt _)) ?_
  refine .cons (.quiet (.bind .popInt2 fun _ => .bind .popString fun _ =>
    .pushString _)) ?_
  refine .cons (.quiet (.bind .popInt fun _ => .pushString _)) ?_
  exact List.forall_mem_nil _

end Text

namespace Number

theorem binary_quiet (f : Int32 → Int32 → Int32) : Quiet (binary f) :=
  .bind .popInt2 fun _ => .pushInt _

theorem partialBinary_quiet (f : Int32 → Int32 → Option Int32) {fault : Int32 → Int32 → Fault}
    (h : ∀ a b, (fault a b).kind.isOrdinary) : Quiet (partialBinary f fault) :=
  .bind .popInt2 fun _ => .bind (.orFail (h _ _) _) .pushInt

theorem table_instruction : ∀ e ∈ table, Instruction e.1 g e.2 := by
  unfold table
  refine .cons (.quiet (binary_quiet _)) ?_
  refine .cons (.quiet (binary_quiet _)) ?_
  refine .cons (.quiet (binary_quiet _)) ?_
  refine .cons (.quiet (partialBinary_quiet _ fun _ _ => rfl)) ?_
  refine .cons (.quiet (partialBinary_quiet _ fun _ _ => rfl)) ?_
  refine .cons (.bind .popInt .random) ?_
  refine .cons (.bind .popInt fun _ => .random _) ?_
  refine .cons (.quiet (.bind .popInt5 fun _ => .bind (.orFail rfl _) .pushInt)) ?_
  refine .cons (.quiet (binary_quiet _)) ?_
  refine .cons (.quiet (partialBinary_quiet _ fun _ _ => rfl)) ?_
  refine .cons (.quiet (partialBinary_quiet _ fun _ _ => rfl)) ?_
  refine .cons (.quiet (partialBinary_quiet _ fun _ _ => rfl)) ?_
  refine .cons (.quiet (partialBinary_quiet _ fun _ _ => rfl)) ?_
  refine .cons (.quiet (partialBinary_quiet _ fun _ _ => rfl)) ?_
  refine .cons (.quiet (partialBinary_quiet _ fun _ _ => rfl)) ?_
  refine .cons (.quiet (binary_quiet _)) ?_
  refine .cons (.quiet (binary_quiet _)) ?_
  refine .cons (.quiet (binary_quiet _)) ?_
  refine .cons (.quiet (binary_quiet _)) ?_
  refine .cons (.quiet (.bind .popInt3 fun _ => .bind (.orFail rfl _) .pushInt)) ?_
  refine .cons (.quiet (.bind .popInt fun _ => .pushInt _)) ?_
  refine .cons (.quiet (.bind .popInt fun _ => .pushInt _)) ?_
  exact List.forall_mem_nil _

end Number

namespace TypeInfo

theorem popType_quiet {α : Type} {table : Config → Int32 → Except Fault α}
    (h : ∀ c id, Ordinary (table c id)) : Quiet (popType table) :=
  .bind .popInt fun _ => .fromConfig fun c => h c _

section

variable {table : Config → Int32 → Except Fault EntityType} (h : ∀ c id, Ordinary (table c id))

include h

theorem category_quiet : Quiet (category table) :=
  .bind (popType_quiet h) fun _ => .pushInt _

theorem debugname_quiet : Quiet (debugname table) :=
  .bind (popType_quiet h) fun _ => .pushString _

theorem desc_quiet : Quiet (desc table) :=
  .bind (popType_quiet h) fun _ => .pushName _

theorem name_quiet : Quiet (name table) :=
  .bind (popType_quiet h) fun _ => .pushName _

theorem param_quiet : Quiet (param table) :=
  .bind .popInt2 fun _ => .bind (.fromConfig fun c => h c _) fun _ =>
    .bind (.resolveParam _ _) fun _ => .pushTyped _ _

end

theorem npc_ordinary (c : Config) (id : Int32) : Ordinary (c.npc id) := Config.entry_ordinary _ _ _

theorem loc_ordinary (c : Config) (id : Int32) : Ordinary (c.loc id) := Config.entry_ordinary _ _ _

theorem obj_ordinary (c : Config) (id : Int32) : Ordinary (c.obj id) := Config.entry_ordinary _ _ _

theorem enum_ordinary (c : Config) (id : Int32) : Ordinary (c.enum id) := Config.entry_ordinary _ _ _

theorem pushOfObj_quiet (f : ObjType → Int32) : Quiet (pushOfObj f) :=
  .bind (popType_quiet obj_ordinary) fun _ => .pushInt _

theorem enum_quiet : Quiet enum := by
  refine .bind .popInt4 fun (input, output, id, key) => ?_
  refine .bind (.fromConfig fun c => enum_ordinary c id) fun e => ?_
  split
  · exact .pushTyped _ _
  · exact .fail rfl

theorem npcTable_instruction : ∀ e ∈ npcTable, Instruction e.1 g e.2 := by
  unfold npcTable
  refine .cons (.quiet (category_quiet npc_ordinary)) ?_
  refine .cons (.quiet (debugname_quiet npc_ordinary)) ?_
  refine .cons (.quiet (desc_quiet npc_ordinary)) ?_
  refine .cons (.quiet (name_quiet npc_ordinary)) ?_
  refine .cons (.quiet (param_quiet npc_ordinary)) ?_
  exact List.forall_mem_nil _

theorem locTable_instruction : ∀ e ∈ locTable, Instruction e.1 g e.2 := by
  unfold locTable
  refine .cons (.quiet (category_quiet loc_ordinary)) ?_
  refine .cons (.quiet (debugname_quiet loc_ordinary)) ?_
  refine .cons (.quiet (desc_quiet loc_ordinary)) ?_
  refine .cons (.quiet (name_quiet loc_ordinary)) ?_
  refine .cons (.quiet (param_quiet loc_ordinary)) ?_
  exact List.forall_mem_nil _

theorem objTable_instruction : ∀ e ∈ objTable, Instruction e.1 g e.2 := by
  unfold objTable
  refine .cons (.quiet (pushOfObj_quiet _)) ?_
  refine .cons (.quiet (pushOfObj_quiet _)) ?_
  refine .cons (.quiet (.bind (popType_quiet obj_ordinary) fun _ => .pushString _)) ?_
  refine .cons (.quiet (.bind (popType_quiet obj_ordinary) fun _ => .pushName _)) ?_
  refine .cons (.quiet (pushOfObj_quiet _)) ?_
  refine .cons (.quiet (.bind (popType_quiet obj_ordinary) fun _ => .pushName _)) ?_
  refine .cons (.quiet (.bind .popInt2 fun _ => .bind (.objType _) fun _ =>
    .bind (.resolveParam _ _) fun _ => .pushTyped _ _)) ?_
  refine .cons (.quiet (pushOfObj_quiet _)) ?_
  refine .cons (.quiet (pushOfObj_quiet _)) ?_
  exact List.forall_mem_nil _

theorem enumTable_instruction : ∀ e ∈ enumTable, Instruction e.1 g e.2 := by
  unfold enumTable
  refine .cons (.quiet enum_quiet) ?_
  refine .cons (.quiet (.bind (popType_quiet enum_ordinary) fun _ => .pushInt _)) ?_
  exact List.forall_mem_nil _

end TypeInfo

/-! ## Players -/

namespace Player

/-- Instructions that look up the player of the selected slot, answer or leave an event. -/
theorem onPlayer {o : Opcode} {k : PlayerRef → Handler} (h : ∀ p, Instruction o g (k p)) :
    Instruction o g (requirePlayer >>= k) :=
  .bind .requirePlayer h

/-- A wait with the player asks for protected access first. -/
theorem wait_instruction {o : Opcode} (execution : Execution) (delay : Option Int32)
    (h : execution.isSuspended) (timed : delay.isSome = execution.isTimedWait)
    (ho : o ∈ Opcode.waiting) :
    Instruction o g (do
      let _ ← requireProtectedPlayer
      suspend execution delay) :=
  .withSelected fun p => .suspend execution delay h timed (fun _ => ⟨p.pid, .inl rfl⟩) ho

theorem table_instruction : ∀ e ∈ table, Instruction e.1 g e.2 := by
  unfold table
  refine .cons (.bind .popString fun text => onPlayer fun p =>
    .effectOnOthers (.message p.pid text) rfl (.head _)) ?_
  refine .cons (.bind .popInt fun ticks => wait_instruction _ _ rfl rfl (by decide)) ?_
  refine .cons (wait_instruction _ _ rfl rfl (by decide)) ?_
  refine .cons (wait_instruction _ _ rfl rfl (by decide)) ?_
  refine .cons (.quiet (.bind (.ask fun i j h => congrArg (·.2.2.2.2.1) h) .pushInt)) ?_
  refine .cons (onPlayer fun _ => .quiet (.bind (.playerInfo _) fun _ => .pushInt _)) ?_
  refine .cons (onPlayer fun _ => .quiet (.bind (.playerInfo _) fun _ => .pushString _)) ?_
  refine .cons (onPlayer fun _ => .quiet (.pushInt _)) ?_
  refine .cons (.bind .popCoord fun coord => .withSelected fun p =>
    .effect (.teleport p.pid coord) (fun pid e => .inl (Option.some.inj e).symm) (.head _)) ?_
  refine .cons (.bind .popInt fun _ => onPlayer fun _ =>
    .quiet (.bind (.stat _ _) fun _ => .pushInt _)) ?_
  refine .cons (.bind .popInt fun _ => onPlayer fun _ =>
    .quiet (.bind (.stat _ _) fun _ => .pushInt _)) ?_
  refine .cons (.bind .popInt2 fun (stat, xp) => .withSelected fun p =>
    .effect (.giveXp p.pid stat xp) (fun pid e => .inl (Option.some.inj e).symm) (.head _)) ?_
  refine .cons (.bind .popInt2 fun (seq, delay) => onPlayer fun p =>
    .effectOnOthers (.playerAnim p.pid seq delay) rfl (.head _)) ?_
  refine .cons (.bind .popString fun text => onPlayer fun p =>
    .effectOnOthers (.playerSay p.pid text) rfl (.head _)) ?_
  refine .cons (.bind .popInt2 fun (script, delay) => onPlayer fun p =>
    .bind (.script _) fun target =>
      .effectOnOthers (.queuePlayerScript p.pid target.id delay) rfl (.head _)) ?_
  refine .cons (.quiet .unimplemented) ?_
  refine .cons (.quiet .unimplemented) ?_
  exact List.forall_mem_nil _

end Player

/-! ## Npcs -/

namespace Npc

theorem onNpc {o : Opcode} {k : NpcRef → Handler} (h : ∀ n, Instruction o g (k n)) :
    Instruction o g (requireNpc >>= k) :=
  .bind .requireNpc h

theorem npcQueue_instruction : Instruction .npcQueue g npcQueue := by
  refine .bind .popInt2 fun (queue, delay) => .bind (.orFail rfl _) fun trigger => ?_
  refine onNpc fun n => .bind (.npcType _) fun type => ?_
  refine .bind (.fromLibrary fun _ => .ok _) fun found => ?_
  split
  next script => exact .effectOnOthers (.queueNpcScript n.nid script.id delay) rfl (.head _)
  next => exact .quiet (.pure ())

theorem table_instruction : ∀ e ∈ table, Instruction e.1 g e.2 := by
  unfold table
  refine .cons .npcFinduid ?_
  refine .cons (.quiet .unimplemented) ?_
  refine .cons (.bind .popInt2 fun (seq, delay) => onNpc fun n =>
    .effectOnOthers (.npcAnim n.nid seq delay) rfl (.head _)) ?_
  refine .cons (.bind .popInt fun _ => onNpc fun _ =>
    .quiet (.bind (.npcStat _ _) fun _ => .pushInt _)) ?_
  refine .cons (onNpc fun _ => .quiet (.bind (.npcType _) fun _ => .pushInt _)) ?_
  refine .cons (onNpc fun _ => .quiet (.bind (.npcInfo _) fun _ => .pushInt _)) ?_
  refine .cons (onNpc fun n => .effectOnOthers (.npcRemove n.nid) rfl (.head _)) ?_
  refine .cons (.bind .popInt fun ticks => onNpc fun _ =>
    .suspend _ _ rfl rfl (fun h => nomatch h) (by decide)) ?_
  refine .cons (.quiet .unimplemented) ?_
  refine .cons (.quiet .unimplemented) ?_
  refine .cons (onNpc fun _ => .quiet (.bind (.npcInfo _) fun _ => .pushInt _)) ?_
  refine .cons (.bind .popInt fun _ => onNpc fun _ => .quiet (.bind (.npcType _) fun _ =>
    .bind (.resolveParam _ _) fun _ => .pushTyped _ _)) ?_
  refine .cons npcQueue_instruction ?_
  refine .cons (.bind .popCoord fun _ => onNpc fun _ =>
    .quiet (.bind (.npcInfo _) fun _ => .pushInt _)) ?_
  refine .cons (.bind .popString fun text => onNpc fun n =>
    .effectOnOthers (.npcSay n.nid text) rfl (.head _)) ?_
  refine .cons (.quiet .unimplemented) ?_
  refine .cons (.quiet .unimplemented) ?_
  refine .cons (.quiet .unimplemented) ?_
  refine .cons (.bind .popInt fun _ => onNpc fun _ =>
    .quiet (.bind (.npcStat _ _) fun _ => .pushInt _)) ?_
  refine .cons (.quiet .unimplemented) ?_
  refine .cons (onNpc fun _ => .quiet (.pushInt _)) ?_
  refine .cons (.bind .popInt2 fun (damageType, amount) => onNpc fun n =>
    .credited (.inl rfl) fun source =>
      .effectOnOthers (.npcDamage n.nid damageType amount source) rfl (.head _)) ?_
  refine .cons (onNpc fun _ => .quiet (.bind (.npcType _) fun _ => .pushName _)) ?_
  refine .cons (onNpc fun _ => .quiet (.pushInt _)) ?_
  refine .cons (.bind .popInt fun interval => onNpc fun n =>
    .effectOnOthers (.npcSetTimer n.nid interval) rfl (.head _)) ?_
  refine .cons (.bind .popInt3 fun (spotanim, height, delay) => onNpc fun n =>
    .effectOnOthers (.npcSpotanim n.nid spotanim height delay) rfl (.head _)) ?_
  exact List.forall_mem_nil _

end Npc

/-! ## Locs and objs -/

namespace Ground

theorem locTable_instruction : ∀ e ∈ locTable, Instruction e.1 g e.2 := by
  unfold locTable
  refine .cons (.bind .popInt5 fun (coord, typeId, angle, shape, duration) =>
    .effectOnOthers (.addLoc ⟨typeId, .ofScriptInt coord, shape, angle &&& 3⟩ duration) rfl (.head _)) ?_
  refine .cons (.quiet (.bind .requireLoc fun _ => .pushInt _)) ?_
  refine .cons (.quiet .unimplemented) ?_
  refine .cons (.quiet (.bind .requireLoc fun _ => .bind (.locType _) fun _ => .pushInt _)) ?_
  refine .cons (.quiet .unimplemented) ?_
  refine .cons (.quiet (.bind .requireLoc fun _ => .pushInt _)) ?_
  refine .cons (.bind .popInt fun duration => .bind .requireLoc fun loc =>
    .effectOnOthers (.removeLoc loc duration) rfl (.head _)) ?_
  refine .cons (.quiet .unimplemented) ?_
  refine .cons (.quiet .unimplemented) ?_
  refine .cons (.quiet (.bind .popInt fun _ => .bind .requireLoc fun _ => .bind (.locType _) fun _ =>
    .bind (.resolveParam _ _) fun _ => .pushTyped _ _)) ?_
  refine .cons (.quiet (.bind .requireLoc fun _ => .pushInt _)) ?_
  refine .cons (.quiet (.bind .requireLoc fun _ => .bind (.locType _) fun _ => .pushName _)) ?_
  refine .cons (.quiet (.bind .requireLoc fun _ => .pushInt _)) ?_
  exact List.forall_mem_nil _

theorem objTable_instruction : ∀ e ∈ objTable, Instruction e.1 g e.2 := by
  unfold objTable
  refine .cons (.bind .popInt4 fun (coord, typeId, count, duration) =>
    .bind (.objType _) fun _ => .credited (.inr rfl) fun receiver =>
      .effectOnOthers (.addObj ⟨typeId, .ofScriptInt coord, count⟩ receiver duration) rfl (.head _)) ?_
  refine .cons (.quiet .unimplemented) ?_
  refine .cons (.quiet (.bind .requireObj fun _ => .pushInt _)) ?_
  refine .cons (.quiet (.bind .requireObj fun _ => .pushInt _)) ?_
  refine .cons (.bind .requireObj fun obj => .effectOnOthers (.removeObj obj 0) rfl (.head _)) ?_
  refine .cons (.quiet (.bind .requireObj fun _ => .bind (.objType _) fun _ => .pushName _)) ?_
  refine .cons (.quiet (.bind .popInt fun _ => .bind .requireObj fun _ => .bind (.objType _) fun _ =>
    .bind (.resolveParam _ _) fun _ => .pushTyped _ _)) ?_
  refine .cons (.quiet (.bind .requireObj fun _ => .pushInt _)) ?_
  refine .cons (.quiet .unimplemented) ?_
  exact List.forall_mem_nil _

end Ground

/-! ## Inventories -/

namespace Inventory

/-- Writing the slots of an inventory of the player who was found. -/
theorem setItemSlots_instruction {o : Opcode} (p : PlayerRef) (inv : Int32) (slots : ItemSlots)
    (ho : o ∈ (WorldCall.setItemSlots p.pid inv slots).instructions) :
    Instruction o (fun pid => pid = p.pid ∨ g pid) (effect (·.setItemSlots p.pid inv slots)) :=
  .effect (.setItemSlots p.pid inv slots) (fun _ e => .inl (Option.some.inj e).symm) ho

theorem invAdd_instruction : Instruction .invAdd g invAdd := by
  refine .bind .popInt3 fun (inv, obj, count) => .withSelected fun p => ?_
  refine .bind (.objType _) fun type => .bind (.itemSlots _ _) fun slots => ?_
  -- What found no room is only remarked on; the slots are written in any case.
  obtain ⟨stacked, left⟩ := slots.add type.stackable obj count
  dsimp only
  split
  · exact .bind (.note _ _) fun _ => setItemSlots_instruction p inv stacked (.head _)
  · exact setItemSlots_instruction p inv stacked (.head _)

theorem table_instruction : ∀ e ∈ table, Instruction e.1 g e.2 := by
  unfold table
  refine .cons invAdd_instruction ?_
  refine .cons (.bind .popInt fun inv => .withSelected fun p => .bind (.itemSlots _ _) fun _ =>
    setItemSlots_instruction p inv _ (.tail _ (.head _))) ?_
  refine .cons (.bind .popInt3 fun (inv, _, _) => .withSelected fun p => .bind (.itemSlots _ _) fun _ =>
    setItemSlots_instruction p inv _ (.tail _ (.tail _ (.head _)))) ?_
  refine .cons (.bind .popInt fun _ => .bind .requirePlayer fun _ =>
    .quiet (.bind (.itemSlots _ _) fun _ => .pushInt _)) ?_
  refine .cons (.bind .popInt fun _ => .bind .requirePlayer fun _ =>
    .quiet (.bind (.itemSlots _ _) fun _ => .pushInt _)) ?_
  refine .cons (.bind .popInt2 fun _ => .bind .requirePlayer fun _ =>
    .quiet (.bind (.itemSlots _ _) fun _ => .pushInt _)) ?_
  exact List.forall_mem_nil _

end Inventory

/-! ## The database -/

namespace Database

theorem popKey_quiet : Quiet popKey := by
  refine .bind .selectedSlot fun slot => ?_
  cases slot with
  | primary => exact .bind .popInt fun _ => .pure _
  | secondary => exact .bind .popString fun _ => .pure _

theorem pushAll_quiet : ∀ fields, Quiet (pushAll fields)
  | [] => .pure ()
  | (_, _) :: rest => .bind (.pushTyped _ _) fun _ => pushAll_quiet rest

theorem table_instruction : ∀ e ∈ table, Instruction e.1 g e.2 := by
  unfold table
  refine .cons (.bind popKey_quiet fun _ => .bind .popInt fun _ => .bind (.findColumn _) fun _ =>
    .bind (.fromConfig fun _ => .ok _) fun _ => .search _ (.inl rfl)) ?_
  refine .cons .dbFindnext ?_
  refine .cons (.quiet (.bind .popInt3 fun _ => .bind (.findColumn _) fun _ =>
    .bind (.fromConfig fun c => c.findRow_ordinary _ _) fun _ => pushAll_quiet _)) ?_
  refine .cons (.quiet (.bind .popInt2 fun _ => .bind (.findColumn _) fun _ =>
    .bind (.fromConfig fun _ => Config.entry_ordinary _ _ _) fun _ => .pushInt _)) ?_
  refine .cons (.bind .popInt fun _ => .bind (.fromConfig fun _ => Config.entry_ordinary _ _ _) fun _ =>
    .bind (.fromConfig fun _ => .ok _) fun _ => .search _ (.inr rfl)) ?_
  refine .cons (.quiet .unimplemented) ?_
  exact List.forall_mem_nil _

end Database

/-! ## Looking at the invocation itself -/

theorem Inspection.table_instruction : ∀ e ∈ Inspection.table, Instruction e.1 g e.2 := by
  unfold Inspection.table
  refine .cons (.quiet (.bind .popString fun _ => .fail rfl)) ?_
  refine .cons (.isBound _ (fun i j h => congrArg (·.2.1) h) (.inl rfl)) ?_
  refine .cons (.isBound _ (fun i j h => congrArg (·.1) h) (.inr (.inl rfl))) ?_
  refine .cons (.isBound _ (fun i j h => congrArg (·.2.2.1) h) (.inr (.inr (.inl rfl)))) ?_
  refine .cons (.isBound _ (fun i j h => congrArg (·.2.2.2) h) (.inr (.inr (.inr rfl)))) ?_
  exact List.forall_mem_nil _

/-! ## The registry -/

/-- What a table gives for an opcode is listed in it. -/
theorem mem_of_lookup (o : Opcode) {h : Handler} {table : List (Opcode × Handler)}
    (found : table.lookup o = some h) : (o, h) ∈ table := by
  obtain ⟨before, after, split, -⟩ := List.lookup_eq_some_iff.1 found
  rw [split]
  exact List.mem_append_right _ List.mem_cons_self

theorem Language.table_listed : Language.table ∈ standardTables := by simp [standardTables]

theorem Surroundings.table_listed : Surroundings.table ∈ standardTables := by simp [standardTables]

theorem Player.table_listed : Player.table ∈ standardTables := by simp [standardTables]

theorem Npc.table_listed : Npc.table ∈ standardTables := by simp [standardTables]

theorem Ground.objTable_listed : Ground.objTable ∈ standardTables := by simp [standardTables]

theorem Inventory.table_listed : Inventory.table ∈ standardTables := by simp [standardTables]

theorem Text.table_listed : Text.table ∈ standardTables := by simp [standardTables]

theorem Number.table_listed : Number.table ∈ standardTables := by simp [standardTables]

theorem Database.table_listed : Database.table ∈ standardTables := by simp [standardTables]

theorem standardTables_instruction :
    ∀ table ∈ standardTables, ∀ e ∈ table, Instruction e.1 g e.2 := by
  intro table h
  fin_cases h
  · exact Language.table_instruction
  · exact Surroundings.table_instruction
  · exact Player.table_instruction
  · exact Npc.table_instruction
  · exact Ground.locTable_instruction
  · exact Ground.objTable_instruction
  · exact TypeInfo.npcTable_instruction
  · exact TypeInfo.locTable_instruction
  · exact TypeInfo.objTable_instruction
  · exact Inventory.table_instruction
  · exact TypeInfo.enumTable_instruction
  · exact Text.table_instruction
  · exact Number.table_instruction
  · exact Database.table_instruction
  · exact Inspection.table_instruction

/-- No two entries of the standard tables are for one number. -/
theorem standardTables_nodup : (standardTables.flatten.map (·.1.number)).Nodup := by
  decide +kernel

theorem build_standardTables : Registry.build standardTables = .ok standard := by
  obtain ⟨r, built, -⟩ := Registry.build_holds standardTables_nodup
  unfold standard standard?
  rw [built]
  rfl

theorem standard_holds : standard.Holds standardTables.flatten := by
  obtain ⟨r, built, holds⟩ := Registry.build_holds standardTables_nodup
  obtain rfl : standard = r := Except.ok.inj (build_standardTables.symm.trans built)
  exact holds

/-- Every entry of a standard table is found. -/
theorem handler?_standard_of_mem {table : List (Opcode × Handler)} (listed : table ∈ standardTables)
    {o : Opcode} {h : Handler} (mem : (o, h) ∈ table) : standard.handler? o.id = some h :=
  standard_holds.handler?_eq_some.2 ⟨o, rfl, List.mem_flatten_of_mem listed mem⟩

/-- An entry that the standard registry finds under a number is an instruction of that number. -/
theorem entry?_standard {id : Int32} {o : Opcode} {h : Handler}
    (found : standard.entry? id = some (o, h)) : o.id = id ∧ ∀ g, Instruction o g h := by
  obtain ⟨number, mem⟩ := standard_holds.entry?_eq_some.1 found
  obtain ⟨table, listed, mem⟩ := List.mem_flatten.1 mem
  exact ⟨number, fun g => standardTables_instruction table listed (o, h) mem⟩

/-- What the standard registry finds under a number has the shape of an instruction of that number. -/
theorem handler?_standard {id : Int32} {h : Handler} (found : standard.handler? id = some h) :
    ∃ o : Opcode, o.id = id ∧ ∀ g, Instruction o g h := by
  obtain ⟨⟨o, _⟩, there, rfl⟩ := Option.map_eq_some_iff.1 found
  exact ⟨o, entry?_standard there⟩

end TickScript.Op
