import TickScript.Inventory

/-
  Slots without an empty stack.

  A slot that holds something should hold at least one of it.  Taking out sees to that, since a slot that is
  used up is cleared, and so does putting in, with one exception: an addition of nothing, of an obj that
  stacks and is in no slot yet, occupies a slot with a stack of none.

    Filled          every stack has at least one
    Hollow          the addition that is the exception
    filled_add      putting in keeps the slots filled if and only if it is not hollow
    add_eq_self     an addition of nothing changes nothing if and only if it is not hollow
    filled_remove   taking out always keeps them filled
-/

namespace TickScript

/-! ## Arithmetic -/

namespace Arithmetic

theorem toInt_clamp (n : Int) : (clamp n).toInt = max (-2147483648) (min n 2147483647) := by
  unfold clamp
  split
  · show (-2147483648 : Int) = _
    omega
  · split
    · show (2147483647 : Int) = _
      omega
    · rw [Int32.toInt_ofInt_of_le (by omega) (by omega)]
      omega

theorem le_saturatingAdd {a b : Int32} (h : 0 ≤ b) : a ≤ saturatingAdd a b := by
  have nonneg : 0 ≤ b.toInt := Int32.le_iff_toInt_le.1 h
  have low := a.le_toInt
  have high := a.toInt_lt
  rw [Int32.le_iff_toInt_le, saturatingAdd, toInt_clamp]
  omega

theorem saturatingAdd_zero (a : Int32) : saturatingAdd a 0 = a := by
  have low := a.le_toInt
  have high := a.toInt_lt
  rw [← Int32.toInt_inj, saturatingAdd, toInt_clamp, Int32.toInt_zero]
  omega

theorem zero_le_max_zero (a : Int32) : 0 ≤ max a 0 := by
  show 0 ≤ if a ≤ 0 then 0 else a
  split
  · exact Int32.le_refl 0
  next pos => exact (Int32.le_total a 0).resolve_left pos

theorem max_zero_of_le {a : Int32} (h : a ≤ 0) : max a 0 = 0 := if_pos h

theorem one_le_iff {a : Int32} : 1 ≤ a ↔ ¬ a ≤ 0 := by
  rw [Int32.le_iff_toInt_le, Int32.le_iff_toInt_le, Int32.toInt_zero, Int.not_le]
  exact Iff.rfl

theorem one_le_max_zero_iff {a : Int32} : 1 ≤ max a 0 ↔ ¬ a ≤ 0 := by
  show (1 ≤ if a ≤ 0 then 0 else a) ↔ _
  split
  next none => exact ⟨fun h => absurd h (by decide), fun h => absurd none h⟩
  next => exact one_le_iff

end Arithmetic

namespace ItemSlots

open Arithmetic

variable {stackable : Bool} {obj amount count : Int32} {item : ItemStack} {slots slots' : ItemSlots}

/-! ## Filled slots -/

/-- No slot holds an empty stack. -/
def Filled (slots : ItemSlots) : Prop := ∀ item, some item ∈ slots → 1 ≤ item.count

/-- The obj is in no slot. -/
def Lacks (obj : Int32) (slots : ItemSlots) : Prop := ∀ item, some item ∈ slots → item.obj ≠ obj

theorem filled_append : Filled (slots ++ slots') ↔ Filled slots ∧ Filled slots' := by
  constructor
  · intro h
    exact ⟨fun item mem => h item (List.mem_append_left _ mem),
      fun item mem => h item (List.mem_append_right _ mem)⟩
  · rintro ⟨left, right⟩ item mem
    rcases List.mem_append.1 mem with mem | mem
    · exact left item mem
    · exact right item mem

theorem filled_some_cons : Filled (some item :: slots) ↔ 1 ≤ item.count ∧ Filled slots := by
  constructor
  · intro h
    exact ⟨h item List.mem_cons_self, fun other mem => h other (List.mem_cons_of_mem _ mem)⟩
  · rintro ⟨here, rest⟩ other mem
    rcases List.mem_cons.1 mem with same | mem
    · cases same
      exact here
    · exact rest other mem

theorem filled_none_cons : Filled (none :: slots) ↔ Filled slots := by
  constructor
  · exact fun h item mem => h item (List.mem_cons_of_mem _ mem)
  · rintro h item mem
    exact h item ((List.mem_cons.1 mem).resolve_left nofun)

/-- Slots are filled if every stack among them comes from filled ones. -/
theorem Filled.of_subset (h : Filled slots) (sub : ∀ item, some item ∈ slots' → some item ∈ slots) :
    Filled slots' :=
  fun item mem => h item (sub item mem)

/-! ## Putting in -/

/-- A stack that is raised is the first one with the obj. -/
theorem raise?_eq_some (h : raise? obj amount slots = some slots') :
    ∃ before item after, slots = before ++ some item :: after ∧
      slots' = before ++ some { item with count := saturatingAdd item.count amount } :: after := by
  induction slots generalizing slots' with
  | nil => nomatch h
  | cons slot rest ih =>
    cases slot with
    | none =>
      obtain ⟨rest', raised, rfl⟩ := Option.map_eq_some_iff.1 h
      obtain ⟨before, item, after, rfl, rfl⟩ := ih raised
      exact ⟨none :: before, item, after, rfl, rfl⟩
    | some item =>
      unfold raise? at h
      split at h
      · cases h
        exact ⟨[], item, rest, rfl, rfl⟩
      · obtain ⟨rest', raised, rfl⟩ := Option.map_eq_some_iff.1 h
        obtain ⟨before, other, after, rfl, rfl⟩ := ih raised
        exact ⟨some item :: before, other, after, rfl, rfl⟩

/-- No stack is raised if and only if there is none of the obj. -/
theorem raise?_eq_none : raise? obj amount slots = none ↔ slots.Lacks obj := by
  induction slots with
  | nil => exact ⟨fun _ _ mem => absurd mem List.not_mem_nil, fun _ => rfl⟩
  | cons slot rest ih =>
    cases slot with
    | none =>
      rw [raise?, Option.map_eq_none_iff, ih]
      constructor
      · exact fun h item mem => h item ((List.mem_cons.1 mem).resolve_left nofun)
      · exact fun h item mem => h item (List.mem_cons_of_mem _ mem)
    | some item =>
      rw [raise?]
      split
      next same => exact ⟨nofun, fun h => absurd same (h item List.mem_cons_self)⟩
      next other =>
        rw [Option.map_eq_none_iff, ih]
        constructor
        · intro h found mem
          rcases List.mem_cons.1 mem with same | mem
          · cases same
            exact other
          · exact h found mem
        · exact fun h item mem => h item (List.mem_cons_of_mem _ mem)

/-- A stack goes to the first empty slot. -/
theorem occupy?_eq_some (h : occupy? item slots = some slots') :
    ∃ before after, slots = before ++ none :: after ∧ slots' = before ++ some item :: after := by
  induction slots generalizing slots' with
  | nil => nomatch h
  | cons slot rest ih =>
    cases slot with
    | none =>
      cases h
      exact ⟨[], rest, rfl, rfl⟩
    | some other =>
      obtain ⟨rest', occupied, rfl⟩ := Option.map_eq_some_iff.1 h
      obtain ⟨before, after, rfl, rfl⟩ := ih occupied
      exact ⟨some other :: before, after, rfl, rfl⟩

theorem occupy?_eq_none (h : occupy? item slots = none) : none ∉ slots := by
  induction slots with
  | nil => exact List.not_mem_nil
  | cons slot rest ih =>
    cases slot with
    | none => nomatch h
    | some other =>
      rintro mem
      exact ih (Option.map_eq_none_iff.1 h) ((List.mem_cons.1 mem).resolve_left nofun)

/-- Spreading over the slots keeps their number. -/
theorem length_spread (obj : Int32) : ∀ (left : Nat) (slots : ItemSlots),
    (spread obj left slots).1.length = slots.length := by
  intro left slots
  induction slots generalizing left with
  | nil => rfl
  | cons slot rest ih =>
    cases slot with
    | some item => exact congrArg (· + 1) (ih left)
    | none =>
      cases left with
      | zero => rfl
      | succ left => exact congrArg (· + 1) (ih left)

/-- What is spread takes up slots by ones. -/
theorem filled_spread (obj : Int32) : ∀ (left : Nat) {slots : ItemSlots}, slots.Filled →
    Filled (spread obj left slots).1 := by
  intro left slots
  induction slots generalizing left with
  | nil => exact id
  | cons slot rest ih =>
    cases slot with
    | some item =>
      intro filled
      obtain ⟨here, filled⟩ := filled_some_cons.1 filled
      exact filled_some_cons.2 ⟨here, ih left filled⟩
    | none =>
      intro filled
      cases left with
      | zero => exact filled
      | succ left =>
        exact filled_some_cons.2 ⟨Int32.le_refl 1, ih left (filled_none_cons.1 filled)⟩

theorem spread_zero (obj : Int32) : ∀ slots : ItemSlots, (spread obj 0 slots).1 = slots
  | [] => rfl
  | some item :: rest => congrArg (some item :: ·) (spread_zero obj rest)
  | none :: _ => rfl

/-- An addition of nothing, of an obj that stacks and is in no slot, where a slot is empty. -/
structure Hollow (stackable : Bool) (obj count : Int32) (slots : ItemSlots) : Prop where
  stackable : stackable = true
  nothing : count ≤ 0
  absent : slots.Lacks obj
  room : none ∈ slots

/-- The three ways in which putting in can go for an obj that stacks. -/
theorem add_stackable (obj count : Int32) (slots : ItemSlots) :
    (∃ before item after, slots = before ++ some item :: after ∧ ¬ slots.Lacks obj ∧
      (slots.add true obj count).1 =
        before ++ some { item with count := saturatingAdd item.count (max count 0) } :: after) ∨
    (∃ before after, slots = before ++ none :: after ∧ slots.Lacks obj ∧
      (slots.add true obj count).1 = before ++ some ⟨obj, max count 0⟩ :: after) ∨
    (none ∉ slots ∧ (slots.add true obj count).1 = slots) := by
  unfold add
  dsimp only
  rw [if_pos rfl]
  cases raised : raise? obj (max count 0) slots with
  | some slots' =>
    obtain ⟨before, item, after, there, rfl⟩ := raise?_eq_some raised
    refine .inl ⟨before, item, after, there, ?_, rfl⟩
    intro lacks
    rw [raise?_eq_none.2 lacks] at raised
    nomatch raised
  | none =>
    have lacks := raise?_eq_none.1 raised
    rw [Option.orElse_none]
    cases occupied : occupy? ⟨obj, max count 0⟩ slots with
    | some slots' =>
      obtain ⟨before, after, there, rfl⟩ := occupy?_eq_some occupied
      exact .inr (.inl ⟨before, after, there, lacks, rfl⟩)
    | none => exact .inr (.inr ⟨occupy?_eq_none occupied, rfl⟩)

theorem length_add (stackable : Bool) (obj count : Int32) (slots : ItemSlots) :
    (slots.add stackable obj count).1.length = slots.length := by
  cases stackable with
  | false => exact length_spread obj _ slots
  | true =>
    rcases add_stackable obj count slots with
      ⟨before, item, after, rfl, -, added⟩ | ⟨before, after, rfl, -, added⟩ | ⟨-, added⟩
    · rw [added, List.length_append, List.length_append]
      rfl
    · rw [added, List.length_append, List.length_append]
      rfl
    · rw [added]

/-- Putting in keeps the slots filled, unless the addition is hollow. -/
theorem filled_add (filled : slots.Filled) :
    Filled (slots.add stackable obj count).1 ↔ ¬ slots.Hollow stackable obj count := by
  cases stackable with
  | false =>
    exact ⟨fun _ hollow => absurd hollow.stackable Bool.false_ne_true,
      fun _ => filled_spread obj _ filled⟩
  | true =>
    rcases add_stackable obj count slots with
      ⟨before, item, after, rfl, present, added⟩ | ⟨before, after, rfl, lacks, added⟩ | ⟨full, added⟩
    · -- The stack that is raised had at least one before.
      rw [added]
      obtain ⟨left, right⟩ := filled_append.1 filled
      obtain ⟨here, right⟩ := filled_some_cons.1 right
      have raised := Int32.le_trans here (le_saturatingAdd (zero_le_max_zero count))
      exact ⟨fun _ hollow => present hollow.absent,
        fun _ => filled_append.2 ⟨left, filled_some_cons.2 ⟨raised, right⟩⟩⟩
    · -- A stack that is new has as many as were put in.
      rw [added]
      obtain ⟨left, right⟩ := filled_append.1 filled
      constructor
      · intro filled' hollow
        have here := (filled_some_cons.1 (filled_append.1 filled').2).1
        exact one_le_max_zero_iff.1 here hollow.nothing
      · intro solid
        have here : 1 ≤ max count 0 := one_le_max_zero_iff.2 fun nothing =>
          solid ⟨rfl, nothing, lacks, List.mem_append_right _ List.mem_cons_self⟩
        exact filled_append.2 ⟨left, filled_some_cons.2 ⟨here, filled_none_cons.1 right⟩⟩
    · rw [added]
      exact ⟨fun _ hollow => full hollow.room, fun _ => filled⟩

/-- Putting in nothing leaves the slots as they are, unless the addition is hollow. -/
theorem add_eq_self (nothing : count ≤ 0) :
    (slots.add stackable obj count).1 = slots ↔ ¬ slots.Hollow stackable obj count := by
  cases stackable with
  | false =>
    have same : (slots.add false obj count).1 = slots := by
      unfold add
      dsimp only
      rw [if_neg nofun, max_zero_of_le nothing]
      exact spread_zero obj slots
    exact ⟨fun _ hollow => absurd hollow.stackable Bool.false_ne_true, fun _ => same⟩
  | true =>
    rcases add_stackable obj count slots with
      ⟨before, item, after, rfl, present, added⟩ | ⟨before, after, rfl, lacks, added⟩ | ⟨full, added⟩
    · rw [added, max_zero_of_le nothing, saturatingAdd_zero]
      exact ⟨fun _ hollow => present hollow.absent, fun _ => rfl⟩
    · rw [added]
      constructor
      · intro same
        nomatch List.append_cancel_left same
      · intro solid
        exact absurd ⟨rfl, nothing, lacks, List.mem_append_right _ List.mem_cons_self⟩ solid
    · rw [added]
      exact ⟨fun _ hollow => full hollow.room, fun _ => rfl⟩

/-! ## Taking out -/

theorem length_take (obj : Int32) : ∀ (left : Int32) (slots : ItemSlots),
    (take obj left slots).length = slots.length := by
  intro left slots
  induction slots generalizing left with
  | nil => rfl
  | cons slot rest ih =>
    cases slot with
    | none => exact congrArg (· + 1) (ih left)
    | some item =>
      rw [take]
      split
      · rfl
      · split
        · exact congrArg (· + 1) (ih _)
        · exact congrArg (· + 1) (ih left)

/-- What a slot keeps and what is still to be taken after it are not negative. -/
theorem sub_min_nonneg {a b : Int32} (ha : 0 ≤ a) (hb : 0 ≤ b) :
    0 ≤ a - min a b ∧ 0 ≤ b - min a b := by
  have least : min a b = if a ≤ b then a else b := rfl
  rw [least]
  split
  next le =>
    rw [Int32.sub_self]
    exact ⟨Int32.le_refl 0, Int32.sub_nonneg_of_le ha le⟩
  next gt =>
    rw [Int32.sub_self]
    exact ⟨Int32.sub_nonneg_of_le hb ((Int32.le_total a b).resolve_left gt), Int32.le_refl 0⟩

/-- A slot from which not everything is taken keeps at least one. -/
theorem filled_take (obj : Int32) : ∀ {left : Int32} {slots : ItemSlots}, 0 ≤ left → slots.Filled →
    Filled (take obj left slots) := by
  intro left slots
  induction slots generalizing left with
  | nil => exact fun _ => id
  | cons slot rest ih =>
    intro nonneg filled
    cases slot with
    | none => exact filled_none_cons.2 (ih nonneg (filled_none_cons.1 filled))
    | some item =>
      obtain ⟨here, filled'⟩ := filled_some_cons.1 filled
      rw [take]
      split
      · exact filled
      · -- What is taken is at most what the slot has, so what it keeps is not negative, and a slot that
        -- keeps nothing is cleared.
        split
        · have some : 0 ≤ item.count := Int32.le_trans (by decide) here
          obtain ⟨kept, remains⟩ := sub_min_nonneg some nonneg
          dsimp only
          split
          · exact filled_none_cons.2 (ih remains filled')
          next left =>
            refine filled_some_cons.2 ⟨one_le_iff.2 fun none => ?_, ih remains filled'⟩
            exact left (Int32.le_antisymm none kept)
        · exact filled_some_cons.2 ⟨here, ih nonneg filled'⟩

theorem length_remove (obj count : Int32) (slots : ItemSlots) :
    (slots.remove obj count).length = slots.length :=
  length_take obj _ slots

/-- Taking out keeps the slots filled. -/
theorem filled_remove (obj count : Int32) (filled : slots.Filled) : (slots.remove obj count).Filled :=
  filled_take obj (zero_le_max_zero count) filled

/-- Slots that have been cleared hold nothing. -/
theorem filled_cleared (slots : ItemSlots) : Filled (slots.map fun _ => none) := by
  intro item mem
  obtain ⟨_, -, same⟩ := List.mem_map.1 mem
  nomatch same

end ItemSlots

/-! ## Inventories -/

namespace Inventory

variable {i : Inventory}

theorem length_slots (i : Inventory) : i.slots.length = i.size.toNat := by
  unfold slots
  rw [List.length_append, List.length_take, List.length_replicate]
  omega

/-- The slots that were never written hold nothing. -/
theorem filled_slots (filled : i.items.Filled) : i.slots.Filled := by
  refine ItemSlots.filled_append.2 ⟨filled.of_subset fun item mem => List.mem_of_mem_take mem, ?_⟩
  intro item mem
  nomatch List.eq_of_mem_replicate mem

/-- As many slots as there were find their room. -/
theorem items_withSlots {slots : ItemSlots} (length : slots.length = i.slots.length) :
    (i.withSlots slots).items = slots := by
  rw [length_slots] at length
  exact List.take_of_length_le (Nat.le_of_eq length)

theorem slots_withSlots {slots : ItemSlots} (length : slots.length = i.slots.length) :
    (i.withSlots slots).slots = slots := by
  have size : i.size.toNat = slots.length := (length.trans i.length_slots).symm
  unfold Inventory.slots
  rw [items_withSlots length]
  show List.take i.size.toNat slots ++ List.replicate (i.size.toNat - slots.length) none = slots
  rw [size, List.take_length, Nat.sub_self, List.replicate_zero, List.append_nil]

end Inventory

end TickScript
