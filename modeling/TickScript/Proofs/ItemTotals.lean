import Mathlib.Data.ENat.Lattice
import Mathlib.Data.List.Forall2
import TickScript.Proofs.ItemSlots

/-
  How many of an obj the slots hold, before and after something is put in or taken out.

  The exact number is a sum over the slots and may be beyond what a script int can say.  Putting in raises
  it by what finds room: one for each empty slot, or, for an obj that stacks, as many as its first stack can
  still take, and any number where it has no stack yet and a slot is empty.  Taking out lowers it from the
  front, by as many as there are at most.  Slots with another obj are not touched by either.

    tally, room     the exact number, and how many more find room
    OnlyOf          slot by slot, whatever holds another obj is the same
    Added           putting in: what `add` does to filled slots
    Removed         taking out: what `remove` does to filled slots
    toInt_total     what is counted is the exact number, as far as a script int can say it

  The loops are followed slot by slot.  Two sums carry the arithmetic: what a raised stack holds
  (`toNat_saturatingAdd`), and what a slot keeps and what is still to be taken after it (`toNat_sub_min`).
-/

namespace TickScript

/-! ## Arithmetic -/

namespace Arithmetic

variable {a b : Int32}

theorem toNat_max_zero (a : Int32) : (max a 0).toNatClampNeg = a.toNatClampNeg := by
  show (if a ≤ 0 then 0 else a).toNatClampNeg = _
  split
  next none =>
    have nonpos : a.toInt ≤ 0 := Int32.le_iff_toInt_le.1 none
    exact (Int.toNat_of_nonpos nonpos).symm
  next => rfl

theorem toInt_of_nonneg (h : 0 ≤ a) : a.toInt = a.toNatClampNeg :=
  (Int.toNat_of_nonneg (Int32.le_iff_toInt_le.1 h)).symm

/-- A sum that is not negative is the exact one or the greatest int. -/
theorem toNat_saturatingAdd (ha : 0 ≤ a) (hb : 0 ≤ b) :
    (saturatingAdd a b).toNatClampNeg = min (a.toNatClampNeg + b.toNatClampNeg) 2147483647 := by
  have sum : (saturatingAdd a b).toInt = _ := toInt_clamp (a.toInt + b.toInt)
  rw [toInt_of_nonneg ha, toInt_of_nonneg hb] at sum
  unfold Int32.toNatClampNeg at *
  omega

/-- Of what there is and what is asked for, both are lowered by the lesser one. -/
theorem toNat_sub_min (ha : 0 ≤ a) (hb : 0 ≤ b) :
    (a - min a b).toNatClampNeg = a.toNatClampNeg - b.toNatClampNeg ∧
      (b - min a b).toNatClampNeg = b.toNatClampNeg - a.toNatClampNeg := by
  have hA := toInt_of_nonneg ha
  have hB := toInt_of_nonneg hb
  have least : min a b = if a ≤ b then a else b := rfl
  rw [least]
  split
  next le =>
    have le' := Int32.le_iff_toInt_le.1 le
    have rest := Int32.toInt_sub_of_le b a ha le
    rw [Int32.sub_self]
    unfold Int32.toNatClampNeg at *
    rw [rest]
    simp only [Int32.toInt_zero]
    omega
  next gt =>
    have le := (Int32.le_total a b).resolve_left gt
    have le' := Int32.le_iff_toInt_le.1 le
    have rest := Int32.toInt_sub_of_le a b hb le
    rw [Int32.sub_self]
    unfold Int32.toNatClampNeg at *
    rw [rest]
    simp only [Int32.toInt_zero]
    omega

end Arithmetic

namespace ItemSlots

open Arithmetic

variable {stackable : Bool} {obj amount count left : Int32} {item : ItemStack}
variable {slot slot' : Option ItemStack} {slots slots' : ItemSlots}

/-! ## What the slots hold -/

/-- How many of the obj a slot holds. -/
def held (obj : Int32) : Option ItemStack → Nat
  | none => 0
  | some item => if item.obj = obj then item.count.toNatClampNeg else 0

/-- The exact number of the obj in all slots. -/
def tally (obj : Int32) (slots : ItemSlots) : Nat := (slots.map (held obj)).sum

@[simp] theorem tally_nil (obj : Int32) : tally obj [] = 0 := rfl

@[simp] theorem tally_cons (obj : Int32) (slot : Option ItemStack) (slots : ItemSlots) :
    tally obj (slot :: slots) = held obj slot + tally obj slots := List.sum_cons

/-- The first stack of the obj. -/
def first? (obj : Int32) (slots : ItemSlots) : Option ItemStack :=
  slots.reduceOption.find? (·.obj = obj)

/-- How many more of the obj find room. -/
def room (stackable : Bool) (obj : Int32) (slots : ItemSlots) : ℕ∞ :=
  if stackable then
    match slots.first? obj with
    | some item => (2147483647 - item.count.toNatClampNeg : ℕ)
    | none => if none ∈ slots then ⊤ else 0
  else slots.freeCount

/-- Slot by slot, whatever holds another obj is the same. -/
def OnlyOf (obj : Int32) : ItemSlots → ItemSlots → Prop :=
  List.Forall₂ fun slot slot' => ∀ item : ItemStack, item.obj ≠ obj → (slot' = some item ↔ slot = some item)

theorem OnlyOf.refl (obj : Int32) (slots : ItemSlots) : OnlyOf obj slots slots :=
  List.forall₂_same.2 fun _ _ _ _ => Iff.rfl

/-- A slot that stays as it is, and others. -/
theorem OnlyOf.keep (slot : Option ItemStack) (h : OnlyOf obj slots slots') :
    OnlyOf obj (slot :: slots) (slot :: slots') := .cons (fun _ _ => Iff.rfl) h

theorem about_none (obj : Int32) : ∀ other ∈ (none : Option ItemStack), other.obj = obj :=
  fun _ there => absurd there (Option.not_mem_none _)

theorem about_some (same : item.obj = obj) : ∀ other ∈ some item, other.obj = obj :=
  fun _ there => Option.some.inj there ▸ same

/-- A slot that has nothing but the obj before and after. -/
theorem OnlyOf.change (before : ∀ item ∈ slot, item.obj = obj) (after : ∀ item ∈ slot', item.obj = obj)
    (h : OnlyOf obj slots slots') : OnlyOf obj (slot :: slots) (slot' :: slots') := by
  refine .cons (fun item other => ⟨fun there => ?_, fun there => ?_⟩) h
  · exact absurd (after item there) other
  · exact absurd (before item there) other

/-! ## Putting in -/

/-- What was put in has found room as far as there was any, and nothing else has changed. -/
structure Added (stackable : Bool) (obj count : Int32) (slots slots' : ItemSlots) : Prop where
  length : slots'.length = slots.length
  others : OnlyOf obj slots slots'
  tally : (tally obj slots' : ℕ∞) =
    tally obj slots + min (count.toNatClampNeg : ℕ∞) (slots.room stackable obj)

theorem first?_some_cons : first? obj (some item :: slots) =
    if item.obj = obj then some item else slots.first? obj := by
  show List.find? _ (item :: slots.reduceOption) = _
  rw [List.find?_cons]
  by_cases same : item.obj = obj
  · rw [if_pos same, decide_eq_true same]
  · rw [if_neg same, decide_eq_false same]
    rfl

theorem first?_eq_none : slots.first? obj = none ↔ slots.Lacks obj := by
  unfold first? Lacks
  rw [List.find?_eq_none]
  constructor
  · intro h item mem same
    exact h item (List.mem_filterMap.2 ⟨_, mem, rfl⟩) (decide_eq_true same)
  · intro h item mem same
    obtain ⟨_, mem, rfl⟩ := List.mem_filterMap.1 mem
    exact h item mem (of_decide_eq_true same)

theorem toNat_le_max (a : Int32) : a.toNatClampNeg ≤ 2147483647 := by
  have high := a.toInt_lt
  unfold Int32.toNatClampNeg
  omega

/-- The first stack is raised, as far as it can be. -/
theorem raise?_adds (nonneg : 0 ≤ amount) (filled : slots.Filled)
    (h : raise? obj amount slots = some slots') :
    OnlyOf obj slots slots' ∧ ∃ item, slots.first? obj = some item ∧
      tally obj slots' = tally obj slots +
        min amount.toNatClampNeg (2147483647 - item.count.toNatClampNeg) := by
  induction slots generalizing slots' with
  | nil => nomatch h
  | cons slot rest ih =>
    cases slot with
    | none =>
      obtain ⟨rest', raised, rfl⟩ := Option.map_eq_some_iff.1 h
      obtain ⟨others, item, first, raised⟩ := ih (filled_none_cons.1 filled) raised
      refine ⟨others.keep none, item, first, ?_⟩
      rw [tally_cons, tally_cons, raised, Nat.add_assoc]
    | some item =>
      obtain ⟨here, filled⟩ := filled_some_cons.1 filled
      unfold raise? at h
      split at h
      next same =>
        cases h
        refine ⟨(OnlyOf.refl obj rest).change (about_some same)
          (about_some same), item, ?_, ?_⟩
        · rw [first?_some_cons, if_pos same]
        · have sum := toNat_saturatingAdd (Int32.le_trans (by decide) here) nonneg
          have bound := toNat_le_max item.count
          simp only [tally_cons, held, if_pos same]
          omega
      next other =>
        obtain ⟨rest', raised, rfl⟩ := Option.map_eq_some_iff.1 h
        obtain ⟨others, found, first, raised⟩ := ih filled raised
        refine ⟨others.keep _, found, ?_, ?_⟩
        · rw [first?_some_cons, if_neg other, first]
        · rw [tally_cons, tally_cons, raised, Nat.add_assoc]

/-- A new stack goes to the first empty slot. -/
theorem occupy?_adds (h : occupy? ⟨obj, amount⟩ slots = some slots') :
    OnlyOf obj slots slots' ∧ none ∈ slots ∧
      tally obj slots' = tally obj slots + amount.toNatClampNeg := by
  induction slots generalizing slots' with
  | nil => nomatch h
  | cons slot rest ih =>
    cases slot with
    | none =>
      cases h
      refine ⟨(OnlyOf.refl obj rest).change (about_none obj) (about_some rfl),
        List.mem_cons_self, ?_⟩
      simp only [tally_cons, held, if_pos, Nat.zero_add]
      omega
    | some item =>
      obtain ⟨rest', occupied, rfl⟩ := Option.map_eq_some_iff.1 h
      obtain ⟨others, room, raised⟩ := ih occupied
      refine ⟨others.keep _, List.mem_cons_of_mem _ room, ?_⟩
      rw [tally_cons, tally_cons, raised, Nat.add_assoc]

/-- One goes to each empty slot until all are used up. -/
theorem spread_adds (obj : Int32) : ∀ (left : Nat) (slots : ItemSlots),
    OnlyOf obj slots (spread obj left slots).1 ∧
      tally obj (spread obj left slots).1 = tally obj slots + min left slots.freeCount
  | left, [] => ⟨.nil, (congrArg (0 + ·) (Nat.min_zero left)).symm⟩
  | left, some item :: rest => by
    obtain ⟨others, raised⟩ := spread_adds obj left rest
    refine ⟨others.keep _, ?_⟩
    show tally obj (some item :: (spread obj left rest).1) = _
    rw [tally_cons, tally_cons, raised, Nat.add_assoc]
    rfl
  | 0, none :: rest => ⟨OnlyOf.refl obj _, by rw [Nat.zero_min]; rfl⟩
  | left + 1, none :: rest => by
    obtain ⟨others, raised⟩ := spread_adds obj left rest
    refine ⟨others.change (about_none obj) (about_some rfl), ?_⟩
    have free : freeCount (none :: rest) = freeCount rest + 1 :=
      List.countP_cons_of_pos (p := Option.isNone) rfl
    have one : held obj (some ⟨obj, 1⟩) = 1 := if_pos rfl
    show tally obj (some ⟨obj, 1⟩ :: (spread obj left rest).1) = _
    rw [tally_cons, tally_cons, raised, free, one]
    show _ = 0 + _ + _
    omega

/-- Putting in accounts for what is put in. -/
theorem added_add (filled : slots.Filled) (stackable : Bool) (obj count : Int32) :
    Added stackable obj count slots (slots.add stackable obj count).1 := by
  suffices added : OnlyOf obj slots (slots.add stackable obj count).1 ∧
      (tally obj (slots.add stackable obj count).1 : ℕ∞) =
        tally obj slots + min (count.toNatClampNeg : ℕ∞) (slots.room stackable obj) from
    ⟨length_add stackable obj count slots, added.1, added.2⟩
  unfold add
  dsimp only
  cases stackable with
  | false =>
    obtain ⟨others, raised⟩ := spread_adds obj (max count 0).toNatClampNeg slots
    refine ⟨others, ?_⟩
    rw [if_neg nofun, raised, toNat_max_zero, Nat.cast_add, Nat.mono_cast.map_min]
    rfl
  | true =>
    rw [if_pos rfl]
    have amount := toNat_max_zero count
    cases raised : raise? obj (max count 0) slots with
    | some slots' =>
      obtain ⟨others, item, first, sum⟩ := raise?_adds (zero_le_max_zero count) filled raised
      refine ⟨others, ?_⟩
      unfold room
      rw [if_pos rfl, first]
      show (tally obj slots' : ℕ∞) = _
      rw [sum, amount, Nat.cast_add, Nat.mono_cast.map_min]
    | none =>
      have first : slots.first? obj = none := first?_eq_none.2 (raise?_eq_none.1 raised)
      rw [Option.orElse_none]
      cases occupied : occupy? ⟨obj, max count 0⟩ slots with
      | some slots' =>
        obtain ⟨others, free, sum⟩ := occupy?_adds occupied
        refine ⟨others, ?_⟩
        unfold room
        rw [if_pos rfl, first]
        show (tally obj slots' : ℕ∞) = tally obj slots + min _ (if none ∈ slots then ⊤ else 0)
        rw [if_pos free, min_top_right, sum, amount, Nat.cast_add]
      | none =>
        refine ⟨OnlyOf.refl obj slots, ?_⟩
        unfold room
        rw [if_pos rfl, first]
        show (tally obj slots : ℕ∞) = tally obj slots + min _ (if none ∈ slots then ⊤ else 0)
        rw [if_neg (occupy?_eq_none occupied)]
        simp

/-! ## Taking out -/

/-- What was taken out was there and came from the front, and nothing else has changed. -/
structure Removed (obj count : Int32) (slots slots' : ItemSlots) : Prop where
  length : slots'.length = slots.length
  others : OnlyOf obj slots slots'
  filled : slots'.Filled
  fromFront : ∀ n, tally obj (List.take n slots') = tally obj (List.take n slots) - count.toNatClampNeg
  tally : tally obj slots' = tally obj slots - min count.toNatClampNeg (tally obj slots)

theorem onlyOf_take (obj : Int32) : ∀ (left : Int32) (slots : ItemSlots),
    OnlyOf obj slots (take obj left slots) := by
  intro left slots
  induction slots generalizing left with
  | nil => exact .nil
  | cons slot rest ih =>
    cases slot with
    | none => exact (ih left).keep none
    | some item =>
      rw [take]
      split
      · exact OnlyOf.refl obj _
      · split
        next same =>
          refine (ih _).change (about_some same) ?_
          split
          · exact about_none obj
          · exact about_some same
        next => exact (ih left).keep _

/-- What the first slots keep is what they had but for what was to be taken. -/
theorem tally_take_take (obj : Int32) : ∀ {left : Int32} {slots : ItemSlots}, 0 ≤ left →
    slots.Filled → ∀ n, tally obj (List.take n (take obj left slots)) =
      tally obj (List.take n slots) - left.toNatClampNeg := by
  intro left slots
  induction slots generalizing left with
  | nil =>
    intro _ _ n
    rw [take, List.take_nil]
    exact (Nat.zero_sub _).symm
  | cons slot rest ih =>
    intro nonneg filled n
    cases n with
    | zero => exact (Nat.zero_sub _).symm
    | succ n =>
    cases slot with
    | none =>
      show tally obj (none :: List.take n (take obj left rest)) = _
      rw [List.take_succ_cons, tally_cons, tally_cons, ih nonneg (filled_none_cons.1 filled)]
      show 0 + _ = 0 + _ - _
      omega
    | some item =>
      obtain ⟨here, filled⟩ := filled_some_cons.1 filled
      rw [take]
      split
      next none =>
        subst none
        exact (Nat.sub_zero _).symm
      next =>
        split
        next same =>
          have some : 0 ≤ item.count := Int32.le_trans (by decide) here
          obtain ⟨kept, remains⟩ := toNat_sub_min some nonneg
          have there := ih (sub_min_nonneg some nonneg).2 filled n
          dsimp only
          have slot : held obj (if item.count - min item.count left = 0 then Option.none else
              Option.some { item with count := item.count - min item.count left }) =
              item.count.toNatClampNeg - left.toNatClampNeg := by
            rw [← kept]
            split
            next none =>
              rw [none]
              rfl
            next => exact if_pos same
          rw [List.take_succ_cons, List.take_succ_cons, tally_cons, tally_cons, there, remains, slot]
          have had : held obj (Option.some item) = item.count.toNatClampNeg := if_pos same
          omega
        next other =>
          have nothing : held obj (Option.some item) = 0 := if_neg other
          rw [List.take_succ_cons, List.take_succ_cons, tally_cons, tally_cons, ih nonneg filled]
          omega

/-- Taking out accounts for what is taken out. -/
theorem removed_remove (filled : slots.Filled) (obj count : Int32) :
    Removed obj count slots (slots.remove obj count) := by
  have fromFront (n : Nat) : tally obj (List.take n (slots.remove obj count)) = _ :=
    tally_take_take obj (zero_le_max_zero count) filled n
  rw [toNat_max_zero] at fromFront
  refine ⟨length_remove obj count slots, onlyOf_take obj _ slots, filled_remove obj count filled,
    fromFront, ?_⟩
  have whole := fromFront slots.length
  rw [List.take_length, List.take_of_length_le (length_remove obj count slots).le] at whole
  omega

/-! ## Counting -/

/-- What is counted in the slots on top of what was counted before. -/
def totalFrom (obj n : Int32) (slots : ItemSlots) : Int32 :=
  (slots.reduceOption.filter (·.obj = obj)).foldl (fun n item => saturatingAdd n item.count) n

theorem totalFrom_some_cons (obj n : Int32) (item : ItemStack) (slots : ItemSlots) :
    totalFrom obj n (some item :: slots) =
      totalFrom obj (if item.obj = obj then saturatingAdd n item.count else n) slots := by
  unfold totalFrom
  show ((item :: slots.reduceOption).filter _).foldl _ n = _
  by_cases same : item.obj = obj
  · rw [if_pos same, List.filter_cons_of_pos (by simpa using same), List.foldl_cons]
  · rw [if_neg same, List.filter_cons_of_neg (by simpa using same)]

/-- The sum so far is cut off at every slot.  That makes no difference, because it never gets less. -/
theorem toNat_totalFrom (obj : Int32) : ∀ {n : Int32} {slots : ItemSlots}, 0 ≤ n → slots.Filled →
    0 ≤ totalFrom obj n slots ∧
      (totalFrom obj n slots).toNatClampNeg = min (n.toNatClampNeg + tally obj slots) 2147483647
  | n, [], nonneg, _ => ⟨nonneg, (Nat.min_eq_left (toNat_le_max n)).symm⟩
  | n, none :: rest, nonneg, filled => by
    have nothing : held obj none = 0 := rfl
    rw [tally_cons, nothing, Nat.zero_add]
    exact toNat_totalFrom obj nonneg (filled_none_cons.1 filled)
  | n, some item :: rest, nonneg, filled => by
    obtain ⟨here, filled⟩ := filled_some_cons.1 filled
    rw [totalFrom_some_cons, tally_cons]
    by_cases same : item.obj = obj
    · have some : 0 ≤ item.count := Int32.le_trans (by decide) here
      have held : held obj (Option.some item) = item.count.toNatClampNeg := if_pos same
      obtain ⟨nonneg', sum⟩ :=
        toNat_totalFrom obj (Int32.le_trans nonneg (le_saturatingAdd some)) filled
      rw [if_pos same, held]
      refine ⟨nonneg', ?_⟩
      rw [sum, toNat_saturatingAdd nonneg some]
      omega
    · have nothing : held obj (Option.some item) = 0 := if_neg same
      rw [if_neg same, nothing, Nat.zero_add]
      exact toNat_totalFrom obj nonneg filled

/-- What is counted is the exact number, as far as a script int can say it. -/
theorem toInt_total (filled : slots.Filled) (obj : Int32) :
    (slots.total obj).toInt = min (tally obj slots) 2147483647 := by
  obtain ⟨nonneg, sum⟩ := toNat_totalFrom obj (Int32.le_refl 0) filled
  show (totalFrom obj 0 slots).toInt = _
  have zero : (0 : Int32).toNatClampNeg = 0 := rfl
  rw [toInt_of_nonneg nonneg, sum, zero]
  omega

/-- Every slot is empty or not. -/
theorem freeCount_add_occupied (slots : ItemSlots) :
    slots.freeCount + slots.countP Option.isSome = slots.length := by
  unfold freeCount
  induction slots with
  | nil => rfl
  | cons slot rest ih =>
    rw [List.countP_cons, List.countP_cons, List.length_cons, ← ih]
    cases slot with
    | none =>
      show List.countP _ rest + 1 + (List.countP _ rest + 0) = _
      omega
    | some item =>
      show List.countP _ rest + 0 + (List.countP _ rest + 1) = _
      omega

/-- The script ints that count them agree, even where they wrap. -/
theorem ofLength_freeCount_add_occupied (slots : ItemSlots) :
    ofLength slots.freeCount + ofLength (slots.countP Option.isSome) = ofLength slots.length := by
  rw [← slots.freeCount_add_occupied]
  exact (Int32.ofNat_add _ _).symm

/-- Where there are not too many slots for a script int, it is the exact number. -/
theorem toInt_ofLength_counts (short : slots.length < 2147483648) :
    (ofLength slots.length).toInt = slots.length ∧
      (ofLength slots.freeCount).toInt + slots.countP Option.isSome = (ofLength slots.length).toInt := by
  have sum := slots.freeCount_add_occupied
  have size : (ofLength slots.length).toInt = slots.length := Int32.toInt_ofNat_of_lt short
  have free : (ofLength slots.freeCount).toInt = slots.freeCount :=
    Int32.toInt_ofNat_of_lt (by omega)
  refine ⟨size, ?_⟩
  rw [size, free]
  omega

end ItemSlots

end TickScript
