import Mathlib.Algebra.Group.Nat.Defs
import TickScript.Entity
import TickScript.Trigger

/-
  Numbers that are packed into one int.

  A uid joins the type and the number of an npc, and a lookup key joins a trigger with what a script is
  registered for.  Both shift one number to the left and put another one into the bits that become free.
  Read as a natural number, the result is a multiple of a power of two and a rest below it, so that
  questions about bits become questions of division with remainder, and those are linear arithmetic.

    toNat_shiftLeft_or    the packed number as quotient and rest
    NpcRef.ofUid_uid      a uid stands for the npc that it was made of
    Trigger.key           the lookup keys of all kinds of registration
    Trigger.key_inj       different registrations have different keys
-/

namespace TickScript

/-- A number in the bits that a shift to the left has made free. -/
theorem toNat_shiftLeft_or {w k : Nat} {high low : BitVec w} (fits : k ≤ w)
    (small : low.toNat < 2 ^ k) :
    (high <<< k ||| low).toNat = 2 ^ k * (high.toNat % 2 ^ (w - k)) + low.toNat := by
  have shifted : (high <<< k).toNat = 2 ^ k * (high.toNat % 2 ^ (w - k)) := by
    rw [BitVec.toNat_shiftLeft, Nat.shiftLeft_eq, Nat.mul_comm, ← Nat.mul_mod_mul_left,
      ← Nat.pow_add, Nat.add_sub_cancel' fits]
  rw [BitVec.toNat_or, shifted, Nat.two_pow_add_eq_or_of_lt small]

/-- The natural number behind the bits of an int. -/
theorem Int32.toInt_eq_toNat_cond (n : Int32) :
    n.toInt = if 2 * n.toBitVec.toNat < 4294967296 then (n.toBitVec.toNat : Int)
      else n.toBitVec.toNat - 4294967296 :=
  BitVec.toInt_eq_toNat_cond n.toBitVec

theorem Int32.eq_of_toNat_eq {m n : Int32} (h : m.toBitVec.toNat = n.toBitVec.toNat) : m = n :=
  Int32.toBitVec_inj.1 (BitVec.toNat_inj.1 h)

/-- What is left of an int under a mask without the sign bit is not negative. -/
theorem Int32.zero_le_and (n : Int32) {mask : Int32} (unsigned : 0 ≤ mask) : 0 ≤ n &&& mask := by
  have nonneg : 0 ≤ mask.toInt := Int32.le_iff_toInt_le.1 unsigned
  have masked : (n &&& mask).toBitVec.toNat ≤ mask.toBitVec.toNat := by
    rw [Int32.toBitVec_and, BitVec.toNat_and]
    exact Nat.and_le_right
  have small : mask.toBitVec.toNat < 2147483648 := by
    have bounded := mask.toBitVec.isLt
    rw [Int32.toInt_eq_toNat_cond] at nonneg
    split at nonneg <;> omega
  refine Int32.le_iff_toInt_le.2 ?_
  rw [Int32.toInt_eq_toNat_cond (n &&& mask), if_pos (by omega)]
  exact Int.natCast_nonneg _

/-! ## Npcs and uids -/

namespace NpcRef

/-- Number and type both take no more than half of the bits of an int. -/
def Fits (n : NpcRef) : Prop := (0 ≤ n.nid ∧ n.nid ≤ 65535) ∧ (0 ≤ n.typeId ∧ n.typeId ≤ 65535)

/-- An int that is at least zero and takes no more than half of the bits. -/
theorem toNat_lt_of_le {n : Int32} (h : 0 ≤ n ∧ n ≤ 65535) : n.toBitVec.toNat < 65536 := by
  have nonneg : 0 ≤ n.toInt := Int32.le_iff_toInt_le.1 h.1
  have bounded : n.toInt ≤ 65535 := Int32.le_iff_toInt_le.1 h.2
  rw [Int32.toInt_eq_toNat_cond] at nonneg bounded
  split at nonneg <;> omega

theorem toNat_lowHalf (n : Int32) : (n &&& 0xffff).toBitVec.toNat = n.toBitVec.toNat % 65536 := by
  show (n.toBitVec &&& 65535#32).toNat = _
  rw [BitVec.toNat_and]
  exact Nat.and_two_pow_sub_one_eq_mod n.toBitVec.toNat 16

/-- Once the copies of the sign bit are cut off, the shift to the right is a division. -/
theorem toNat_highHalf (n : Int32) :
    ((n >>> 16) &&& 0xffff).toBitVec.toNat = n.toBitVec.toNat / 65536 := by
  have logical : n.toBitVec.sshiftRight 16 &&& 65535#32 = n.toBitVec >>> 16 := by
    refine BitVec.eq_of_getLsbD_eq fun i small => ?_
    rw [BitVec.getLsbD_and, BitVec.getLsbD_sshiftRight, BitVec.getLsbD_ushiftRight]
    have mask : (65535#32).getLsbD i = decide (i < 16) := by
      simp only [BitVec.getLsbD_ofNat, small, decide_true, Bool.true_and]
      exact Nat.testBit_two_pow_sub_one 16 i
    rw [mask]
    by_cases low : i < 16
    · have inside : 16 + i < 32 := by omega
      have present : ¬ 32 ≤ i := by omega
      rw [decide_eq_true low, Bool.and_true, if_pos inside, decide_eq_false present]
      exact Bool.true_and _
    · rw [decide_eq_false low, Bool.and_false, BitVec.getLsbD_of_ge _ _ (by omega)]
  show (n.toBitVec.sshiftRight 16 &&& 65535#32).toNat = _
  rw [logical, BitVec.toNat_ushiftRight, Nat.shiftRight_eq_div_pow]

theorem toNat_uid {n : NpcRef} (fits : n.Fits) :
    n.uid.toBitVec.toNat = 65536 * n.typeId.toBitVec.toNat + n.nid.toBitVec.toNat := by
  have type := toNat_lt_of_le fits.2
  have packed : (n.typeId.toBitVec <<< 16 ||| n.nid.toBitVec).toNat =
      65536 * (n.typeId.toBitVec.toNat % 65536) + n.nid.toBitVec.toNat :=
    toNat_shiftLeft_or (by decide) (toNat_lt_of_le fits.1)
  exact packed.trans (by omega)

/-- A uid stands for the npc that it was made of, also where the type reaches into the sign bit. -/
theorem ofUid_uid {n : NpcRef} (fits : n.Fits) : ofUid n.uid = n := by
  have nid := toNat_lt_of_le fits.1
  have packed := toNat_uid fits
  have low : n.uid &&& 0xffff = n.nid := Int32.eq_of_toNat_eq (by rw [toNat_lowHalf]; omega)
  have high : (n.uid >>> 16) &&& 0xffff = n.typeId :=
    Int32.eq_of_toNat_eq (by rw [toNat_highHalf]; omega)
  show (⟨n.uid &&& 0xffff, (n.uid >>> 16) &&& 0xffff⟩ : NpcRef) = n
  rw [low, high]

end NpcRef

/-! ## Registrations and lookup keys -/

/-- What a script is registered for: one type, one category of types, or everything. -/
inductive Registration where
  | type (id : Int32)
  | category (id : Int32)
  | everything
  deriving DecidableEq

namespace Registration

/-- The two bits by which keys tell the kinds of registration apart. -/
def mark : Registration → Nat
  | type _ => 2
  | category _ => 1
  | everything => 0

/-- The id of the type or category. -/
def id : Registration → Int32
  | type id | category id => id
  | everything => 0

/-- The id keeps its value when it is shifted into a key. -/
def InRange (g : Registration) : Prop := -2097152 ≤ g.id ∧ g.id < 2097152

instance (g : Registration) : Decidable g.InRange := inferInstanceAs (Decidable (_ ∧ _))

theorem mark_le (g : Registration) : g.mark ≤ 2 := by cases g <;> simp [mark]

/-- Mark and id tell the whole. -/
theorem ext {g h : Registration} (mark : g.mark = h.mark) (id : g.id = h.id) : g = h := by
  cases g with
  | type _ =>
    cases h with
    | type _ => exact congrArg type id
    | category | everything => nomatch mark
  | category _ =>
    cases h with
    | category _ => exact congrArg category id
    | type | everything => nomatch mark
  | everything =>
    cases h with
    | everything => rfl
    | type | category => nomatch mark

end Registration

namespace Trigger

/-- The lookup key of a registration. -/
def key (t : Trigger) : Registration → Int32
  | .type id => t.typeKey id
  | .category id => t.categoryKey id
  | .everything => t.defaultKey

theorem toNat_toInt32 (t : Trigger) : t.toInt32.toBitVec.toNat = t.code.toNat := by
  have small := t.code.toNat_lt
  show t.code.toNat % 2 ^ 32 = t.code.toNat
  omega

/-- From below, a key consists of the trigger, the mark and what fits of the id. -/
theorem toNat_key (t : Trigger) (g : Registration) : (t.key g).toBitVec.toNat =
    1024 * (g.id.toBitVec.toNat % 4194304) + 256 * g.mark + t.code.toNat := by
  have code := t.toNat_toInt32
  have small := t.code.toNat_lt
  have joined : ∀ mark id : Int32, mark.toBitVec.toNat < 4 →
      (t.toInt32 ||| (mark <<< 8) ||| (id <<< 10)).toBitVec.toNat =
        1024 * (id.toBitVec.toNat % 4194304) + 256 * mark.toBitVec.toNat + t.code.toNat := by
    intro mark id few
    have low : (mark.toBitVec <<< 8 ||| t.toInt32.toBitVec).toNat =
        256 * (mark.toBitVec.toNat % 16777216) + t.toInt32.toBitVec.toNat :=
      toNat_shiftLeft_or (by decide) (by omega)
    have whole : (id.toBitVec <<< 10 ||| (mark.toBitVec <<< 8 ||| t.toInt32.toBitVec)).toNat =
        1024 * (id.toBitVec.toNat % 4194304) + (mark.toBitVec <<< 8 ||| t.toInt32.toBitVec).toNat :=
      toNat_shiftLeft_or (by decide) (by omega)
    show (t.toInt32.toBitVec ||| mark.toBitVec <<< 8 ||| id.toBitVec <<< 10).toNat = _
    rw [BitVec.or_comm, BitVec.or_comm (x := t.toInt32.toBitVec), whole, low]
    omega
  cases g with
  | type id => exact joined 2 id (by decide)
  | category id => exact joined 1 id (by decide)
  | everything => exact code.trans (by simp [Registration.id, Registration.mark])

/-- No key is -1, which stands for a script that is not registered: the two bits of the mark are never
    both set. -/
theorem key_ne_neg_one (t : Trigger) (g : Registration) : t.key g ≠ -1 := by
  intro same
  have packed := t.toNat_key g
  have small := t.code.toNat_lt
  have mark := g.mark_le
  have ones : (-1 : Int32).toBitVec.toNat = 4294967295 := rfl
  rw [same, ones] at packed
  omega

/-- Different registrations for different triggers have different keys. -/
theorem key_inj {t u : Trigger} {g h : Registration} (hg : g.InRange) (hh : h.InRange)
    (same : t.key g = u.key h) : t = u ∧ g = h := by
  have packed := t.toNat_key g
  rw [same, u.toNat_key h] at packed
  have smallT := t.code.toNat_lt
  have smallU := u.code.toNat_lt
  have markG := g.mark_le
  have markH := h.mark_le
  have code : t.code.toNat = u.code.toNat := by omega
  have mark : g.mark = h.mark := by omega
  have id : g.id = h.id := by
    have belowG : -2097152 ≤ g.id.toInt := Int32.le_iff_toInt_le.1 hg.1
    have aboveG : g.id.toInt < 2097152 := Int32.lt_iff_toInt_lt.1 hg.2
    have belowH : -2097152 ≤ h.id.toInt := Int32.le_iff_toInt_le.1 hh.1
    have aboveH : h.id.toInt < 2097152 := Int32.lt_iff_toInt_lt.1 hh.2
    rw [Int32.toInt_eq_toNat_cond] at belowG aboveG belowH aboveH
    refine Int32.eq_of_toNat_eq ?_
    split at belowG <;> split at belowH <;> omega
  refine ⟨?_, Registration.ext mark id⟩
  obtain ⟨a⟩ := t
  obtain ⟨b⟩ := u
  exact congrArg Trigger.mk (UInt8.toNat_inj.1 code)

end Trigger

end TickScript
