import Mathlib.Algebra.Order.Ring.Int
import Mathlib.Tactic.Ring
import TickScript.Proofs.Computing

/-
  Exact roots from an estimate.

  A root is found from a floating-point estimate, of which nothing is known.  Two loops correct it: the first
  goes down until the power of the number is not too large, the second goes up as long as the power of the
  next number is not.  The condition at which a loop ends is half of what makes a root, and the second loop
  keeps what the first has achieved, so where they start makes no difference.

    checkedPowFrom?_eq       a power by squaring fits exactly if it does as a whole
    powFits_iff              so a power that does not fit is rightly taken for too large
    While.rule               what a loop's steps keep holds at its end, where its condition does not
    lowers_lowerRoot, …      both loops end, wherever they start
    isRoot_of_loops          they end at the root
    invpow_exact             the instruction
-/

namespace TickScript

namespace Arithmetic

/-! ## Powers that are checked -/

theorem checkedMul?_congr {a b c d : Nat} (same : a * b = c * d) : checkedMul? a b = checkedMul? c d := by
  unfold checkedMul?
  rw [same]

/-- A check on the way to `c * d` makes no difference if what is checked is no larger. -/
theorem checkedMul?_bind {a b c d : Nat} {f : Nat → Option Nat} (smaller : a * b ≤ c * d)
    (goOn : f (a * b) = checkedMul? c d) : (checkedMul? a b >>= f) = checkedMul? c d := by
  by_cases fits : a * b < 9223372036854775808
  · have checked : checkedMul? a b = some (a * b) := if_pos fits
    rw [checked]
    exact goOn
  · have checked : checkedMul? a b = none := if_neg fits
    have whole : checkedMul? c d = none := if_neg fun fits' => fits (Nat.lt_of_le_of_lt smaller fits')
    rw [checked, whole]
    rfl

/-- Squaring the base and halving the exponent. -/
theorem mul_sq_pow_half_of_odd (product base : Nat) {exponent : Nat} (odd : exponent % 2 = 1) :
    product * base * (base * base) ^ (exponent / 2) = product * base ^ exponent := by
  have split : exponent = 2 * (exponent / 2) + 1 := by omega
  calc product * base * (base * base) ^ (exponent / 2)
    _ = product * base ^ (2 * (exponent / 2) + 1) := by ring
    _ = product * base ^ exponent := by rw [← split]

theorem sq_pow_half_of_even (base : Nat) {exponent : Nat} (even : exponent % 2 ≠ 1) :
    (base * base) ^ (exponent / 2) = base ^ exponent := by
  have split : exponent = 2 * (exponent / 2) := by omega
  calc (base * base) ^ (exponent / 2)
    _ = base ^ (2 * (exponent / 2)) := by ring
    _ = base ^ exponent := by rw [← split]

/-- Factors make a power larger, unless it is zero. -/
theorem mul_le_mul_pow {product base exponent : Nat} (zero : product = 0 → base = 0)
    (positive : exponent ≠ 0) : product * base ≤ product * base ^ exponent ∧
      (2 ≤ exponent → base * base ≤ product * base ^ exponent) := by
  rcases Nat.eq_zero_or_pos base with rfl | nonzero
  · simp
  have product_pos : 0 < product := Nat.pos_of_ne_zero fun isZero => by have := zero isZero; omega
  refine ⟨Nat.mul_le_mul_left product (Nat.le_self_pow positive base), fun more => ?_⟩
  calc base * base
    _ = base ^ 2 := (sq base).symm
    _ ≤ base ^ exponent := Nat.pow_le_pow_right nonzero more
    _ ≤ product * base ^ exponent := Nat.le_mul_of_pos_left _ product_pos

/-- The checks on the way fail only where the power as a whole does not fit. -/
theorem checkedPowFrom?_eq (product base exponent : Nat) : (product = 0 → base = 0) → exponent ≠ 0 →
    checkedPowFrom? product base exponent = checkedMul? product (base ^ exponent) := by
  fun_induction checkedPowFrom? product base exponent with
  | case1 product base exponent last =>
    intro _ positive
    have one : exponent = 1 := by omega
    rw [one, pow_one]
  | case2 product base exponent more odd ih =>
    intro zero positive
    obtain ⟨first, square⟩ := mul_le_mul_pow zero positive
    refine checkedMul?_bind first (checkedMul?_bind (square (by omega)) ?_)
    -- A product of zero beside a larger base would hide that the square is too large.
    have zero' : product * base = 0 → base * base = 0 := by
      intro isZero
      rcases Nat.mul_eq_zero.1 isZero with isZero | isZero
      · rw [zero isZero]
      · rw [isZero]
    rw [ih _ _ zero' (by omega)]
    exact checkedMul?_congr (mul_sq_pow_half_of_odd product base odd)
  | case3 product base exponent more even ih =>
    intro zero positive
    obtain ⟨-, square⟩ := mul_le_mul_pow zero positive
    refine checkedMul?_bind (square (by omega)) ?_
    have zero' : product = 0 → base * base = 0 := fun isZero => by rw [zero isZero]
    rw [ih _ zero' (by omega), sq_pow_half_of_even base even]

/-- Everything that is compared fits, so it makes no difference that powers may not. -/
theorem powFits_iff {exponent n : Nat} (small : n < 9223372036854775808) (root : Nat) :
    powFits exponent n root ↔ root ^ exponent ≤ n := by
  have power : checkedPow? root exponent = checkedMul? 1 (root ^ exponent) := by
    unfold checkedPow?
    by_cases isZero : exponent = 0
    · rw [if_pos isZero, isZero, pow_zero]
      rfl
    · rw [if_neg isZero]
      exact checkedPowFrom?_eq 1 root exponent (fun h => nomatch h) isZero
  unfold powFits
  rw [power]
  unfold checkedMul?
  rw [Nat.one_mul]
  by_cases fits : root ^ exponent < 9223372036854775808
  · rw [if_pos fits]
    exact decide_eq_true_iff
  · rw [if_neg fits]
    constructor
    · intro found
      nomatch found
    · intro bounded
      omega

/-! ## Loops -/

/-- `While condition step a b`: from `a` on the step is repeated as long as the condition holds, which ends
    at `b`. -/
inductive While (condition : Nat → Bool) (step : Nat → Nat) : Nat → Nat → Prop
  | done {a : Nat} : condition a = false → While condition step a a
  | again {a b : Nat} : condition a → While condition step (step a) b → While condition step a b

/-- What the steps keep holds at the end, and the condition does not. -/
theorem While.rule {condition : Nat → Bool} {step : Nat → Nat} {P : Nat → Prop}
    (kept : ∀ a, condition a → P a → P (step a)) {a b : Nat} (loop : While condition step a b) :
    P a → P b ∧ condition b = false := by
  induction loop with
  | done ends => exact fun holds => ⟨holds, ends⟩
  | @again a b goesOn _ ih => exact fun holds => ih (kept a goesOn holds)

/-- The loop that lowers an estimate until its power is not too large. -/
def Lowers (exponent n : Nat) : Nat → Nat → Prop :=
  While (fun root => decide (0 < root) && !powFits exponent n root) (· - 1)

/-- The loop that raises a root as long as the power of the next number is not too large. -/
def Raises (exponent n : Nat) : Nat → Nat → Prop :=
  While (fun root => powFits exponent n (root + 1)) (· + 1)

/-- It cannot go below zero. -/
theorem lowers_lowerRoot (exponent n : Nat) :
    ∀ estimate, Lowers exponent n estimate (lowerRoot exponent n estimate)
  | 0 => .done rfl
  | root + 1 => by
    unfold lowerRoot
    by_cases fits : powFits exponent n (root + 1)
    · rw [if_pos fits]
      exact .done (by simp [fits])
    · rw [if_neg fits]
      exact .again (by simp [fits]) (lowers_lowerRoot exponent n root)

/-- It cannot go above `n`, as no power is smaller than its base. -/
theorem raises_raiseRoot (exponent n : Nat) (positive : exponent ≠ 0) (root : Nat) :
    Raises exponent n root (raiseRoot exponent n positive root) := by
  fun_induction raiseRoot exponent n positive root with
  | case1 root fits ih => exact .again fits ih
  | case2 root exceeds => exact .done (Bool.eq_false_iff.2 exceeds)

/-! ## Roots -/

/-- The largest number whose power is not too large. -/
def IsRoot (exponent n root : Nat) : Prop := root ^ exponent ≤ n ∧ n < (root + 1) ^ exponent

theorem IsRoot.le_of_pow_le {exponent n root other : Nat} (h : IsRoot exponent n root)
    (bounded : other ^ exponent ≤ n) : other ≤ root := by
  by_contra larger
  have power : (root + 1) ^ exponent ≤ other ^ exponent := Nat.pow_le_pow_left (by omega) exponent
  have above := h.2
  omega

theorem IsRoot.unique {exponent n root other : Nat} (h : IsRoot exponent n root)
    (h' : IsRoot exponent n other) : other = root :=
  Nat.le_antisymm (h.le_of_pow_le h'.1) (h'.le_of_pow_le h.1)

theorem IsRoot.le {exponent n root : Nat} (h : IsRoot exponent n root) (positive : exponent ≠ 0) :
    root ≤ n :=
  Nat.le_trans (Nat.le_self_pow positive root) h.1

section Loops

variable {exponent n : Nat} (small : n < 9223372036854775808) (positive : exponent ≠ 0)

include small positive

/-- Wherever the first loop starts, the second ends at the root. -/
theorem isRoot_of_loops {estimate lowered root : Nat} (down : Lowers exponent n estimate lowered)
    (up : Raises exponent n lowered root) : lowered ≤ root ∧ IsRoot exponent n root := by
  have fits : lowered ^ exponent ≤ n := by
    obtain ⟨-, ends⟩ := down.rule (P := fun _ => True) (fun _ _ _ => trivial) trivial
    -- The first loop ends at zero, or for the other reason.
    rcases Nat.eq_zero_or_pos lowered with rfl | above
    · rw [zero_pow positive]
      exact n.zero_le
    · refine (powFits_iff small lowered).1 ?_
      simpa [above] using ends
  obtain ⟨⟨notBelow, fits'⟩, ends⟩ := up.rule (P := fun root => lowered ≤ root ∧ root ^ exponent ≤ n)
    (fun root next kept => ⟨Nat.le_succ_of_le kept.1, (powFits_iff small _).1 next⟩) ⟨Nat.le_refl _, fits⟩
  refine ⟨notBelow, fits', ?_⟩
  have exceeds : ¬ (root + 1) ^ exponent ≤ n := fun next =>
    Bool.eq_false_iff.1 ends ((powFits_iff small _).2 next)
  omega

theorem isRoot_correctedRoot (estimate : Nat) :
    IsRoot exponent n (correctedRoot exponent n positive estimate) :=
  (isRoot_of_loops small positive (lowers_lowerRoot exponent n estimate)
    (raises_raiseRoot exponent n positive _)).2

/-- Whatever the estimate, the loops end, and at that root. -/
theorem IsRoot.loops {root : Nat} (h : IsRoot exponent n root) (estimate : Nat) :
    ∃ lowered, lowered ≤ root ∧ Lowers exponent n estimate lowered ∧ Raises exponent n lowered root := by
  have down := lowers_lowerRoot exponent n estimate
  have up := raises_raiseRoot exponent n positive (lowerRoot exponent n estimate)
  obtain ⟨notBelow, found⟩ := isRoot_of_loops small positive down up
  rw [h.unique found] at up notBelow
  exact ⟨_, notBelow, down, up⟩

end Loops

/-! ## Script ints -/

theorem isRoot_iff_int {exponent n root : Nat} : IsRoot exponent n root ↔
    (root : Int) ^ exponent ≤ n ∧ (n : Int) < ((root : Int) + 1) ^ exponent := by
  unfold IsRoot
  norm_cast

theorem toNatClampNeg_small (n : Int32) : n.toNatClampNeg < 9223372036854775808 :=
  Nat.lt_trans n.toNatClampNeg_lt (by decide)

/-- The root is no larger than the number, so it is an int again. -/
theorem exists_root?_eq_some {number exponent : Int32} (nonneg : 0 ≤ number) (positive : 0 < exponent) :
    ∃ root, root? number exponent = some root ∧ 0 ≤ root ∧
      IsRoot exponent.toNatClampNeg number.toNatClampNeg root.toNatClampNeg := by
  have positive' := toNatClampNeg_ne_zero positive
  have found := isRoot_correctedRoot (toNatClampNeg_small number) positive'
    (estimatedRoot number exponent)
  have small : correctedRoot exponent.toNatClampNeg number.toNatClampNeg positive'
      (estimatedRoot number exponent) < 2 ^ 31 :=
    Nat.lt_of_le_of_lt (found.le positive') number.toNatClampNeg_lt
  refine ⟨_, dif_pos ⟨nonneg, positive⟩, Int32.le_iff_toInt_le.2 ?_, ?_⟩
  · rw [Int32.toInt_ofNat_of_lt small]
    exact Int.natCast_nonneg _
  · rw [Int32.toNatClampNeg_ofNat_of_lt small]
    exact found

theorem root?_eq_none {number exponent : Int32} (outside : number < 0 ∨ exponent ≤ 0) :
    root? number exponent = none := by
  refine dif_neg fun inside => ?_
  rcases outside with below | below
  · exact absurd inside.1 (Int32.not_le.2 below)
  · exact absurd inside.2 (Int32.not_lt.2 below)

end Arithmetic

/-! ## The instruction -/

namespace Runner

open Arithmetic

/-- For every number from 0 on and every positive exponent the instruction answers with the one number from
    0 on whose power is not too large while the power of the next one is.  Whatever the estimate, both loops
    end, the second at this number, and on the way up they pass no number above it.

    All other operands are refused. -/
theorem invpow_exact (library : Library) (config : Config) (budget : Option UInt32) :
    let r := Runner.standard library config budget
    ∀ number exponent : Int32,
      (0 ≤ number → ∀ positive : 0 < exponent, ∃ root : Int32,
        r.Yields .invpow [.int number, .int exponent] (.int root) ∧
        0 ≤ root ∧ root.toInt ^ exponent.toNatClampNeg ≤ number.toInt ∧
        number.toInt < (root.toInt + 1) ^ exponent.toNatClampNeg ∧
        (∀ other : Int, 0 ≤ other → other ^ exponent.toNatClampNeg ≤ number.toInt →
          number.toInt < (other + 1) ^ exponent.toNatClampNeg → other = root.toInt) ∧
        ∀ estimate,
          correctedRoot exponent.toNatClampNeg number.toNatClampNeg (toNatClampNeg_ne_zero positive)
            estimate = root.toNatClampNeg ∧
          ∃ lowered, lowered ≤ root.toNatClampNeg ∧
            Lowers exponent.toNatClampNeg number.toNatClampNeg estimate lowered ∧
            Raises exponent.toNatClampNeg number.toNatClampNeg lowered root.toNatClampNeg) ∧
      (number < 0 ∨ exponent ≤ 0 →
        r.Refuses .invpow [.int number, .int exponent] (.badRoot exponent number)) := by
  intro r number exponent
  have standard : r.registry = Op.standard := standard_registry library config budget
  have listed : (.invpow, Op.Number.partialBinary root? fun number exponent => .badRoot exponent number) ∈
      Op.Number.table := Op.mem_of_lookup _ rfl
  constructor
  · intro nonneg positive
    have small := toNatClampNeg_small number
    have positive' := toNatClampNeg_ne_zero positive
    obtain ⟨root, value, root_nonneg, found⟩ := exists_root?_eq_some nonneg positive
    obtain ⟨fits, exceeds⟩ := isRoot_iff_int.1 found
    rw [number.cast_toNatClampNeg nonneg, root.cast_toNatClampNeg root_nonneg] at fits exceeds
    refine ⟨root, partialBinary_yields standard listed value, root_nonneg, fits, exceeds, ?_, ?_⟩
    · intro other other_nonneg fits' exceeds'
      obtain ⟨other, rfl⟩ := Int.eq_ofNat_of_zero_le other_nonneg
      rw [← number.cast_toNatClampNeg nonneg] at fits' exceeds'
      rw [found.unique (isRoot_iff_int.2 ⟨fits', exceeds'⟩), root.cast_toNatClampNeg root_nonneg]
    · exact fun estimate => ⟨found.unique (isRoot_correctedRoot small positive' estimate),
        found.loops small positive' estimate⟩
  · intro outside
    exact partialBinary_refuses standard listed (root?_eq_none outside)

/-- The cube root of 125, which an estimate may be just below, the roots of 0 and 1 for the largest exponent,
    whose powers from 2 on are beyond all bounds, and operands that have no root. -/
theorem invpow_exact_samples :
    let r := Runner.standard .empty .empty none
    r.Yields .invpow [.int 125, .int 3] (.int 5) ∧
    r.Yields .invpow [.int 0, .int Int32.maxValue] (.int 0) ∧
    r.Yields .invpow [.int 1, .int Int32.maxValue] (.int 1) ∧
    r.Refuses .invpow [.int (-1), .int 2] (.badRoot 2 (-1)) ∧
    r.Refuses .invpow [.int 4, .int 0] (.badRoot 0 4) := by
  intro r
  have exact := invpow_exact .empty .empty none
  have positive : Int32.maxValue.toNatClampNeg ≠ 0 := toNatClampNeg_ne_zero (by decide)
  refine ⟨?_, ?_, ?_, (exact (-1) 2).2 (.inl (by decide)), (exact 4 0).2 (.inr (by decide))⟩
  · obtain ⟨root, yields, -, -, -, unique, -⟩ := (exact 125 3).1 (by decide) (by decide)
    obtain rfl : 5 = root := Int32.toInt_inj.1 (unique 5 (by decide) (by decide) (by decide))
    exact yields
  · obtain ⟨root, yields, -, -, -, unique, -⟩ := (exact 0 Int32.maxValue).1 (by decide) (by decide)
    have fits : (0 : Int) ^ Int32.maxValue.toNatClampNeg ≤ 0 := (zero_pow positive).le
    have exceeds : (0 : Int) < (0 + 1) ^ Int32.maxValue.toNatClampNeg := by
      rw [zero_add, one_pow]
      decide
    obtain rfl : 0 = root := Int32.toInt_inj.1 (unique 0 (by decide) fits exceeds)
    exact yields
  · obtain ⟨root, yields, -, -, -, unique, -⟩ := (exact 1 Int32.maxValue).1 (by decide) (by decide)
    have fits : (1 : Int) ^ Int32.maxValue.toNatClampNeg ≤ 1 := (one_pow _).le
    have exceeds : (1 : Int) < (1 + 1) ^ Int32.maxValue.toNatClampNeg :=
      one_lt_pow₀ (by decide) positive
    obtain rfl : 1 = root := Int32.toInt_inj.1 (unique 1 (by decide) fits exceeds)
    exact yields

end Runner

end TickScript
