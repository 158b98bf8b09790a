import Mathlib.Data.Rat.Floor
import TickScript.Proofs.Computing

/-
  Script arithmetic against exact arithmetic.

  A script int that is multiplied, divided and cut back to 32 bits should be the exact integer, cut once at
  the end.  There are two reasons why it is, and each instruction needs one of them.  Dropping high bits
  goes together with sums and products, so these may wrap in 64 bits as often as they like.  It does not go
  together with division, so what is divided has to be exact, and 64 bits are wide enough for that.

    toInt32_eq_ofInt     dropping the high half is the cut of the exact value
    toInt_mul64, …       differences and products of ints are exact in 64 bits
    toInt_floorDiv       the correction of the quotient gives the floor, for all signs
    scale?_eq, …         each operation as one cut of an exact value
    arithmetic_exact     the instructions
-/

namespace TickScript

namespace Arithmetic

/-! ## 64 bits -/

/-- The high half can be dropped at the end. -/
theorem toInt32_eq_ofInt (n : Int64) : n.toInt32 = Int32.ofInt n.toInt := by
  rw [← Int64.toInt32_ofInt, Int64.ofInt_toInt]

theorem toInt_sub64 (a b : Int32) : (a.toInt64 - b.toInt64).toInt = a.toInt - b.toInt := by
  have ha := a.le_toInt
  have ha' := a.toInt_lt
  have hb := b.le_toInt
  have hb' := b.toInt_lt
  rw [Int64.toInt_sub, Int32.toInt_toInt64, Int32.toInt_toInt64]
  exact Int.bmod_eq_of_le (by omega) (by omega)

/-- The product of two ints takes 63 bits at most. -/
theorem natAbs_mul_le (a b : Int32) : (a.toInt * b.toInt).natAbs ≤ 4611686018427387904 := by
  have ha := a.le_toInt
  have ha' := a.toInt_lt
  have hb := b.le_toInt
  have hb' := b.toInt_lt
  rw [Int.natAbs_mul]
  exact Nat.mul_le_mul (show a.toInt.natAbs ≤ 2147483648 by omega)
    (show b.toInt.natAbs ≤ 2147483648 by omega)

theorem toInt_mul64 (a b : Int32) : (a.toInt64 * b.toInt64).toInt = a.toInt * b.toInt := by
  have small := natAbs_mul_le a b
  rw [Int64.toInt_mul, Int32.toInt_toInt64, Int32.toInt_toInt64]
  exact Int.bmod_eq_of_le (by omega) (by omega)

/-- Only the quotient of the least number by -1 is not exact. -/
theorem toInt_div64 {a b : Int64} (small : -9223372036854775808 < a.toInt) :
    (a / b).toInt = a.toInt.tdiv b.toInt := by
  refine Int64.toInt_div_of_ne_left a b fun least => ?_
  rw [least] at small
  exact absurd small (by decide)

/-! ## The floor -/

/-- The floor of a quotient, for divisors of either sign. -/
theorem floor_div_eq_fdiv (a b : Int) : ⌊(a : ℚ) / b⌋ = a.fdiv b := by
  rcases Int.eq_nat_or_neg b with ⟨n, rfl | rfl⟩
  · rw [Int.cast_natCast, Rat.floor_intCast_div_natCast, Int.fdiv_eq_ediv_of_nonneg _ n.cast_nonneg]
  · have turned : (a : ℚ) / ((-(n : Int) : Int) : ℚ) = ((-a : Int) : ℚ) / (n : ℚ) := by
      push_cast
      rw [div_neg, neg_div]
    rw [turned, Rat.floor_intCast_div_natCast, ← Int.fdiv_eq_ediv_of_nonneg _ n.cast_nonneg,
      ← Int.neg_fdiv_neg, neg_neg]

/-- The quotient toward zero is the floor, or one above it where there is a remainder and the signs
    differ. -/
theorem fdiv_eq_corrected {a b : Int} (h : b ≠ 0) : a.fdiv b =
    if a.tmod b ≠ 0 ∧ (decide (a < 0) != decide (b < 0)) then a.tdiv b - 1 else a.tdiv b := by
  rw [Int.fdiv_eq_tdiv]
  by_cases whole : b ∣ a
  · have rest : a.tmod b = 0 := Int.dvd_iff_tmod_eq_zero.1 whole
    rw [if_pos whole, if_neg fun found => found.1 rest, Int.sub_zero]
  · have rest : a.tmod b ≠ 0 := fun zero => whole (Int.dvd_iff_tmod_eq_zero.2 zero)
    rw [if_neg whole]
    -- Of the four pairs of signs the two that differ have the floor below the quotient.
    rcases Int.lt_or_gt_of_ne h with negative | positive
    · have sign : b.sign = -1 := Int.sign_eq_neg_one_of_neg negative
      by_cases below : a < 0
      · simp [rest, negative, below, sign, Int.not_le.2 below, Int.not_le.2 negative]
      · simp [rest, negative, below, Int.not_lt.1 below, Int.not_le.2 negative]
    · have sign : b.sign = 1 := Int.sign_eq_one_of_pos positive
      have nonneg : ¬ b < 0 := by omega
      by_cases below : a < 0
      · simp [rest, nonneg, below, sign, Int.not_le.2 below, Int.not_lt.1 nonneg]
      · simp [rest, nonneg, below, Int.not_lt.1 below, Int.not_lt.1 nonneg]

/-- The correction is made where the exact one is, and stays within 64 bits. -/
theorem toInt_floorDiv {a b : Int64} (nonzero : b ≠ 0) (low : -9223372036854775807 ≤ a.toInt) :
    (floorDiv a b).toInt = a.toInt.fdiv b.toInt := by
  have nonzero' : b.toInt ≠ 0 := fun zero => nonzero (Int64.toInt_inj.1 zero)
  have quotient : (a / b).toInt = a.toInt.tdiv b.toInt := toInt_div64 (by omega)
  have high := a.toInt_lt
  have bound := Int.natAbs_tdiv_le_natAbs a.toInt b.toInt
  have rest : a % b ≠ 0 ↔ a.toInt.tmod b.toInt ≠ 0 := by
    rw [← Int64.toInt_mod]
    exact not_congr Int64.toInt_inj.symm
  have signA : decide (a < 0) = decide (a.toInt < 0) := decide_eq_decide.2 Int64.lt_iff_toInt_lt
  have signB : decide (b < 0) = decide (b.toInt < 0) := decide_eq_decide.2 Int64.lt_iff_toInt_lt
  unfold floorDiv
  rw [fdiv_eq_corrected nonzero', signA, signB]
  dsimp only
  by_cases differs : decide (a.toInt < 0) != decide (b.toInt < 0)
  · by_cases left : a.toInt.tmod b.toInt ≠ 0
    · rw [if_pos ⟨rest.2 left, differs⟩, if_pos ⟨left, differs⟩, Int64.toInt_sub, quotient]
      exact Int.bmod_eq_of_le (show _ ≤ _ - 1 by omega) (show _ - 1 < _ by omega)
    · rw [if_neg fun c => left (rest.1 c.1), if_neg fun c => left c.1]
      exact quotient
  · rw [if_neg fun c => differs c.2, if_neg fun c => differs c.2]
    exact quotient

/-! ## The operations -/

theorem addPercent_eq (n p : Int32) :
    addPercent n p = Int32.ofInt (n.toInt + (n.toInt * p.toInt).tdiv 100) := by
  have product := toInt_mul64 n p
  have small := natAbs_mul_le n p
  have part : (n.toInt64 * p.toInt64 / 100).toInt = (n.toInt * p.toInt).tdiv 100 := by
    rw [toInt_div64 (by omega), product]
    rfl
  unfold addPercent
  rw [Int64.toInt32_add, toInt32_eq_ofInt, toInt32_eq_ofInt, part, Int32.toInt_toInt64, ← Int32.ofInt_add,
    Int.add_comm]

theorem scale?_eq {a b c : Int32} (nonzero : b ≠ 0) :
    scale? a b c = some (Int32.ofInt ((a.toInt * c.toInt).tdiv b.toInt)) := by
  have product := toInt_mul64 a c
  have small := natAbs_mul_le a c
  unfold scale?
  rw [if_neg nonzero, toInt32_eq_ofInt, toInt_div64 (by omega), product, Int32.toInt_toInt64]

/-- The slope is exact; its product with the distance may wrap, and so may the sum. -/
theorem interpolate?_eq {y0 y1 x0 x1 : Int32} (apart : x0 ≠ x1) (x : Int32) :
    interpolate? y0 y1 x0 x1 x = some (Int32.ofInt
      (⌊((y1.toInt - y0.toInt : Int) : ℚ) / ((x1.toInt - x0.toInt : Int) : ℚ)⌋ * (x.toInt - x0.toInt) +
        y0.toInt)) := by
  have rise := toInt_sub64 y1 y0
  have run := toInt_sub64 x1 x0
  have nonzero : x1.toInt64 - x0.toInt64 ≠ 0 := by
    intro zero
    rw [zero] at run
    have level : (0 : Int64).toInt = 0 := rfl
    exact apart (Int32.toInt_inj.1 (by omega))
  have high := y0.toInt_lt
  have low := y1.le_toInt
  have slope : (floorDiv (y1.toInt64 - y0.toInt64) (x1.toInt64 - x0.toInt64)).toInt =
      (y1.toInt - y0.toInt).fdiv (x1.toInt - x0.toInt) := by
    rw [toInt_floorDiv nonzero (by omega), rise, run]
  unfold interpolate?
  dsimp only
  rw [if_neg nonzero, Int64.toInt32_add, Int64.toInt32_mul, toInt32_eq_ofInt, toInt32_eq_ofInt,
    toInt32_eq_ofInt, slope, toInt_sub64, Int32.toInt_toInt64, ← Int32.ofInt_mul, ← Int32.ofInt_add,
    floor_div_eq_fdiv]

theorem interpolate?_self (y0 y1 x0 x : Int32) : interpolate? y0 y1 x0 x0 x = none :=
  if_pos (Int64.sub_self _)

theorem div_eq_ofInt (a b : Int32) : a / b = Int32.ofInt (a.toInt.tdiv b.toInt) := by
  refine Int32.toInt_inj.1 ?_
  rw [Int32.toInt_div, Int32.toInt_ofInt]

/-- Quotient and remainder make up the dividend, also where the quotient wraps. -/
theorem ofInt_div_add_mod (a b : Int32) :
    Int32.ofInt (b.toInt * (a / b).toInt + (a % b).toInt) = a :=
  calc Int32.ofInt (b.toInt * (a / b).toInt + (a % b).toInt)
    _ = Int32.ofInt b.toInt * (a / b) + Int32.ofInt (a.toInt.tmod b.toInt) := by
      rw [Int32.ofInt_add, Int32.ofInt_mul, Int32.ofInt_toInt (a / b), Int32.toInt_mod]
    _ = Int32.ofInt (b.toInt * a.toInt.tdiv b.toInt + a.toInt.tmod b.toInt) := by
      rw [div_eq_ofInt, ← Int32.ofInt_mul, ← Int32.ofInt_add]
    _ = a := by rw [Int.mul_tdiv_add_tmod, Int32.ofInt_toInt]

theorem natAbs_mod_lt (a : Int32) {b : Int32} (nonzero : b ≠ 0) :
    (a % b).toInt.natAbs < b.toInt.natAbs := by
  have nonzero' : b.toInt ≠ 0 := fun zero => nonzero (Int32.toInt_inj.1 zero)
  rw [Int32.toInt_mod, Int.natAbs_tmod]
  exact Nat.mod_lt _ (Int.natAbs_pos.2 nonzero')

theorem mod_eq_zero_or_sign_eq (a b : Int32) : a % b = 0 ∨ (a % b).toInt.sign = a.toInt.sign := by
  rw [Int32.toInt_mod, Int.sign_tmod]
  by_cases whole : b.toInt ∣ a.toInt
  · refine .inl (Int32.toInt_inj.1 ?_)
    rw [Int32.toInt_mod]
    exact Int.dvd_iff_tmod_eq_zero.1 whole
  · exact .inr (if_neg whole)

end Arithmetic

/-! ## The instructions -/

namespace Runner

open Arithmetic
open Op (Number.table_listed)

theorem division_listed :
    (.divide, Op.Number.partialBinary quotient? fun _ _ => .divisionByZero) ∈ Op.Number.table ∧
    (.modulo, Op.Number.partialBinary remainder? fun _ _ => .divisionByZero) ∈ Op.Number.table :=
  ⟨Op.mem_of_lookup _ rfl, Op.mem_of_lookup _ rfl⟩

section Instructions

variable {r : Runner} (standard : r.registry = Op.standard)

include standard

theorem scale_yields {a b c n : Int32} (answer : scale? a b c = some n) :
    r.Yields .scale [.int a, .int b, .int c] (.int n) :=
  yields_of_value (h := Op.Number.scale) standard Number.table_listed (Op.mem_of_lookup _ rfl)
    (fun _ _ => rfl) answer

theorem scale_refuses (a c : Int32) : r.Refuses .scale [.int a, .int 0, .int c] .divisionByZero :=
  refuses_of_no_value (h := Op.Number.scale) standard Number.table_listed (Op.mem_of_lookup _ rfl)
    (fun _ _ => rfl) (if_pos rfl : scale? a 0 c = none)

theorem interpolate_yields {y0 y1 x0 x1 x n : Int32} (answer : interpolate? y0 y1 x0 x1 x = some n) :
    r.Yields .interpolate [.int y0, .int y1, .int x0, .int x1, .int x] (.int n) :=
  yields_of_value (h := Op.Number.interpolate) standard Number.table_listed
    (Op.mem_of_lookup _ rfl) (fun _ _ => rfl) answer

theorem interpolate_refuses (y0 y1 x0 x : Int32) :
    r.Refuses .interpolate [.int y0, .int y1, .int x0, .int x0, .int x] .divisionByZero :=
  refuses_of_no_value (h := Op.Number.interpolate) standard Number.table_listed
    (Op.mem_of_lookup _ rfl) (fun _ _ => rfl) (interpolate?_self y0 y1 x0 x)

theorem division_yields {a b : Int32} (nonzero : b ≠ 0) :
    r.Yields .divide [.int a, .int b] (.int (a / b)) ∧
    r.Yields .modulo [.int a, .int b] (.int (a % b)) :=
  ⟨partialBinary_yields standard division_listed.1 (if_neg nonzero),
    partialBinary_yields standard division_listed.2 (if_neg nonzero)⟩

theorem division_refuses (a : Int32) :
    r.Refuses .divide [.int a, .int 0] .divisionByZero ∧
    r.Refuses .modulo [.int a, .int 0] .divisionByZero :=
  ⟨partialBinary_refuses standard division_listed.1 (if_pos rfl),
    partialBinary_refuses standard division_listed.2 (if_pos rfl)⟩

end Instructions

/-- For all ints the instructions compute with unbounded integers and cut the result to 32 bits once, at the
    end.  SCALE and ADDPERCENT divide toward zero, and INTERPOLATE takes the floor of the exact slope.
    Quotient and remainder make up the dividend, up to a multiple of 2³², and the remainder is smaller than
    the divisor and has the sign of the dividend if it is not zero.

    Only divisors that are zero are refused. -/
theorem arithmetic_exact (library : Library) (config : Config) (budget : Option UInt32) :
    let r := Runner.standard library config budget
    (∀ a b : Int32,
      r.Yields .add [.int a, .int b] (.int (.ofInt (a.toInt + b.toInt))) ∧
      r.Yields .sub [.int a, .int b] (.int (.ofInt (a.toInt - b.toInt))) ∧
      r.Yields .multiply [.int a, .int b] (.int (.ofInt (a.toInt * b.toInt)))) ∧
    (∀ number percent : Int32, r.Yields .addpercent [.int number, .int percent]
      (.int (.ofInt (number.toInt + (number.toInt * percent.toInt).tdiv 100)))) ∧
    (∀ a b c : Int32,
      (b ≠ 0 → r.Yields .scale [.int a, .int b, .int c]
        (.int (.ofInt ((a.toInt * c.toInt).tdiv b.toInt)))) ∧
      (b = 0 → r.Refuses .scale [.int a, .int b, .int c] .divisionByZero)) ∧
    (∀ y0 y1 x0 x1 x : Int32,
      (x0 ≠ x1 → r.Yields .interpolate [.int y0, .int y1, .int x0, .int x1, .int x]
        (.int (.ofInt (⌊((y1.toInt - y0.toInt : Int) : ℚ) / ((x1.toInt - x0.toInt : Int) : ℚ)⌋ *
          (x.toInt - x0.toInt) + y0.toInt)))) ∧
      (x0 = x1 → r.Refuses .interpolate [.int y0, .int y1, .int x0, .int x1, .int x]
        .divisionByZero)) ∧
    ∀ a b : Int32,
      (b ≠ 0 → ∃ quotient remainder : Int32,
        r.Yields .divide [.int a, .int b] (.int quotient) ∧
        r.Yields .modulo [.int a, .int b] (.int remainder) ∧
        quotient = .ofInt (a.toInt.tdiv b.toInt) ∧
        .ofInt (b.toInt * quotient.toInt + remainder.toInt) = a ∧
        remainder.toInt.natAbs < b.toInt.natAbs ∧
        (remainder = 0 ∨ remainder.toInt.sign = a.toInt.sign)) ∧
      (b = 0 → r.Refuses .divide [.int a, .int b] .divisionByZero ∧
        r.Refuses .modulo [.int a, .int b] .divisionByZero) := by
  intro r
  have standard : r.registry = Op.standard := standard_registry library config budget
  refine ⟨fun a b => ⟨?_, ?_, ?_⟩, fun number percent => ?_, fun a b c => ⟨fun nonzero => ?_, ?_⟩,
    fun y0 y1 x0 x1 x => ⟨fun apart => ?_, ?_⟩, fun a b => ⟨fun nonzero => ?_, ?_⟩⟩
  · rw [Int32.ofInt_add, Int32.ofInt_toInt, Int32.ofInt_toInt]
    exact binary_yields (f := (· + ·)) standard (Op.mem_of_lookup _ rfl) a b
  · rw [Int32.ofInt_sub, Int32.ofInt_toInt, Int32.ofInt_toInt]
    exact binary_yields (f := (· - ·)) standard (Op.mem_of_lookup _ rfl) a b
  · rw [Int32.ofInt_mul, Int32.ofInt_toInt, Int32.ofInt_toInt]
    exact binary_yields (f := (· * ·)) standard (Op.mem_of_lookup _ rfl) a b
  · rw [← addPercent_eq]
    exact binary_yields (f := addPercent) standard (Op.mem_of_lookup _ rfl) number percent
  · exact scale_yields standard (scale?_eq nonzero)
  · rintro rfl
    exact scale_refuses standard a c
  · exact interpolate_yields standard (interpolate?_eq apart x)
  · rintro rfl
    exact interpolate_refuses standard y0 y1 x0 x
  · obtain ⟨divided, left⟩ := division_yields (a := a) standard nonzero
    exact ⟨a / b, a % b, divided, left, div_eq_ofInt a b, ofInt_div_add_mod a b,
      natAbs_mod_lt a nonzero, mod_eq_zero_or_sign_eq a b⟩
  · rintro rfl
    exact division_refuses standard a

/-- Operands at the limits.  The least int divided by -1 comes round to itself and leaves nothing; a slope of
    2³² - 1 over a distance of 2³² - 1 leaves 64 bits and still meets the exact value; a falling slope is
    rounded down; and the product of limits is scaled without loss. -/
theorem arithmetic_exact_limits :
    let r := Runner.standard .empty .empty none
    (∃ quotient remainder : Int32,
      r.Yields .divide [.int Int32.minValue, .int (-1)] (.int quotient) ∧
      r.Yields .modulo [.int Int32.minValue, .int (-1)] (.int remainder) ∧
      quotient = Int32.minValue ∧ remainder = 0) ∧
    r.Yields .interpolate [.int Int32.minValue, .int Int32.maxValue, .int Int32.minValue,
      .int (Int32.minValue + 1), .int Int32.maxValue] (.int (Int32.minValue + 1)) ∧
    r.Yields .interpolate [.int 10, .int 0, .int 0, .int 3, .int 1] (.int 6) ∧
    r.Yields .scale [.int Int32.minValue, .int Int32.maxValue, .int Int32.maxValue]
      (.int Int32.minValue) ∧
    r.Refuses .scale [.int 1, .int 0, .int 1] .divisionByZero := by
  intro r
  obtain ⟨-, -, scales, interpolates, divides⟩ := arithmetic_exact .empty .empty none
  refine ⟨?_, ?_, ?_, ?_, (scales 1 0 1).2 rfl⟩
  · obtain ⟨quotient, remainder, divided, left, value, -, smaller, -⟩ :=
      (divides Int32.minValue (-1)).1 (by decide)
    have one : (-1 : Int32).toInt.natAbs = 1 := by decide
    exact ⟨quotient, remainder, divided, left, value.trans (by decide),
      Int32.toInt_inj.1 (show remainder.toInt = 0 by omega)⟩
  · have yields := (interpolates Int32.minValue Int32.maxValue Int32.minValue (Int32.minValue + 1)
      Int32.maxValue).1 (by decide)
    rw [floor_div_eq_fdiv] at yields
    exact yields
  · have yields := (interpolates 10 0 0 3 1).1 (by decide)
    rw [floor_div_eq_fdiv] at yields
    exact yields
  · exact (scales Int32.minValue Int32.maxValue Int32.maxValue).1 (by decide)

end Runner

end TickScript
