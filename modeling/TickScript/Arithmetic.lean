/-
  The arithmetic of script ints.

  A script int has 32 bits and wraps.  Operations that multiply before they divide keep their
  intermediate values in 64 bits, which is wide enough for every pair of ints, and drop the high half at
  the end.  An operation that has no answer for its operands gives none.
-/

namespace TickScript.Arithmetic

/-- The integer if it fits a script int. -/
def fit? (n : Int) : Option Int32 :=
  if -2147483648 ≤ n && n ≤ 2147483647 then some (Int32.ofInt n) else none

/-- The script int nearest to an integer. -/
def clamp (n : Int) : Int32 :=
  if n < -2147483648 then -2147483648 else if 2147483647 < n then 2147483647 else Int32.ofInt n

/-- The sum, or the limit that it is beyond. -/
def saturatingAdd (a b : Int32) : Int32 := clamp (a.toInt + b.toInt)

/-- The sum, unless it is beyond a limit. -/
def checkedAdd? (a b : Int32) : Option Int32 := fit? (a.toInt + b.toInt)

/-- One for true and zero for false. -/
def ofBool (b : Bool) : Int32 := if b then 1 else 0

/-- The length of something as a script int. -/
def ofLength (n : Nat) : Int32 := Int32.ofNat n

/-! ## Division -/

/-- The quotient toward zero. -/
def quotient? (a b : Int32) : Option Int32 := if b = 0 then none else some (a / b)

/-- The remainder that goes with the quotient toward zero: zero or of the sign of `a`. -/
def remainder? (a b : Int32) : Option Int32 := if b = 0 then none else some (a % b)

/-- `a * c / b`, toward zero. -/
def scale? (a b c : Int32) : Option Int32 :=
  if b = 0 then none else some (a.toInt64 * c.toInt64 / b.toInt64).toInt32

/-- A number and a percentage of it, the latter toward zero. -/
def addPercent (number percent : Int32) : Int32 :=
  (number.toInt64 * percent.toInt64 / 100 + number.toInt64).toInt32

/-- The quotient toward negative infinity, of a divisor that is not zero. -/
def floorDiv (a b : Int64) : Int64 :=
  let q := a / b
  if a % b ≠ 0 ∧ (decide (a < 0) != decide (b < 0)) then q - 1 else q

/-- The value at `x` of the line from `(x0, y0)` to `(x1, y1)`.  Its slope is rounded down to an integer
    before it is applied. -/
def interpolate? (y0 y1 x0 x1 x : Int32) : Option Int32 :=
  let run := x1.toInt64 - x0.toInt64
  if run = 0 then none
  else
    let slope := floorDiv (y1.toInt64 - y0.toInt64) run
    some (slope * (x.toInt64 - x0.toInt64) + y0.toInt64).toInt32

/-! ## Bits -/

/-- The int with just that bit. -/
def bit? (index : Int32) : Option Int32 :=
  if 0 ≤ index && index < 32 then some (1 <<< index) else none

/-- The number of bits set. -/
def bitCount (n : Int32) : Int32 :=
  Int32.ofNat ((List.range 32).countP n.toBitVec.toNat.testBit)

/-! ## Powers and roots -/

/-- `base ^ exponent`, squaring once for each of the exponent's `bits`. -/
def powBits : Nat → Int32 → Nat → Int32
  | 0, _, _ => 1
  | bits + 1, base, exponent =>
    let rest := powBits bits (base * base) (exponent / 2)
    if exponent % 2 = 1 then base * rest else rest

/-- The power; a negative exponent has none. -/
def pow? (base exponent : Int32) : Option Int32 :=
  if exponent < 0 then none else some (powBits 32 base exponent.toNatClampNeg)

/-- The product of two numbers that are not negative, if it fits a signed number of 64 bits. -/
def checkedMul? (a b : Nat) : Option Nat :=
  if a * b < 9223372036854775808 then some (a * b) else none

/-- `product * base ^ exponent` for an exponent that is not zero, if no step is too large.  The base is
    squared once for each bit of the exponent but the last. -/
def checkedPowFrom? (product base exponent : Nat) : Option Nat :=
  if exponent ≤ 1 then checkedMul? product base
  else if exponent % 2 = 1 then do
    checkedPowFrom? (← checkedMul? product base) (← checkedMul? base base) (exponent / 2)
  else do checkedPowFrom? product (← checkedMul? base base) (exponent / 2)
termination_by exponent

/-- The power if it fits a signed number of 64 bits. -/
def checkedPow? (base exponent : Nat) : Option Nat :=
  if exponent = 0 then some 1 else checkedPowFrom? 1 base exponent

/-- Whether the power of `root` is at most `n`.  A power that does not fit counts as too large. -/
def powFits (exponent n root : Nat) : Bool := (checkedPow? root exponent).any (· ≤ n)

theorem checkedMul?_eq_some {a b c : Nat} (h : checkedMul? a b = some c) : c = a * b := by
  unfold checkedMul? at h
  split at h
  · exact (Option.some.inj h).symm
  · nomatch h

/-- A power that fits is at least its base. -/
theorem le_of_checkedPowFrom?_eq_some (product base exponent : Nat) : ∀ power, 0 < product →
    checkedPowFrom? product base exponent = some power → base ≤ power := by
  fun_induction checkedPowFrom? product base exponent with
  | case1 product base exponent last =>
    intro power positive h
    rw [checkedMul?_eq_some h]
    exact Nat.le_mul_of_pos_left base positive
  | case2 product base exponent more odd ih =>
    intro power positive h
    obtain ⟨product', multiplied, h⟩ := Option.bind_eq_some_iff.1 h
    obtain ⟨square, squared, h⟩ := Option.bind_eq_some_iff.1 h
    rcases Nat.eq_zero_or_pos base with rfl | nonzero
    · exact Nat.zero_le power
    have positive' : 0 < product' := checkedMul?_eq_some multiplied ▸ Nat.mul_pos positive nonzero
    have above : square ≤ power := ih product' square power positive' h
    rw [checkedMul?_eq_some squared] at above
    exact Nat.le_trans (Nat.le_mul_of_pos_left base nonzero) above
  | case3 product base exponent more even ih =>
    intro power positive h
    obtain ⟨square, squared, h⟩ := Option.bind_eq_some_iff.1 h
    have above : square ≤ power := ih square power positive h
    rw [checkedMul?_eq_some squared] at above
    exact Nat.le_trans (Nat.le_mul_self base) above

/-- Only numbers up to `n` have powers up to `n`. -/
theorem le_of_powFits {exponent n root : Nat} (positive : exponent ≠ 0)
    (fits : powFits exponent n root) : root ≤ n := by
  obtain ⟨power, computed, bounded⟩ := (Option.any_eq_true ..).1 fits
  unfold checkedPow? at computed
  rw [if_neg positive] at computed
  have above := le_of_checkedPowFrom?_eq_some 1 root exponent power Nat.one_pos computed
  exact Nat.le_trans above (of_decide_eq_true bounded)

/-- The next number down from an estimate whose power is not too large. -/
def lowerRoot (exponent n : Nat) : Nat → Nat
  | 0 => 0
  | root + 1 => if powFits exponent n (root + 1) then root + 1 else lowerRoot exponent n root

/-- The last number up from a root before a power that is too large. -/
def raiseRoot (exponent n : Nat) (positive : exponent ≠ 0) (root : Nat) : Nat :=
  if powFits exponent n (root + 1) then raiseRoot exponent n positive (root + 1) else root
termination_by n - root
decreasing_by
  rename_i fits
  have bounded := le_of_powFits positive fits
  omega

/-- The root, rounded down, that an estimate is corrected to. -/
def correctedRoot (exponent n : Nat) (positive : exponent ≠ 0) (estimate : Nat) : Nat :=
  raiseRoot exponent n positive (lowerRoot exponent n estimate)

/-- The floating-point power as an estimate of the root.  It may be off in either direction. -/
def estimatedRoot (number exponent : Int32) : Nat :=
  (number.toFloat.pow (1.0 / exponent.toFloat)).toInt64.toNatClampNeg

theorem toNatClampNeg_ne_zero {n : Int32} (h : 0 < n) : n.toNatClampNeg ≠ 0 := by
  have positive : 0 < n.toInt := Int32.lt_iff_toInt_lt.1 h
  unfold Int32.toNatClampNeg
  omega

/-- The root, rounded down, of a number that is not negative and for a positive exponent. -/
def root? (number exponent : Int32) : Option Int32 :=
  if h : 0 ≤ number ∧ 0 < exponent then
    some (Int32.ofNat (correctedRoot exponent.toNatClampNeg number.toNatClampNeg
      (toNatClampNeg_ne_zero h.2) (estimatedRoot number exponent)))
  else none

end TickScript.Arithmetic
