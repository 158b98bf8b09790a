import TickScript.Json.Form

/-
  The world's random numbers: a 32-bit counter that is scrambled into each output, so that a recorded run
  can be replayed exactly from the counter alone.

  A bounded draw rejects the outputs above the largest multiple of the bound, since they would favour the
  small residues.  That the rejections end needs an argument, and it is the one by which `draw` is
  accepted as a definition: the step is odd, so the counter passes through every value; at zero the output
  is zero, which no bound rejects; and each rejected output brings the counter nearer to zero.
-/

namespace TickScript

/-- A generator, by its counter. -/
structure Rng where
  state : UInt32
  deriving DecidableEq

/-- The bare counter. -/
instance : JsonForm Rng where
  toJson r := toJson r.state
  ofJson? v := (ofJson? v).map Rng.mk

namespace Rng

/-- The generator of a world that names none. -/
def initial : Rng := ⟨0x12345678⟩

/-- The counter's step. -/
def increment : UInt32 := 0x6d2b79f5

/-- The inverse of the step, modulo 2³². -/
def incrementInverse : UInt32 := 0xdc58aa5d

/-- The generator one step on. -/
def advance (r : Rng) : Rng := ⟨r.state + increment⟩

/-- The output that belongs to a counter. -/
def output (r : Rng) : UInt32 :=
  let a := (r.state ^^^ (r.state >>> 15)) * (r.state ||| 1)
  let b := a ^^^ (a + (a ^^^ (a >>> 7)) * (a ||| 61))
  b ^^^ (b >>> 14)

/-- The next output, and the generator after it. -/
def next (r : Rng) : UInt32 × Rng := (r.advance.output, r.advance)

/-- The largest multiple of the bound up to 2³²; outputs from there on are rejected. -/
def zone (bound : Nat) : Nat := 4294967296 / bound * bound

/-! ## The way to zero -/

/-- How many steps bring the counter to zero. -/
def stepsToZero (r : Rng) : Nat := ((0 - r.state) * incrementInverse).toNat

/-- The output at zero is zero. -/
theorem output_zero : (Rng.mk 0).output = 0 := by decide

private theorem neg_mul_inverse_eq_zero {s : UInt32} (h : (0 - s) * incrementInverse = 0) : s = 0 := by
  have : s = 0 - ((0 - s) * incrementInverse) * increment := by
    unfold increment incrementInverse; grind
  rw [h] at this; simpa using this

private theorem pred_toNat_lt {x : UInt32} (h : x ≠ 0) : (x - 1).toNat < x.toNat := by
  have pos : x.toNat ≠ 0 := fun e => h (UInt32.toNat_inj.1 (by simpa using e))
  have lt := UInt32.toNat_lt x
  rw [UInt32.toNat_sub]
  simp only [UInt32.toNat_one]; omega

/-- A step from anywhere but zero leads nearer to zero. -/
theorem stepsToZero_advance_lt {r : Rng} (h : r.state ≠ 0) :
    r.advance.stepsToZero < r.stepsToZero := by
  have step : (0 - (r.state + increment)) * incrementInverse =
      (0 - r.state) * incrementInverse - 1 := by
    unfold increment incrementInverse; grind
  unfold stepsToZero advance
  rw [step]
  exact pred_toNat_lt fun e => h (neg_mul_inverse_eq_zero e)

theorem zone_pos {bound : UInt32} (h : bound ≠ 0) : 0 < zone bound.toNat := by
  have pos : 0 < bound.toNat :=
    Nat.pos_of_ne_zero fun e => h (UInt32.toNat_inj.1 (by simpa using e))
  have lt := UInt32.toNat_lt bound
  exact Nat.mul_pos (Nat.div_pos (by omega) pos) pos

/-! ## Bounded draws -/

/-- The first output below the zone, reduced modulo the bound, and the generator after it. -/
def draw (bound : UInt32) (h : bound ≠ 0) (r : Rng) : UInt32 × Rng :=
  if r.advance.output.toNat < zone bound.toNat then (r.advance.output % bound, r.advance)
  else draw bound h r.advance
termination_by r.advance.stepsToZero
decreasing_by
  rename_i rejected
  refine stepsToZero_advance_lt fun zero => rejected ?_
  have : r.advance = ⟨0⟩ := by cases hr : r.advance; simp_all
  rw [this, output_zero]
  exact zone_pos h

theorem toUInt32_ne_zero {bound : Int32} (h : 0 < bound) : bound.toUInt32 ≠ 0 := fun e => by
  have zero : bound = 0 := by cases bound; simp_all; rfl
  rw [zero] at h
  exact absurd h (by decide)

/-- A number from zero up to but without the bound; a bound that is not positive gives zero and leaves
    the generator as it is. -/
def below (bound : Int32) (r : Rng) : Int32 × Rng :=
  if h : 0 < bound then
    let (value, after) := r.draw bound.toUInt32 (toUInt32_ne_zero h)
    (value.toInt32, after)
  else (0, r)

end Rng

end TickScript
