import Mathlib.Data.Int.CardIntervalMod
import Mathlib.Data.Set.Card
import TickScript.Proofs.Packing
import TickScript.Rng

/-
  Random numbers below a bound: the draw ends, and it favours no number.

  A draw takes outputs until one lies in the zone, which is cut so that the bound divides it, and reduces
  that one modulo the bound.  So there are two things to say.  One is about the outputs in a row: from
  every counter a draw takes some rejected ones and one more.  The other is about all outputs there are:
  the zone is a whole number of rounds through the residues, and there is no room for one round more.

    outputs                 the next so many outputs of a generator
    draw_outputs            a draw takes the rejected outputs and the first that is not
    count_residue           every residue belongs to equally many outputs of the zone
    count_rejected          what lies above the zone is less than one round
    below_unbiased          both halves, for bounds that are script ints
-/

namespace TickScript.Rng

/-! ## Outputs in a row -/

/-- The next so many outputs, and the generator after them. -/
def outputs : Nat → Rng → List UInt32 × Rng
  | 0, r => ([], r)
  | n + 1, r =>
    let (u, after) := r.next
    let (us, last) := outputs n after
    (u :: us, last)

@[simp] theorem outputs_zero (r : Rng) : r.outputs 0 = ([], r) := rfl

theorem outputs_succ (n : Nat) (r : Rng) :
    r.outputs (n + 1) = (r.advance.output :: (r.advance.outputs n).1, (r.advance.outputs n).2) := by
  rw [outputs, next]

theorem outputs_of_advance {n : Nat} {r last : Rng} {us : List UInt32}
    (h : r.advance.outputs n = (us, last)) : r.outputs (n + 1) = (r.advance.output :: us, last) := by
  rw [outputs_succ, h]

/-- Each output has moved the counter by one step. -/
theorem state_outputs (n : Nat) (r : Rng) :
    (r.outputs n).2.state = r.state + .ofNat n * increment := by
  induction n generalizing r with
  | zero =>
    show r.state = r.state + 0 * increment
    rw [UInt32.zero_mul, UInt32.add_zero]
  | succ n ih =>
    have moved : r.advance.state = r.state + increment := rfl
    rw [outputs_succ, ih, moved, UInt32.ofNat_add, UInt32.ofNat_one, UInt32.add_mul, UInt32.one_mul,
      UInt32.add_assoc, UInt32.add_comm increment]

variable {bound : UInt32}

/-- Zero is never rejected, so a counter whose output is rejected has still some way to zero. -/
theorem state_ne_zero_of_rejected (h : bound ≠ 0) {r : Rng} (rejected : zone bound.toNat ≤ r.output.toNat) :
    r.state ≠ 0 := by
  intro zero
  have start : r = ⟨0⟩ := by cases r; exact congrArg mk zero
  rw [start, output_zero] at rejected
  exact absurd (zone_pos h) (Nat.not_lt.2 rejected)

theorem draw_of_accepted (h : bound ≠ 0) {r : Rng}
    (accepted : r.advance.output.toNat < zone bound.toNat) :
    r.draw bound h = (r.advance.output % bound, r.advance) := by
  rw [draw.eq_def]
  exact if_pos accepted

theorem draw_of_rejected (h : bound ≠ 0) {r : Rng}
    (rejected : zone bound.toNat ≤ r.advance.output.toNat) :
    r.draw bound h = r.advance.draw bound h := by
  rw [draw.eq_def]
  exact if_neg (Nat.not_lt.2 rejected)

/-- A draw takes the outputs that are rejected and one more, which lies in the zone and is reduced. -/
theorem draw_outputs (h : bound ≠ 0) (r : Rng) : ∃ rejected u,
    r.outputs (rejected.length + 1) = (rejected ++ [u], (r.draw bound h).2) ∧
    (∀ v ∈ rejected, zone bound.toNat ≤ v.toNat) ∧ u.toNat < zone bound.toNat ∧
    (r.draw bound h).1 = u % bound ∧ rejected.length ≤ r.advance.stepsToZero := by
  induction r using draw.induct bound h with
  | case1 r accepted =>
    refine ⟨[], r.advance.output, ?_, List.forall_mem_nil _, accepted, ?_, Nat.zero_le _⟩
    · rw [draw_of_accepted h accepted]
      exact outputs_of_advance (outputs_zero _)
    · rw [draw_of_accepted h accepted]
  | case2 r outside ih =>
    have outside : zone bound.toNat ≤ r.advance.output.toNat := Nat.not_lt.1 outside
    have nearer := stepsToZero_advance_lt (state_ne_zero_of_rejected h outside)
    rw [draw_of_rejected h outside]
    -- From here on the recursive call is only a pair, which nothing should try to evaluate.
    generalize r.advance.draw bound h = drawn at ih ⊢
    obtain ⟨rejected, u, taken, all, accepted, value, bounded⟩ := ih
    refine ⟨r.advance.output :: rejected, u, ?_, ?_, accepted, value, ?_⟩
    · exact outputs_of_advance taken
    · exact List.forall_mem_cons.2 ⟨outside, all⟩
    · exact Nat.lt_of_le_of_lt bounded nearer

/-! ## All outputs -/

/-- Outputs are counted by their values. -/
theorem ncard_outputs (p : Nat → Prop) [DecidablePred p] :
    {u : UInt32 | p u.toNat}.ncard = Nat.count p 4294967296 := by
  have image : UInt32.toNat '' {u | p u.toNat} =
      ↑((Finset.range 4294967296).filter p) := by
    ext n
    simp only [Set.mem_image, Set.mem_ofPred_eq, Finset.coe_filter, Finset.mem_range]
    constructor
    · rintro ⟨u, hu, rfl⟩
      exact ⟨u.toNat_lt, hu⟩
    · rintro ⟨small, hn⟩
      have same : (UInt32.ofNat n).toNat = n := UInt32.toNat_ofNat_of_lt' small
      exact ⟨UInt32.ofNat n, by rwa [same], same⟩
  rw [← Set.ncard_image_of_injective _ fun _ _ => UInt32.toNat_inj.1, image, Set.ncard_coe_finset,
    Nat.count_eq_card_filter_range]

theorem zone_le (b : Nat) : zone b ≤ 4294967296 := Nat.div_mul_le_self _ _

/-- The zone holds every residue once in each of its rounds. -/
theorem count_residue {b residue : Nat} (small : residue < b) :
    Nat.count (fun n => n < zone b ∧ n % b = residue) 4294967296 = 4294967296 / b := by
  have pos : 0 < b := Nat.zero_lt_of_lt small
  have cut : (Finset.range 4294967296).filter (fun n => n < zone b ∧ n % b = residue) =
      (Finset.range (zone b)).filter (· ≡ residue [MOD b]) := by
    ext n
    -- up to the zone it is a matter of the residue alone, and the zone is among all outputs
    have inside := zone_le b
    simp only [Finset.mem_filter, Finset.mem_range, Nat.ModEq, Nat.mod_eq_of_lt small]
    omega
  rw [Nat.count_eq_card_filter_range, cut, ← Nat.count_eq_card_filter_range,
    Nat.count_modEq_card _ pos]
  unfold zone
  rw [Nat.mul_div_cancel _ pos, Nat.mul_mod_left, if_neg (Nat.not_lt_zero _), Nat.add_zero]

/-- Above the zone there is less than one round. -/
theorem count_rejected (b : Nat) :
    Nat.count (fun n => zone b ≤ n) 4294967296 = 4294967296 % b := by
  have cut : (Finset.range 4294967296).filter (fun n => zone b ≤ n) =
      Finset.Ico (zone b) 4294967296 := by
    ext n
    simp only [Finset.mem_filter, Finset.mem_range, Finset.mem_Ico]
    exact and_comm
  rw [Nat.count_eq_card_filter_range, cut, Nat.card_Ico]
  have whole := Nat.div_add_mod' 4294967296 b
  unfold zone
  omega

/-! ## Bounds that are script ints -/

theorem toNat_toUInt32 {bound : Int32} (h : 0 < bound) : bound.toUInt32.toNat = bound.toNatClampNeg := by
  have pos : 0 < bound.toInt := Int32.lt_iff_toInt_lt.1 h
  unfold Int32.toNatClampNeg
  rw [Int32.toInt_eq_toNat_cond] at pos ⊢
  split at pos
  next small => rw [if_pos small, Int.toNat_natCast]; rfl
  next => have := bound.toBitVec.isLt; omega

/-- A number below the sign bit is the same as a script int. -/
theorem toInt_toInt32 {u : UInt32} (small : u.toNat < 2147483648) : u.toInt32.toInt = u.toNat := by
  have same : u.toInt32.toBitVec.toNat = u.toNat := rfl
  rw [Int32.toInt_eq_toNat_cond, same, if_pos (by omega)]

theorem below_of_drawn {bound : Int32} (pos : 0 < bound) {r after : Rng} {value : UInt32}
    (drawn : r.draw bound.toUInt32 (toUInt32_ne_zero pos) = (value, after)) :
    below bound r = (value.toInt32, after) := by
  unfold below
  rw [dif_pos pos, drawn]

/-- For a bound that is not positive a draw gives zero and takes no output.  For a positive bound it takes the
    outputs that are rejected and the first that lies in the zone, and gives this one modulo the bound; the
    counter has moved by as many steps as there were outputs.  The zone is not empty, every number below the
    bound is the result for the same number of outputs, and what is left of a round is rejected. -/
theorem below_unbiased (bound : Int32) :
    (bound ≤ 0 → ∀ r, below bound r = (0, r)) ∧
    (0 < bound →
      let n := bound.toNatClampNeg
      (∀ r : Rng, ∃ rejected u,
        r.outputs (rejected.length + 1) = (rejected ++ [u], (below bound r).2) ∧
        (∀ v ∈ rejected, zone n ≤ v.toNat) ∧ u.toNat < zone n ∧
        (below bound r).1.toInt = (u.toNat % n : Nat) ∧
        0 ≤ (below bound r).1 ∧ (below bound r).1 < bound ∧
        (below bound r).2.state = r.state + .ofNat (rejected.length + 1) * increment ∧
        rejected.length < 4294967296) ∧
      0 < zone n ∧
      (∀ residue < n,
        {u : UInt32 | u.toNat < zone n ∧ u.toNat % n = residue}.ncard = 4294967296 / n) ∧
      {u : UInt32 | zone n ≤ u.toNat}.ncard = 4294967296 % n) := by
  constructor
  · intro nonpos r
    exact dif_neg fun pos => absurd nonpos (Int32.not_le.2 pos)
  · intro pos n
    have ne : bound.toUInt32 ≠ 0 := toUInt32_ne_zero pos
    have same : bound.toUInt32.toNat = n := toNat_toUInt32 pos
    have whole : bound.toInt = n :=
      (Int.toNat_of_nonneg (Int32.lt_iff_toInt_lt.1 pos).le).symm
    have positive : 0 < n := same ▸ Nat.pos_of_ne_zero fun zero => ne (UInt32.toNat_inj.1 zero)
    have limit : n < 2147483648 := by
      have := bound.toInt_lt
      omega
    refine ⟨fun r => ?_, same ▸ zone_pos ne, fun residue small => ?_, ?_⟩
    · obtain ⟨rejected, u, taken, all, accepted, reduced, bounded⟩ := draw_outputs ne r
      obtain ⟨⟨value, after⟩, drawn⟩ : ∃ d, r.draw bound.toUInt32 ne = d := ⟨_, rfl⟩
      rw [drawn] at taken reduced
      rw [same] at all accepted
      have fewer : u.toNat % n < n := Nat.mod_lt _ positive
      have rest : value.toNat = u.toNat % n := by
        rw [show value = u % bound.toUInt32 from reduced, UInt32.toNat_mod, same]
      have result : value.toInt32.toInt = (u.toNat % n : Nat) := by
        rw [toInt_toInt32 (by omega), rest]
      have moved := r.state_outputs (rejected.length + 1)
      rw [taken] at moved
      rw [below_of_drawn pos drawn]
      refine ⟨rejected, u, taken, all, accepted, result, ?_, ?_, moved, ?_⟩
      · rw [Int32.le_iff_toInt_le, result]
        exact Int.natCast_nonneg _
      · rw [Int32.lt_iff_toInt_lt, result, whole]
        exact Int.ofNat_lt.2 fewer
      · exact Nat.lt_of_le_of_lt bounded (UInt32.toNat_lt _)
    · rw [ncard_outputs fun m => m < zone n ∧ m % n = residue, count_residue small]
    · rw [ncard_outputs (zone n ≤ ·), count_rejected]

/-- Below 2³⁰ + 1 the generator at 4 has its first output rejected, and draws from the second. -/
theorem below_unbiased_secondOutput :
    (0 : Int32) < 1073741825 ∧ (below 1073741825 ⟨4⟩).1 = 356679335 ∧
      (below 1073741825 ⟨4⟩).2.state = 3663131630 := by
  refine ⟨by decide, ?_⟩
  obtain ⟨rejected, u, taken, all, accepted, value, -, -, moved, -⟩ :=
    ((below_unbiased 1073741825).2 (by decide)).1 ⟨4⟩
  have zone : zone (1073741825 : Int32).toNatClampNeg = 3221225475 := by decide
  have first : (⟨4⟩ : Rng).advance.output = 3966987260 := by decide
  have second : (⟨4⟩ : Rng).advance.advance.output = 1430421160 := by decide
  rw [zone] at all accepted
  rcases rejected with _ | ⟨v, _ | ⟨w, rest⟩⟩
  · rw [List.length_nil, outputs_of_advance (outputs_zero _), first] at taken
    obtain ⟨rfl, -⟩ : 3966987260 = u ∧ _ := by simpa using taken
    exact absurd accepted (by decide)
  · rw [List.length_singleton, outputs_of_advance (outputs_of_advance (outputs_zero _)), first,
      second] at taken
    obtain ⟨⟨rfl, rfl⟩, -⟩ : (3966987260 = v ∧ 1430421160 = u) ∧ _ := by simpa using taken
    exact ⟨Int32.toInt_inj.1 (value.trans (by decide)), moved.trans (by decide)⟩
  · rw [List.length_cons, List.length_cons, outputs_succ, outputs_succ, second] at taken
    obtain ⟨⟨-, rfl, -⟩, -⟩ : (_ ∧ 1430421160 = w ∧ _) ∧ _ := by simpa using taken
    exact absurd (all 1430421160 (by simp)) (by decide)

end TickScript.Rng
