import TickScript.Proofs.Computing
import TickScript.Proofs.Packing

/-
  Coordinates on the int stack.

  A packed coordinate is read by cutting off low bits and masking the rest.  For numbers with a sign both are
  division with remainder, rounded down, so that a packed form and what is read from it are related by
  linear arithmetic alone.  Everything comes from what is read back from the packed form of ANY square:

    toInt_unpack             the fields of a packed form as quotients and remainders
    emod_toInt_toScriptInt   what of a square the int stack keeps
    readBack_x, readBack_z   read back, x and z are reduced to fourteen bits
    readBack_level           and of the level four bits are left, the highest of them as its sign
    coordinates_faithful     the round trips, and what moving a square does to each axis
-/

namespace TickScript

namespace Coord

/-! ## Fields -/

theorem toInt_and_mask (n : Int64) : (n &&& mask).toInt = n.toInt % 16384 := by
  have low : (n &&& mask).toBitVec.toNat = n.toBitVec.toNat % 16384 := by
    show (n.toBitVec &&& 16383#64).toNat = _
    rw [BitVec.toNat_and]
    exact Nat.and_two_pow_sub_one_eq_mod n.toBitVec.toNat 14
  have bits := n.toBitVec.isLt
  rw [← Int64.toInt_toBitVec, ← Int64.toInt_toBitVec, BitVec.toInt_eq_toNat_cond,
    BitVec.toInt_eq_toNat_cond, low]
  -- 2⁶⁴ is a multiple of 2¹⁴, so the sign makes no difference
  split <;> split <;> omega

theorem toInt_shiftRight (n : Int64) : (n >>> 28).toInt = n.toInt / 268435456 ∧
    (n >>> 14).toInt = n.toInt / 16384 := by
  constructor
  · show (n.toBitVec.sshiftRight 28).toInt = _
    rw [BitVec.toInt_sshiftRight, Int.shiftRight_eq_div_pow]
    rfl
  · show (n.toBitVec.sshiftRight 14).toInt = _
    rw [BitVec.toInt_sshiftRight, Int.shiftRight_eq_div_pow]
    rfl

/-- A field is too small to be changed by the cut to 32 bits. -/
theorem toInt_field (n : Int64) : (n &&& mask).toInt32.toInt = n.toInt % 16384 := by
  rw [Int64.toInt_toInt32, toInt_and_mask]
  exact Int.bmod_eq_of_le (by omega) (by omega)

/-- The fields of a packed form, which may be negative. -/
theorem toInt_unpack (packed : Int64) :
    (unpack packed).level.toInt = packed.toInt / 268435456 % 16384 ∧
    (unpack packed).x.toInt = packed.toInt / 16384 % 16384 ∧
    (unpack packed).z.toInt = packed.toInt % 16384 := by
  obtain ⟨high, middle⟩ := toInt_shiftRight packed
  refine ⟨?_, ?_, toInt_field packed⟩
  · rw [← high]
    exact toInt_field _
  · rw [← middle]
    exact toInt_field _

theorem toInt_ofScriptInt (packed : Int32) :
    (ofScriptInt packed).level.toInt = packed.toInt / 268435456 % 16384 ∧
    (ofScriptInt packed).x.toInt = packed.toInt / 16384 % 16384 ∧
    (ofScriptInt packed).z.toInt = packed.toInt % 16384 := by
  rw [← Int32.toInt_toInt64 packed]
  exact toInt_unpack packed.toInt64

/-! ## Packing -/

/-- The packed form as one number. -/
theorem toInt_pack (c : Coord) : c.pack.toInt = 268435456 * (c.level.toInt % 16384) +
    16384 * (c.x.toInt % 16384) + c.z.toInt % 16384 := by
  have field : ∀ n : Int32, ((n.toInt64 &&& mask).toBitVec.toNat : Int) = n.toInt % 16384 := by
    intro n
    have masked := toInt_and_mask n.toInt64
    rw [Int32.toInt_toInt64, ← Int64.toInt_toBitVec, BitVec.toInt_eq_toNat_cond] at masked
    split at masked <;> omega
  have level := field c.level
  have x := field c.x
  have z := field c.z
  have low : ((c.x.toInt64 &&& mask).toBitVec <<< 14 ||| (c.z.toInt64 &&& mask).toBitVec).toNat =
      16384 * ((c.x.toInt64 &&& mask).toBitVec.toNat % 1125899906842624) +
        (c.z.toInt64 &&& mask).toBitVec.toNat :=
    toNat_shiftLeft_or (by decide) (by omega)
  have whole : ((c.level.toInt64 &&& mask).toBitVec <<< 28 |||
      ((c.x.toInt64 &&& mask).toBitVec <<< 14 ||| (c.z.toInt64 &&& mask).toBitVec)).toNat =
      268435456 * ((c.level.toInt64 &&& mask).toBitVec.toNat % 68719476736) +
        ((c.x.toInt64 &&& mask).toBitVec <<< 14 ||| (c.z.toInt64 &&& mask).toBitVec).toNat :=
    toNat_shiftLeft_or (by decide) (by omega)
  have packed : c.pack.toBitVec = (c.level.toInt64 &&& mask).toBitVec <<< 28 |||
      ((c.x.toInt64 &&& mask).toBitVec <<< 14 ||| (c.z.toInt64 &&& mask).toBitVec) :=
    BitVec.or_assoc ..
  rw [← Int64.toInt_toBitVec, packed, BitVec.toInt_eq_toNat_cond, whole, low]
  split <;> omega

/-- The int stack keeps the packed form up to multiples of 2³². -/
theorem emod_toInt_toScriptInt (c : Coord) : c.toScriptInt.toInt % 4294967296 =
    (268435456 * (c.level.toInt % 16384) + 16384 * (c.x.toInt % 16384) + c.z.toInt % 16384) %
      4294967296 := by
  show c.pack.toInt32.toInt % 4294967296 = _
  rw [Int64.toInt_toInt32, toInt_pack]
  exact Int.bmod_emod ..

theorem toInt_bounds (n : Int32) : -2147483648 ≤ n.toInt ∧ n.toInt < 2147483648 :=
  ⟨n.le_toInt, n.toInt_lt⟩

/-! ## Reading back -/

/-- The square that is read back from the int stack. -/
def readBack (c : Coord) : Coord := ofScriptInt c.toScriptInt

variable (c : Coord)

theorem readBack_x : c.readBack.x.toInt = c.x.toInt % 16384 := by
  have kept := c.emod_toInt_toScriptInt
  rw [readBack, (toInt_ofScriptInt _).2.1]
  omega

theorem readBack_z : c.readBack.z.toInt = c.z.toInt % 16384 := by
  have kept := c.emod_toInt_toScriptInt
  rw [readBack, (toInt_ofScriptInt _).2.2]
  omega

/-- The fourth bit of the level ends up as the sign, and fills the level when it is read. -/
theorem readBack_level : c.readBack.level.toInt =
    if c.level.toInt % 16 < 8 then c.level.toInt % 16 else c.level.toInt % 16 + 16368 := by
  have kept := c.emod_toInt_toScriptInt
  have bounds := toInt_bounds c.toScriptInt
  rw [readBack, (toInt_ofScriptInt _).1]
  split <;> omega

/-- Every field takes no more than fourteen bits. -/
structure InRange : Prop where
  level : 0 ≤ c.level ∧ c.level ≤ 16383
  x : 0 ≤ c.x ∧ c.x ≤ 16383
  z : 0 ≤ c.z ∧ c.z ≤ 16383

variable {c}

theorem toInt_bounds_of_le {n : Int32} (h : 0 ≤ n ∧ n ≤ 16383) : 0 ≤ n.toInt ∧ n.toInt ≤ 16383 :=
  ⟨Int32.le_iff_toInt_le.1 h.1, Int32.le_iff_toInt_le.1 h.2⟩

theorem ext_toInt {a b : Coord} (level : a.level.toInt = b.level.toInt) (x : a.x.toInt = b.x.toInt)
    (z : a.z.toInt = b.z.toInt) : a = b := by
  obtain ⟨l, x₁, z₁⟩ := a
  obtain ⟨l', x', z'⟩ := b
  obtain rfl := Int32.toInt_inj.1 level
  obtain rfl := Int32.toInt_inj.1 x
  obtain rfl := Int32.toInt_inj.1 z
  rfl

/-- Nothing is lost in 64 bits. -/
theorem unpack_pack (h : c.InRange) : unpack c.pack = c := by
  have level := toInt_bounds_of_le h.level
  have x := toInt_bounds_of_le h.x
  have z := toInt_bounds_of_le h.z
  have packed := c.toInt_pack
  obtain ⟨readLevel, readX, readZ⟩ := toInt_unpack c.pack
  refine ext_toInt ?_ ?_ ?_ <;> omega

/-- On the int stack the level has to be one that its sign bit tells. -/
theorem readBack_eq_iff (h : c.InRange) : c.readBack = c ↔ c.level ≤ 7 ∨ 16376 ≤ c.level := by
  have level := toInt_bounds_of_le h.level
  have x := toInt_bounds_of_le h.x
  have z := toInt_bounds_of_le h.z
  have low : c.level ≤ 7 ↔ c.level.toInt ≤ 7 := Int32.le_iff_toInt_le
  have high : 16376 ≤ c.level ↔ 16376 ≤ c.level.toInt := Int32.le_iff_toInt_le
  have read := c.readBack_level
  rw [low, high]
  constructor
  · intro same
    rw [same] at read
    split at read <;> omega
  · intro told
    refine ext_toInt ?_ ?_ ?_
    · rw [read]
      split <;> omega
    · rw [readBack_x]
      omega
    · rw [readBack_z]
      omega

/-- Every int is the packed form of what it stands for. -/
theorem toScriptInt_ofScriptInt (packed : Int32) : (ofScriptInt packed).toScriptInt = packed := by
  have kept := (ofScriptInt packed).emod_toInt_toScriptInt
  obtain ⟨level, x, z⟩ := toInt_ofScriptInt packed
  have bounds := toInt_bounds packed
  have bounds' := toInt_bounds (ofScriptInt packed).toScriptInt
  refine Int32.toInt_inj.1 ?_
  rw [level, x, z] at kept
  omega

/-! ## Moving -/

/-- The sum of two ints is an int. -/
def SumFits (a b : Int32) : Prop :=
  -2147483648 ≤ a.toInt + b.toInt ∧ a.toInt + b.toInt < 2147483648

instance (a b : Int32) : Decidable (SumFits a b) := inferInstanceAs (Decidable (_ ∧ _))

theorem toInt_add_of_sumFits {a b : Int32} (h : SumFits a b) : (a + b).toInt = a.toInt + b.toInt := by
  rw [Int32.toInt_add]
  exact Int.bmod_eq_of_le (by have := h.1; omega) (by have := h.2; omega)

/-- A square that is moved within the ints is read back axis by axis. -/
theorem readBack_translate {dx dLevel dz : Int32} (x : SumFits c.x dx) (level : SumFits c.level dLevel)
    (z : SumFits c.z dz) :
    let moved := (c.translate dx dLevel dz).readBack
    moved.x.toInt = (c.x.toInt + dx.toInt) % 16384 ∧ moved.z.toInt = (c.z.toInt + dz.toInt) % 16384 ∧
    (0 ≤ c.level.toInt + dLevel.toInt → c.level.toInt + dLevel.toInt ≤ 7 →
      moved.level.toInt = c.level.toInt + dLevel.toInt) := by
  intro moved
  refine ⟨?_, ?_, fun low high => ?_⟩
  · rw [← toInt_add_of_sumFits x]
    exact readBack_x _
  · rw [← toInt_add_of_sumFits z]
    exact readBack_z _
  · have read : moved.level.toInt = _ := readBack_level (c.translate dx dLevel dz)
    have sum : (c.translate dx dLevel dz).level.toInt = c.level.toInt + dLevel.toInt :=
      toInt_add_of_sumFits level
    rw [read, sum]
    split <;> omega

end Coord

/-! ## The instructions -/

namespace Runner

open Op (Surroundings.table_listed)

section Instructions

variable {r : Runner} (standard : r.registry = Op.standard)

include standard

theorem coordx_yields (packed : Int32) :
    r.Yields .coordx [.int packed] (.int (Coord.ofScriptInt packed).x) :=
  yields_of_listed (h := Op.Surroundings.coordx) standard Surroundings.table_listed
    (Op.mem_of_lookup _ rfl) fun _ _ => rfl

theorem coordy_yields (packed : Int32) :
    r.Yields .coordy [.int packed] (.int (Coord.ofScriptInt packed).level) :=
  yields_of_listed (h := Op.Surroundings.coordy) standard Surroundings.table_listed
    (Op.mem_of_lookup _ rfl) fun _ _ => rfl

theorem coordz_yields (packed : Int32) :
    r.Yields .coordz [.int packed] (.int (Coord.ofScriptInt packed).z) :=
  yields_of_listed (h := Op.Surroundings.coordz) standard Surroundings.table_listed
    (Op.mem_of_lookup _ rfl) fun _ _ => rfl

theorem movecoord_yields (packed dx dLevel dz : Int32) :
    r.Yields .movecoord [.int packed, .int dx, .int dLevel, .int dz]
      (.int ((Coord.ofScriptInt packed).translate dx dLevel dz).toScriptInt) :=
  yields_of_listed (h := Op.Surroundings.movecoord) standard Surroundings.table_listed
    (Op.mem_of_lookup _ rfl) fun _ _ => rfl

end Instructions

/-- Every int is the packed form of the square that it stands for.  A square whose fields have fourteen bits
    is what its packed form stands for, and on the int stack this is so exactly for the levels up to 7 and
    from 16376 on.

    Take any int as a square, and move it so that no sum leaves the ints.  Read from the result, x and z are
    their sums modulo 16384, whatever is added on the other axes, and the level is its sum if this lies
    between 0 and 7. -/
theorem coordinates_faithful :
    (∀ packed, (Coord.ofScriptInt packed).toScriptInt = packed) ∧
    (∀ c : Coord, c.InRange → Coord.unpack c.pack = c ∧
      (Coord.ofScriptInt c.toScriptInt = c ↔ c.level ≤ 7 ∨ 16376 ≤ c.level)) ∧
    ∀ library config budget,
      let r := Runner.standard library config budget
      ∀ packed, ∃ x level z, r.Yields .coordx [.int packed] (.int x) ∧
        r.Yields .coordy [.int packed] (.int level) ∧ r.Yields .coordz [.int packed] (.int z) ∧
        ∀ dx dLevel dz, Coord.SumFits x dx → Coord.SumFits level dLevel → Coord.SumFits z dz →
          ∃ moved x' level' z',
            r.Yields .movecoord [.int packed, .int dx, .int dLevel, .int dz] (.int moved) ∧
            r.Yields .coordx [.int moved] (.int x') ∧ r.Yields .coordy [.int moved] (.int level') ∧
            r.Yields .coordz [.int moved] (.int z') ∧
            x'.toInt = (x.toInt + dx.toInt) % 16384 ∧ z'.toInt = (z.toInt + dz.toInt) % 16384 ∧
            (0 ≤ level.toInt + dLevel.toInt → level.toInt + dLevel.toInt ≤ 7 →
              level'.toInt = level.toInt + dLevel.toInt) := by
  refine ⟨Coord.toScriptInt_ofScriptInt, fun c h => ⟨Coord.unpack_pack h, Coord.readBack_eq_iff h⟩, ?_⟩
  intro library config budget r packed
  have standard : r.registry = Op.standard := standard_registry library config budget
  refine ⟨_, _, _, coordx_yields standard packed, coordy_yields standard packed,
    coordz_yields standard packed, ?_⟩
  intro dx dLevel dz x level z
  exact ⟨_, _, _, _, movecoord_yields standard packed dx dLevel dz, coordx_yields standard _,
    coordy_yields standard _, coordz_yields standard _, Coord.readBack_translate x level z⟩

/-- A square near the western and the northern edge, two levels up. -/
def edgeSquare : Coord := ⟨2, 3, 16000⟩

/-- Across both edges at once each axis comes round by itself, and three levels more make five.  The level
    16376 is the first above 7 that the int stack keeps. -/
theorem coordinates_faithful_edgeSquare :
    let r := Runner.standard .empty .empty none
    (∃ moved, r.Yields .movecoord [.int edgeSquare.toScriptInt, .int (-5), .int 3, .int 400] (.int moved) ∧
      r.Yields .coordx [.int moved] (.int 16382) ∧ r.Yields .coordy [.int moved] (.int 5) ∧
      r.Yields .coordz [.int moved] (.int 16)) ∧
    Coord.ofScriptInt (Coord.toScriptInt ⟨16376, 0, 16383⟩) = ⟨16376, 0, 16383⟩ ∧
    Coord.ofScriptInt (Coord.toScriptInt ⟨16375, 0, 16383⟩) ≠ ⟨16375, 0, 16383⟩ := by
  intro r
  obtain ⟨-, squares, moves⟩ := coordinates_faithful
  have standard : r.registry = Op.standard := standard_registry _ _ _
  refine ⟨?_, ?_, ?_⟩
  · obtain ⟨x, level, z, readX, readLevel, readZ, move⟩ :=
      moves .empty .empty none edgeSquare.toScriptInt
    cases readX.unique (coordx_yields standard _)
    cases readLevel.unique (coordy_yields standard _)
    cases readZ.unique (coordz_yields standard _)
    obtain ⟨moved, x', level', z', yields, readX', readLevel', readZ', sumX, sumZ, sumLevel⟩ :=
      move (-5) 3 400 (by decide) (by decide) (by decide)
    obtain rfl : x' = 16382 := Int32.toInt_inj.1 (sumX.trans (by decide))
    obtain rfl : level' = 5 := Int32.toInt_inj.1 ((sumLevel (by decide) (by decide)).trans (by decide))
    obtain rfl : z' = 16 := Int32.toInt_inj.1 (sumZ.trans (by decide))
    exact ⟨moved, yields, readX', readLevel', readZ'⟩
  · exact (squares ⟨16376, 0, 16383⟩ ⟨by decide, by decide, by decide⟩).2.2 (by decide)
  · intro same
    exact absurd ((squares ⟨16375, 0, 16383⟩ ⟨by decide, by decide, by decide⟩).2.1 same) (by decide)

end Runner

end TickScript
