import Mathlib.Data.List.Induction
import Mathlib.Data.List.Nodup
import TickScript.Proofs.Instruction.Standard

/-
  A registry is the merge of its tables.

  Handlers are put one after the other into an array that grows on demand and has gaps.  What it holds
  after each of them is known by `Registry.Holds`: the entries so far, each at the number of its
  instruction.  So the array tells of a further entry whether its instruction has come before, and the
  merge stops at the first of which this is true.  Without one the list of all entries is what can be
  looked up, and neither its order nor the division into tables leaves a trace.

    FirstClash              the first entry whose instruction has come before
    build_of_firstClash     there the merge stops, and it names the instruction
    size_build              every entry is counted
    Holds.entry?_congr      look-ups depend only on which entries are listed
    build_merges            the whole, for all tables
-/

namespace TickScript

/-! ## Numbers of instructions -/

namespace Opcode

-- The list is in the order of the constructors, so the place of each is known without a search.
theorem mem_all (o : Opcode) : o ∈ all :=
  List.mem_of_getElem? (i := o.ctorIdx) (by cases o <;> rfl)

theorem numbers_increase : (all.map number).IsChain (· < ·) := by decide +kernel

/-- Instructions are told apart by their numbers. -/
theorem number_injective : Function.Injective number := by
  have distinct : (all.map number).Nodup := (List.isChain_iff_pairwise.1 numbers_increase).imp Nat.ne_of_lt
  exact fun o p same => List.inj_on_of_nodup_map distinct o.mem_all p.mem_all same

end Opcode

namespace Registry

variable {η : Type}

theorem numbers_nodup {listed : List (Opcode × η)} :
    (listed.map (·.1.number)).Nodup ↔ (listed.map (·.1)).Nodup := by
  rw [← List.nodup_map_iff Opcode.number_injective, List.map_map]
  rfl

/-! ## Entries that clash -/

/-- The first entry of the list for an instruction that an entry before it is for, too. -/
def FirstClash (listed : List (Opcode × η)) (e : Opcode × η) : Prop :=
  ∃ before after, listed = before ++ e :: after ∧ (before.map (·.1)).Nodup ∧ e.1 ∈ before.map (·.1)

theorem exists_firstClash {listed : List (Opcode × η)} (clash : ¬ (listed.map (·.1)).Nodup) :
    ∃ e, FirstClash listed e := by
  -- Entries are added at the end: a clash among the earlier ones comes before one of the last.
  induction listed using List.reverseRecOn with
  | nil => exact absurd List.nodup_nil clash
  | append_singleton listed last ih =>
    by_cases distinct : (listed.map (·.1)).Nodup
    · refine ⟨last, listed, [], rfl, distinct, ?_⟩
      by_contra fresh
      rw [List.map_append] at clash
      exact clash (distinct.append (List.nodup_singleton _) (List.disjoint_singleton.2 fresh))
    · obtain ⟨e, before, after, rfl, first⟩ := ih distinct
      exact ⟨e, before, after ++ [last], List.append_assoc .., first⟩

theorem claim_of_taken {r : Registry η} {e d : Opcode × η}
    (taken : r.entries[e.1.number]? = some (some d)) : r.claim e = .error (.sameOpcode e.1.name) := by
  unfold claim
  dsimp only
  rw [getElem?_padded.2 taken]

/-- The entries before the first clash are merged, and this one is refused. -/
theorem build_of_firstClash {tables : List (List (Opcode × η))} {e : Opcode × η}
    (clash : FirstClash tables.flatten e) : build tables = .error (.sameOpcode e.1.name) := by
  obtain ⟨before, after, parts, distinct, again⟩ := clash
  obtain ⟨d, mem, same⟩ := List.mem_map.1 again
  obtain ⟨r, merged, holds⟩ := holds_empty.claimAll (numbers_nodup.2 distinct)
  have taken : r.entries[e.1.number]? = some (some d) :=
    (holds _ d).2 ⟨mem, congrArg Opcode.number same⟩
  rw [build_eq, parts, claimAll_append, merged]
  show r.claimAll (e :: after) = _
  unfold claimAll
  rw [List.foldlM_cons, claim_of_taken taken]
  rfl

/-- A merge fails at the first clash, if there is one, and for nothing else. -/
theorem build_eq_error {tables : List (List (Opcode × η))} {f : Fault} :
    build tables = .error f ↔ ∃ e, FirstClash tables.flatten e ∧ f = .sameOpcode e.1.name := by
  constructor
  · intro failed
    have clash : ¬ (tables.flatten.map (·.1)).Nodup := by
      intro distinct
      obtain ⟨r, built, -⟩ := build_holds (numbers_nodup.2 distinct)
      exact nomatch built.symm.trans failed
    obtain ⟨e, first⟩ := exists_firstClash clash
    exact ⟨e, first, Except.error.inj (failed.symm.trans (build_of_firstClash first))⟩
  · rintro ⟨e, first, rfl⟩
    exact build_of_firstClash first

/-- Where there is a first clash, an instruction occurs more than once. -/
theorem not_nodup_of_firstClash {listed : List (Opcode × η)} {e : Opcode × η}
    (clash : FirstClash listed e) : ¬ (listed.map (·.1)).Nodup := by
  obtain ⟨before, after, rfl, -, again⟩ := clash
  rw [List.map_append, List.map_cons]
  exact fun distinct => (List.nodup_append.1 distinct).2.2 _ again _ List.mem_cons_self rfl

theorem exists_firstClash_iff {listed : List (Opcode × η)} :
    (∃ e, FirstClash listed e) ↔ ∃ o, 1 < (listed.map (·.1)).count o := by
  have repeated : ¬ (listed.map (·.1)).Nodup ↔ ∃ o, 1 < (listed.map (·.1)).count o := by
    rw [List.nodup_iff_count_le_one]
    simp only [not_forall, Nat.not_le]
  rw [← repeated]
  exact ⟨fun ⟨_, clash⟩ => not_nodup_of_firstClash clash, exists_firstClash⟩

/-! ## Entries that are counted -/

theorem countP_padded (r : Registry η) (position : Nat) :
    (r.padded position).countP Option.isSome = r.size := by
  unfold padded size
  rw [Array.countP_append, Array.countP_replicate]
  rfl

theorem size_claim {r r' : Registry η} {e : Opcode × η} (claimed : r.claim e = .ok r') :
    r'.size = r.size + 1 := by
  unfold claim at claimed
  dsimp only at claimed
  split at claimed
  · nomatch claimed
  next free =>
    cases claimed
    have inside := r.size_padded e.1.number
    have gap : (r.padded e.1.number)[e.1.number] = none :=
      Option.eq_none_iff_forall_ne_some.2 fun d there =>
        free d ((Array.getElem?_eq_getElem inside).trans (congrArg some there))
    show Array.countP Option.isSome _ = _
    unfold Array.setIfInBounds
    rw [dif_pos inside, Array.countP_set, countP_padded, gap]
    rfl

theorem size_claimAll : ∀ {table : List (Opcode × η)} {r r' : Registry η},
    r.claimAll table = .ok r' → r'.size = r.size + table.length
  | [], r, r', claimed => by
    cases claimed
    rfl
  | e :: table, r, r', claimed => by
    unfold claimAll at claimed
    rw [List.foldlM_cons] at claimed
    obtain ⟨r₁, first, rest⟩ := Except.bind_eq_ok.1 claimed
    rw [size_claimAll rest, size_claim first, List.length_cons]
    omega

/-- Every entry is counted. -/
theorem size_build {tables : List (List (Opcode × η))} {r : Registry η} (built : build tables = .ok r) :
    r.size = tables.flatten.length := by
  rw [build_eq] at built
  rw [size_claimAll built]
  exact Nat.zero_add _

/-! ## Entries that are looked up -/

theorem Holds.lookup_of_mem {r : Registry η} {listed : List (Opcode × η)} (hr : r.Holds listed)
    {e : Opcode × η} (mem : e ∈ listed) : r.handler? e.1.id = some e.2 ∧ r.opcode? e.1.id = some e.1 := by
  unfold handler? opcode?
  rw [hr.entry?_eq_some.2 ⟨rfl, mem⟩]
  exact ⟨rfl, rfl⟩

theorem Holds.lookup_of_absent {r : Registry η} {listed : List (Opcode × η)} (hr : r.Holds listed)
    {id : Int32} (absent : ∀ e ∈ listed, e.1.id ≠ id) : r.handler? id = none ∧ r.opcode? id = none := by
  have none : r.entry? id = none := Option.eq_none_iff_forall_ne_some.2 fun e there =>
    absent e (hr.entry?_eq_some.1 there).2 (hr.entry?_eq_some.1 there).1
  unfold handler? opcode?
  rw [none]
  exact ⟨rfl, rfl⟩

/-- What is looked up depends only on which entries are listed. -/
theorem Holds.entry?_congr {r r' : Registry η} {listed listed' : List (Opcode × η)}
    (hr : r.Holds listed) (hr' : r'.Holds listed') (same : ∀ e, e ∈ listed ↔ e ∈ listed') :
    r.entry? = r'.entry? := by
  funext id
  refine Option.ext fun e => ?_
  rw [hr.entry?_eq_some, hr'.entry?_eq_some, same]

/-- The merge fails exactly if some instruction occurs more than once in all tables together, and its fault
    names the first one that comes again.  Otherwise every entry is found under the id of its instruction,
    under all other ids there is nothing, and the size is the number of entries.  The same entries in
    another order, or divided into other tables, give a registry with the same look-ups. -/
theorem build_merges (tables : List (List (Opcode × η))) :
    let listed := tables.flatten
    ((∃ f, build tables = .error f ∧ f.kind = .registryConflict) ↔
      ∃ o, 1 < (listed.map (·.1)).count o) ∧
    (∀ f, build tables = .error f ↔ ∃ e, FirstClash listed e ∧ f = .sameOpcode e.1.name) ∧
    ((∀ o, (listed.map (·.1)).count o ≤ 1) → ∃ r, build tables = .ok r ∧
      (∀ e ∈ listed, r.handler? e.1.id = some e.2 ∧ r.opcode? e.1.id = some e.1) ∧
      (∀ id, (∀ e ∈ listed, e.1.id ≠ id) → r.handler? id = none ∧ r.opcode? id = none) ∧
      r.size = listed.length ∧
      ∀ tables', tables'.flatten.Perm listed → ∃ r', build tables' = .ok r' ∧
        r'.handler? = r.handler? ∧ r'.opcode? = r.opcode? ∧ r'.size = r.size) := by
  intro listed
  refine ⟨?_, fun _ => build_eq_error, fun single => ?_⟩
  · rw [← exists_firstClash_iff]
    constructor
    · rintro ⟨f, failed, -⟩
      obtain ⟨e, clash, -⟩ := build_eq_error.1 failed
      exact ⟨e, clash⟩
    · rintro ⟨e, clash⟩
      exact ⟨_, build_of_firstClash clash, rfl⟩
  · have distinct : (listed.map (·.1)).Nodup := List.nodup_iff_count_le_one.2 single
    obtain ⟨r, built, holds⟩ := build_holds (numbers_nodup.2 distinct)
    refine ⟨r, built, fun e => holds.lookup_of_mem, fun id => holds.lookup_of_absent,
      size_build built, fun tables' order => ?_⟩
    have distinct' : (tables'.flatten.map (·.1)).Nodup := (order.map _).nodup_iff.2 distinct
    obtain ⟨r', built', holds'⟩ := build_holds (numbers_nodup.2 distinct')
    have same : r'.entry? = r.entry? := holds'.entry?_congr holds fun _ => order.mem_iff
    refine ⟨r', built', ?_, ?_, ?_⟩
    · exact funext fun id => congrArg (Option.map _) (congrFun same id)
    · exact funext fun id => congrArg (Option.map _) (congrFun same id)
    · rw [size_build built', size_build built, order.length_eq]

/-- The standard tables hold 175 handlers.  In reverse they give the same look-ups, which find nothing at
    -1, in the gap at 11 and after the last number.  With one of them listed again, the merge fails. -/
theorem build_merges_standardTables :
    (∀ o, (Op.standardTables.flatten.map (·.1)).count o ≤ 1) ∧
    (∃ r, build Op.standardTables.reverse = .ok r ∧ r.size = 175 ∧
      r.handler? = Op.standard.handler? ∧ r.handler? 4500 = some Op.Text.append ∧
      r.opcode? 4500 = some .append ∧
      r.handler? (-1) = none ∧ r.handler? 11 = none ∧ r.handler? 10005 = none) ∧
    build (Op.standardTables ++ [Op.Text.table]) = .error (.sameOpcode "APPEND") := by
  have distinct : (Op.standardTables.flatten.map (·.1)).Nodup := numbers_nodup.1 Op.standardTables_nodup
  have single := List.nodup_iff_count_le_one.1 distinct
  refine ⟨single, ?_, ?_⟩
  · obtain ⟨r, built, found, absent, size, reordered⟩ := (build_merges Op.standardTables).2.2 single
    obtain rfl : Op.standard = r := Except.ok.inj (Op.build_standardTables.symm.trans built)
    obtain ⟨r', built', handlers, opcodes, sizes⟩ :=
      reordered Op.standardTables.reverse (List.reverse_perm _).flatten
    obtain ⟨handler, opcode⟩ :=
      found (.append, Op.Text.append) (List.mem_flatten_of_mem Op.Text.table_listed (.head _))
    refine ⟨r', built', sizes.trans size, handlers, ?_⟩
    rw [handlers, opcodes]
    exact ⟨handler, opcode, (absent _ (by decide +kernel)).1, (absent _ (by decide +kernel)).1,
      (absent _ (by decide +kernel)).1⟩
  · have refused := ((build_merges (Op.standardTables ++ [Op.Text.table])).2.1 (.sameOpcode "APPEND")).2
    refine refused ⟨(.append, Op.Text.append), ⟨_, Op.Text.table.tail, ?_, distinct, ?_⟩, rfl⟩
    · rw [List.flatten_append]
      rfl
    · decide +kernel

end Registry

end TickScript
