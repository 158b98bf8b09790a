import TickScript.Proofs.Success

/-
  What the database finds.

  The rows of a table come from the map of all rows in the order of their keys, and a row is kept under its
  own id, so a list of row ids is ascending whatever was filtered out of it.  In a column the tuples of a row
  stand one after the other; they are cut out again by their width.

    mem_rowIds             a row that is selected is found again by its id
    pairwise_rowIds        and the ids ascend
    exists_mem_tuples      a tuple with a key at a position, as a position in the whole list
    tuples_flatten         whole tuples are cut where they were put together
    dbFind_eq_ok, …        when a search succeeds, and what it remembers
-/

namespace TickScript

open Op.Database (ColumnRef findColumn findRows rowMatches)

/-! ## Rows -/

namespace Config

variable {c : Config}

/-- The ids of the rows of a table that satisfy a test. -/
def rowIds (c : Config) (table : Int32) (test : DbRow → Bool) : List Int32 :=
  ((c.rowsOf table).filter test).map (·.id)

theorem mem_rowIds (keeps : c.KeepsRowIds) {table : Int32} {test : DbRow → Bool} {id : Int32} :
    id ∈ c.rowIds table test ↔
      ∃ row, c.dbRows.get? id = some row ∧ row.table = table ∧ test row := by
  unfold rowIds rowsOf SortedMap.values
  rw [List.mem_map]
  refine exists_congr fun row => ?_
  rw [List.mem_filter, List.mem_filter, List.mem_map, decide_eq_true_iff]
  constructor
  · rintro ⟨⟨⟨⟨⟨key, _⟩, entry, rfl⟩, same⟩, passed⟩, rfl⟩
    have found := (SortedMap.get?_eq_some_iff_mem c.dbRows).2 entry
    exact ⟨keeps _ _ found ▸ found, same, passed⟩
  · rintro ⟨found, same, passed⟩
    have entry := (SortedMap.get?_eq_some_iff_mem c.dbRows).1 found
    exact ⟨⟨⟨⟨(id, row), entry, rfl⟩, same⟩, passed⟩, keeps _ _ found⟩

/-- The ids are in strictly ascending order. -/
theorem pairwise_rowIds (keeps : c.KeepsRowIds) (table : Int32) (test : DbRow → Bool) :
    (c.rowIds table test).Pairwise (· < ·) := by
  have ascending : (c.dbRows.values.map (·.id)).Pairwise (· < ·) := by
    unfold SortedMap.values
    rw [List.map_map, List.pairwise_map]
    refine c.dbRows.sorted.imp_of_mem fun {d e} memD memE below => ?_
    have idD := keeps _ _ ((SortedMap.get?_eq_some_iff_mem c.dbRows).2 memD)
    have idE := keeps _ _ ((SortedMap.get?_eq_some_iff_mem c.dbRows).2 memE)
    show d.2.id < e.2.id
    rw [idD, idE]
    exact Std.compare_eq_lt.1 below
  exact ascending.sublist ((List.filter_sublist.trans List.filter_sublist).map _)

end Config

/-! ## Tuples -/

section Tuples

variable {width : Nat} {values : List Value}

/-- Tuples that all have the width are cut where they were put together. -/
theorem tuples_flatten (pos : 0 < width) : ∀ {parts : List (List Value)},
    (∀ part ∈ parts, part.length = width) → tuples width parts.flatten = parts := by
  suffices cut : ∀ (parts : List (List Value)) (bound : Nat), parts.flatten.length ≤ bound →
      (∀ part ∈ parts, part.length = width) → tuples.go width bound parts.flatten = parts from
    fun {parts} => cut parts _ (Nat.le_refl _)
  intro parts
  induction parts with
  | nil => intro bound _ _; cases bound <;> rfl
  | cons part parts ih =>
    intro bound short widths
    obtain ⟨here, there⟩ := List.forall_mem_cons.1 widths
    rw [List.flatten_cons] at short ⊢
    rw [List.length_append] at short
    cases bound with
    | zero => omega
    | succ bound =>
      have step : tuples.go width (bound + 1) (part ++ parts.flatten) =
          (part ++ parts.flatten).take width ::
            tuples.go width bound ((part ++ parts.flatten).drop width) := by
        cases part with
        | nil => exact absurd here (Nat.ne_of_lt pos)
        | cons a part => rfl
      rw [step, List.take_left' here, List.drop_left' here, ih bound (by omega) there]

end Tuples

theorem DbColumn.width_pos (c : DbColumn) : 0 < c.width :=
  Nat.lt_of_lt_of_le Nat.one_pos (Nat.le_max_left _ _)

/-- The tuples of a row in a column; a row may have none. -/
def fieldTuples (ref : ColumnRef) (column : DbColumn) (row : DbRow) : List (List Value) :=
  ((row.columns.get? ref.column).map (tuples column.width)).getD []

theorem rowMatches_iff {row : DbRow} {ref : ColumnRef} {column : DbColumn} {key : Value} :
    rowMatches ref column.width key row ↔
      ∃ tuple ∈ fieldTuples ref column row, tuple[ref.position]? = some key := by
  unfold rowMatches fieldTuples
  cases row.columns.get? ref.column with
  | none => exact ⟨nofun, fun ⟨_, mem, _⟩ => (nomatch mem)⟩
  | some values =>
    rw [List.any_eq_true]
    simp only [decide_eq_true_iff]
    exact Iff.rfl

/-! ## Searches -/

/-- `s.Asks packed key ints strings`: the operands of a search are on top of the stacks, a reference to a
    column below a key.  Which of the two stacks the key is on is up to the instruction. -/
inductive Scene.Asks (s : Scene) (packed : Int32) : Value → List Int32 → List String → Prop where
  | int {n : Int32} {ints : List Int32} : s.invocation.selectedSlot = .primary →
      s.invocation.ints = n :: packed :: ints → Asks s packed (.int n) ints s.invocation.strings
  | text {k : String} {ints : List Int32} {strings : List String} :
      s.invocation.selectedSlot = .secondary → s.invocation.strings = k :: strings →
      s.invocation.ints = packed :: ints → Asks s packed (.text k) ints strings

/-- The scene after a search, with what is left of the stacks. -/
def Scene.searched (s : Scene) (ints : List Int32) (strings : List String) (table : Int32)
    (rows : List Int32) : Scene :=
  { s with invocation := { s.invocation with ints, strings, query := ⟨table, rows, 0⟩ } }

/-- The answer that comes next: a row of the list, or -1 past its end. -/
def DbQuery.answer (q : DbQuery) : Int32 := (q.rows[q.cursor.toNat]?).getD (-1)

/-- The search with one more row taken; past the end it stays as it is. -/
def DbQuery.next (q : DbQuery) : DbQuery :=
  if q.cursor.toNat < q.rows.length then { q with cursor := q.cursor + 1 } else q

namespace Op.Database

variable {env : Env} {s t : Scene}

/-- A key is taken from the int stack or from the string stack. -/
theorem popKey_eq_ok {key : Value} : popKey env s = .ok key t ↔
    (∃ n ints, s.invocation.selectedSlot = .primary ∧ s.invocation.ints = n :: ints ∧
      key = .int n ∧ t = { s with invocation := { s.invocation with ints } }) ∨
    ∃ k strings, s.invocation.selectedSlot = .secondary ∧ s.invocation.strings = k :: strings ∧
      key = .text k ∧ t = { s with invocation := { s.invocation with strings } } := by
  unfold popKey
  rw [bind_of_ok (selectedSlot_apply env s)]
  cases s.invocation.selectedSlot with
  | primary =>
    constructor
    · intro done
      obtain ⟨n, _, popped, done⟩ := bind_eq_ok.1 done
      obtain ⟨ints, stack, rfl⟩ := popInt_eq_ok.1 popped
      cases done
      exact .inl ⟨n, ints, rfl, stack, rfl, rfl⟩
    · rintro (⟨n, ints, -, stack, rfl, rfl⟩ | ⟨_, _, other, -⟩)
      · exact bind_of_ok (popInt_eq_ok.2 ⟨ints, stack, rfl⟩)
      · nomatch other
  | secondary =>
    constructor
    · intro done
      obtain ⟨k, _, popped, done⟩ := bind_eq_ok.1 done
      obtain ⟨strings, stack, rfl⟩ := popString_eq_ok.1 popped
      cases done
      exact .inr ⟨k, strings, rfl, stack, rfl, rfl⟩
    · rintro (⟨_, _, other, -⟩ | ⟨k, strings, -, stack, rfl, rfl⟩)
      · nomatch other
      · exact bind_of_ok (popString_eq_ok.2 ⟨strings, stack, rfl⟩)

/-- A search succeeds if its operands are there and the column exists. -/
theorem dbFind_eq_ok : dbFind env s = .ok () t ↔
    ∃ packed key ints strings column, s.Asks packed key ints strings ∧
      findColumn (.unpack packed) env.config = .ok column ∧
      t = s.searched ints strings (ColumnRef.unpack packed).table
        (findRows (.unpack packed) column key env.config) := by
  unfold dbFind
  constructor
  · intro done
    obtain ⟨key, u, keyed, done⟩ := bind_eq_ok.1 done
    obtain ⟨packed, _, popped, done⟩ := bind_eq_ok.1 done
    obtain ⟨ints, stack, rfl⟩ := popInt_eq_ok.1 popped
    obtain ⟨column, _, looked, done⟩ := bind_eq_ok.1 done
    obtain ⟨rfl, found⟩ := fromConfig_eq_ok.1 looked
    cases done
    rcases popKey_eq_ok.1 keyed with ⟨n, _, slot, top, rfl, rfl⟩ | ⟨k, strings, slot, top, rfl, rfl⟩
    · cases stack
      exact ⟨packed, .int n, ints, _, column, .int slot top, found, rfl⟩
    · exact ⟨packed, .text k, ints, strings, column, .text slot top stack, found, rfl⟩
  · rintro ⟨packed, key, ints, strings, column, asks, found, rfl⟩
    have keyed : popKey env s = .ok key
        { s with invocation := { s.invocation with ints := packed :: ints, strings } } := by
      refine popKey_eq_ok.2 ?_
      cases asks with
      | int slot top => exact .inl ⟨_, _, slot, top, rfl, rfl⟩
      | text slot top stack => exact .inr ⟨_, _, slot, top, rfl, by rw [← stack]⟩
    refine (bind_of_ok keyed).trans ?_
    refine (bind_of_ok (popInt_eq_ok.2 ⟨ints, rfl, rfl⟩)).trans ?_
    exact bind_of_ok (fromConfig_eq_ok.2 ⟨rfl, found⟩)

theorem dbListall_eq_ok : dbListall env s = .ok () t ↔
    ∃ table ints entry, s.invocation.ints = table :: ints ∧
      env.config.dbTables.get? table = some entry ∧
      t = s.searched ints s.invocation.strings table (env.config.rowIds table fun _ => true) := by
  have all : ∀ table, env.config.rowIds table (fun _ => true) =
      (env.config.rowsOf table).map (·.id) := fun _ => congrArg (List.map _) (List.filter_true _)
  simp only [all]
  unfold dbListall
  constructor
  · intro done
    obtain ⟨table, _, popped, done⟩ := bind_eq_ok.1 done
    obtain ⟨ints, stack, rfl⟩ := popInt_eq_ok.1 popped
    obtain ⟨entry, _, looked, done⟩ := bind_eq_ok.1 done
    obtain ⟨rfl, found⟩ := fromConfig_eq_ok.1 looked
    cases done
    exact ⟨table, ints, entry, stack, Config.entry_eq_ok.1 found, rfl⟩
  · rintro ⟨table, ints, entry, stack, found, rfl⟩
    refine (bind_of_ok (popInt_eq_ok.2 ⟨ints, stack, rfl⟩)).trans ?_
    exact bind_of_ok (fromConfig_eq_ok.2 ⟨rfl, Config.entry_eq_ok.2 found⟩)

/-- Once there was a search, asking for the next row does not fail. -/
theorem dbFindnext_eq_ok (searched : s.invocation.query.table ≠ -1) : dbFindnext env s =
    .ok () { s with invocation := { s.invocation with
      ints := s.invocation.query.answer :: s.invocation.ints
      query := s.invocation.query.next } } := by
  unfold dbFindnext DbQuery.answer DbQuery.next
  rw [bind_apply]
  show (if s.invocation.query.table = -1 then _ else _ : Op Unit) env s = _
  rw [if_neg searched]
  cases here : s.invocation.query.rows[s.invocation.query.cursor.toNat]? with
  | none =>
    have past := List.getElem?_eq_none_iff.1 here
    rw [if_neg (Nat.not_lt.2 past)]
    rfl
  | some row =>
    obtain ⟨inside, -⟩ := List.getElem?_eq_some_iff.1 here
    rw [if_pos inside]
    rfl

end Op.Database

end TickScript
