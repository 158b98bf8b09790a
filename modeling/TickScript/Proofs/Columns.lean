import TickScript.Proofs.Computing
import TickScript.Proofs.Database
import TickScript.Proofs.Packing

/-
  Searching a column and reading it agree.

  A search, a read and a count cut the values of a row into tuples each in its own way: by testing all
  chunks, by taking one chunk, and by dividing the length.  Where the values are whole tuples of the
  declared types, all three see the same list of tuples.

    WholeTuples          a list of values that is made of tuples of the types
    fieldAt              what is read at an index: a tuple, or the defaults
    Shows                the three instructions tell of the same tuples
    columns_agree        they do, and a search selects a row exactly if reading it shows the key
-/

namespace TickScript

open Op.Database (ColumnRef findColumn findRow fieldValues pushAll tuple?)

/-! ## Whole tuples -/

/-- One value for each type, each of them on the stack of its type. -/
def Typed (types : List VarType) (values : List Value) : Prop :=
  List.Forall₂ (fun type value => type.admits value) types values

/-- The values are tuples of the types, one after the other.  Without types there are no values. -/
def WholeTuples (types : List VarType) (values : List Value) : Prop :=
  ∃ parts : List (List Value), (∀ part ∈ parts, Typed types part) ∧ values = parts.flatten

/-- In every row, every declared column that has values has whole tuples of its types. -/
def Config.WholeColumns (c : Config) : Prop :=
  ∀ id row table (n : Int32) column values, c.dbRows.get? id = some row →
    c.dbTables.get? row.table = some table → 0 ≤ n →
    table.columns[n.toNatClampNeg]? = some column → row.columns.get? n = some values →
    WholeTuples column.types values

theorem VarType.admits_default (type : VarType) : type.admits type.default := by cases type <;> rfl

theorem typed_defaults : ∀ types : List VarType, Typed types (types.map VarType.default)
  | [] => .nil
  | type :: types => .cons type.admits_default (typed_defaults types)

/-- Whole tuples are cut where they were put together, and there are as many as the length tells. -/
theorem WholeTuples.tuples_eq {column : DbColumn} {values : List Value}
    (whole : WholeTuples column.types values) :
    (∀ tuple ∈ tuples column.width values, Typed column.types tuple) ∧
      (tuples column.width values).length = values.length / column.width := by
  obtain ⟨parts, typed, rfl⟩ := whole
  cases types : column.types with
  | nil =>
    -- every part is empty, and nothing is left of them
    have empty : parts.flatten = [] := List.flatten_eq_nil_iff.2 fun part mem => by
      have here := typed part mem
      rw [types] at here
      cases here
      rfl
    rw [empty]
    exact ⟨nofun, (Nat.zero_div _).symm⟩
  | cons type rest =>
    have width : column.width = column.types.length := by
      unfold DbColumn.width
      rw [types]
      exact Nat.max_eq_right (Nat.succ_pos _)
    have pos := column.width_pos
    have widths : ∀ part ∈ parts, part.length = column.width := fun part mem =>
      (typed part mem).length_eq.symm.trans width.symm
    have length : parts.flatten.length = parts.length * column.width := by
      rw [List.length_flatten, List.map_congr_left widths, List.map_const', List.sum_replicate_nat]
    rw [tuples_flatten pos widths, length, Nat.mul_div_cancel _ pos, ← types]
    exact ⟨typed, rfl⟩

/-! ## Fields -/

theorem Config.WholeColumns.fieldTuples_eq {c : Config} (whole : c.WholeColumns) {packed id : Int32}
    {column : DbColumn} {row : DbRow} (found : findColumn (.unpack packed) c = .ok column)
    (stored : c.dbRows.get? id = some row) (here : row.table = (ColumnRef.unpack packed).table) :
    (∀ tuple ∈ fieldTuples (.unpack packed) column row, Typed column.types tuple) ∧
      (fieldTuples (.unpack packed) column row).length =
        ((row.columns.get? (ColumnRef.unpack packed).column).getD []).length / column.width := by
  unfold fieldTuples
  cases filled : row.columns.get? (ColumnRef.unpack packed).column with
  | none => exact ⟨nofun, (Nat.zero_div _).symm⟩
  | some values =>
    obtain ⟨table, listed, found⟩ := Except.bind_eq_ok.1 found
    split at found
    next column' declared =>
      cases found
      rw [← here] at listed
      exact (whole id row table _ column values stored (Config.entry_eq_ok.1 listed)
        (Int32.zero_le_and (packed >>> 4) (by decide)) declared filled).tuples_eq
    next => nomatch found

/-- What is read at an index of a list of tuples: the tuple there, or else the defaults of the types. -/
def fieldAt (types : List VarType) (tuples : List (List Value)) (i : Int32) : List Value :=
  ((position? i).bind (tuples[·]?)).getD (types.map VarType.default)

section Fields

variable {types : List VarType}

theorem typed_fieldAt {tuples : List (List Value)} (typed : ∀ tuple ∈ tuples, Typed types tuple)
    (i : Int32) : Typed types (fieldAt types tuples i) := by
  unfold fieldAt
  cases there : (position? i).bind (tuples[·]?) with
  | none => exact typed_defaults types
  | some tuple =>
    obtain ⟨n, -, here⟩ := Option.bind_eq_some_iff.1 there
    exact typed tuple (List.mem_of_getElem? here)

/-- The values of a tuple, each with its type. -/
theorem fieldValues_of_typed {tuple : List Value} (typed : Typed types tuple) :
    fieldValues types tuple = types.zip tuple := by
  unfold fieldValues
  induction typed with
  | nil => rfl
  | cons _ _ ih =>
    rw [List.mapIdx_cons, List.zip_cons_cons]
    exact congrArg (_ :: ·) ih

theorem fieldValues_nil (types : List VarType) :
    fieldValues types [] = types.zip (types.map VarType.default) := by
  unfold fieldValues
  induction types with
  | nil => rfl
  | cons type types ih =>
    rw [List.mapIdx_cons, List.map_cons, List.zip_cons_cons]
    exact congrArg (_ :: ·) ih

/-- Reading pushes what is at the index, each value with its type. -/
theorem fieldValues_eq {tuples : List (List Value)} (typed : ∀ tuple ∈ tuples, Typed types tuple)
    (i : Int32) : fieldValues types (((position? i).bind (tuples[·]?)).getD []) =
      types.zip (fieldAt types tuples i) := by
  unfold fieldAt
  cases there : (position? i).bind (tuples[·]?) with
  | none => exact fieldValues_nil types
  | some tuple =>
    obtain ⟨n, -, here⟩ := Option.bind_eq_some_iff.1 there
    exact fieldValues_of_typed (typed tuple (List.mem_of_getElem? here))

/-- The indices from zero up to the count are those at which there is a tuple. -/
theorem fieldAt_of_lt {tuples : List (List Value)} (short : tuples.length < 2147483648) {i : Int32}
    (nonneg : 0 ≤ i) (below : i < Arithmetic.ofLength tuples.length) :
    fieldAt types tuples i ∈ tuples := by
  have count : (Arithmetic.ofLength tuples.length).toInt = tuples.length :=
    Int32.toInt_ofNat_of_lt short
  have nonneg' : 0 ≤ i.toInt := Int32.le_iff_toInt_le.1 nonneg
  have below' : i.toInt < tuples.length := count ▸ Int32.lt_iff_toInt_lt.1 below
  have inside : i.toNatClampNeg < tuples.length := by
    unfold Int32.toNatClampNeg
    omega
  unfold fieldAt position?
  rw [if_neg (Int32.not_lt.2 nonneg), Option.bind_some, List.getElem?_eq_getElem inside]
  exact List.getElem_mem inside

theorem exists_fieldAt (types : List VarType) {tuples : List (List Value)}
    (short : tuples.length < 2147483648) {tuple : List Value} (mem : tuple ∈ tuples) :
    ∃ i, 0 ≤ i ∧ i < Arithmetic.ofLength tuples.length ∧ fieldAt types tuples i = tuple := by
  obtain ⟨k, there⟩ := List.mem_iff_getElem?.1 mem
  obtain ⟨inside, -⟩ := List.getElem?_eq_some_iff.1 there
  have count : (Arithmetic.ofLength tuples.length).toInt = tuples.length :=
    Int32.toInt_ofNat_of_lt short
  have index : (Int32.ofNat k).toInt = k := Int32.toInt_ofNat_of_lt (by omega)
  refine ⟨Int32.ofNat k, Int32.le_iff_toInt_le.2 ?_, Int32.lt_iff_toInt_lt.2 ?_, ?_⟩
  · rw [index]
    exact Int.natCast_nonneg k
  · rw [index, count]
    exact Int.ofNat_lt.2 inside
  · unfold fieldAt
    rw [position?_ofNat (by omega), Option.bind_some, there]
    rfl

theorem fieldAt_of_outside {tuples : List (List Value)} (short : tuples.length < 2147483648)
    {i : Int32} (outside : ¬ (0 ≤ i ∧ i < Arithmetic.ofLength tuples.length)) :
    fieldAt types tuples i = types.map VarType.default := by
  have count : (Arithmetic.ofLength tuples.length).toInt = tuples.length :=
    Int32.toInt_ofNat_of_lt short
  unfold fieldAt position?
  by_cases nonneg : 0 ≤ i
  · have above : ¬ i < Arithmetic.ofLength tuples.length := fun below => outside ⟨nonneg, below⟩
    have above' : (tuples.length : Int) ≤ i.toInt :=
      count ▸ Int32.le_iff_toInt_le.1 (Int32.not_lt.1 above)
    have past : tuples.length ≤ i.toNatClampNeg := by
      unfold Int32.toNatClampNeg
      omega
    rw [if_neg (Int32.not_lt.2 nonneg), Option.bind_some, List.getElem?_eq_none past]
    rfl
  · rw [if_pos (Int32.not_le.1 nonneg)]
    rfl

end Fields

theorem tuple?_eq (row : DbRow) (ref : ColumnRef) (column : DbColumn) (i : Int32) :
    tuple? row ref column i = (position? i).bind ((fieldTuples ref column row)[·]?) := by
  unfold tuple? fieldTuples
  cases row.columns.get? ref.column with
  | none => cases position? i <;> rfl
  | some values => rfl

/-! ## The instructions -/

namespace Op.Database

variable (env : Env) {s : Scene}

theorem pushTyped_eq_ok {type : VarType} {value : Value} (admits : type.admits value) :
    pushTyped type value env s = .ok () (s.pushed s.invocation.ints [value]) := by
  have pushes : pushTyped type value = push value := if_pos admits
  rw [pushes]
  cases value <;> rfl

/-- Typed values are pushed one after the other. -/
theorem pushAll_zip {types : List VarType} {values : List Value} (typed : Typed types values) :
    ∀ s : Scene, pushAll (types.zip values) env s =
      .ok () (s.pushed s.invocation.ints values) := by
  induction typed with
  | nil => exact fun _ => rfl
  | @cons type value types values admits _ ih =>
    intro s
    rw [← s.pushed_pushed]
    exact (bind_of_ok (pushTyped_eq_ok env admits)).trans (ih _)

variable {packed id : Int32} {column : DbColumn} {row : DbRow} {rest : List Int32}

theorem dbGetfieldcount_pushes (ints : s.invocation.ints = packed :: id :: rest)
    (found : findColumn (.unpack packed) env.config = .ok column)
    (there : env.config.dbRow id = .ok row) :
    dbGetfieldcount env s = .ok () (s.pushed rest [.int (Arithmetic.ofLength
      (((row.columns.get? (ColumnRef.unpack packed).column).getD []).length / column.width))]) := by
  unfold dbGetfieldcount
  refine (bind_of_ok (popInt2_eq_ok.2 ⟨rest, ints, rfl⟩)).trans ?_
  refine (bind_of_ok (fromConfig_eq_ok.2 ⟨rfl, found⟩)).trans ?_
  exact bind_of_ok (fromConfig_eq_ok.2 ⟨rfl, there⟩)

theorem dbGetfield_pushes {i : Int32} {values : List Value}
    (ints : s.invocation.ints = i :: packed :: id :: rest)
    (found : findColumn (.unpack packed) env.config = .ok column)
    (there : env.config.dbRow id = .ok row) (here : row.table = (ColumnRef.unpack packed).table)
    (read : fieldValues column.types ((tuple? row (.unpack packed) column i).getD []) =
      column.types.zip values) (typed : Typed column.types values) :
    dbGetfield env s = .ok () (s.pushed rest values) := by
  have listed : findRow (.unpack packed) id env.config = .ok row := by
    refine Except.bind_eq_ok.2 ⟨row, there, ?_⟩
    rw [if_pos here]
    rfl
  unfold dbGetfield
  refine (bind_of_ok (popInt3_eq_ok.2 ⟨rest, ints, rfl⟩)).trans ?_
  refine (bind_of_ok (fromConfig_eq_ok.2 ⟨rfl, found⟩)).trans ?_
  refine (bind_of_ok (fromConfig_eq_ok.2 ⟨rfl, listed⟩)).trans ?_
  rw [read]
  exact pushAll_zip env typed _

end Op.Database

/-! ## Agreement -/

namespace Runner

/-- `r.Shows packed id types tuples`: to scripts, the field of the row in the column that is referred to
    consists of these tuples. -/
structure Shows (r : Runner) (packed id : Int32) (types : List VarType)
    (tuples : List (List Value)) : Prop where
  typed : ∀ tuple ∈ tuples, Typed types tuple
  counted : ∀ s rest, s.opcode? = some Opcode.dbGetfieldcount.id →
    s.invocation.ints = packed :: id :: rest →
    r.Calls s (s.pushed rest [.int (Arithmetic.ofLength tuples.length)])
  read : ∀ s i rest, s.opcode? = some Opcode.dbGetfield.id →
    s.invocation.ints = i :: packed :: id :: rest →
    r.Calls s (s.pushed rest (fieldAt types tuples i))
  searched : ∀ s key ints strings, s.opcode? = some Opcode.dbFind.id →
    s.Asks packed key ints strings → ∃ t, r.Calls s t ∧
      (id ∈ t.invocation.query.rows ↔
        ∃ tuple ∈ tuples, tuple[(ColumnRef.unpack packed).position]? = some key)

variable {r : Runner} {packed id : Int32} {column : DbColumn} {row : DbRow}

/-- Whole tuples show. -/
theorem shows_fieldTuples (standard : r.registry = Op.standard) (keeps : r.config.KeepsRowIds)
    (whole : r.config.WholeColumns)
    (found : findColumn (.unpack packed) r.config = .ok column)
    (there : r.config.dbRow id = .ok row) (here : row.table = (ColumnRef.unpack packed).table) :
    r.Shows packed id column.types (fieldTuples (.unpack packed) column row) := by
  have stored : r.config.dbRows.get? id = some row := Config.entry_eq_ok.1 there
  obtain ⟨typed, length⟩ := whole.fieldTuples_eq found stored here
  refine ⟨typed, fun s rest opcode ints => ?_, fun s i rest opcode ints => ?_,
    fun s key ints strings opcode asks => ?_⟩
  · have done := Op.Database.dbGetfieldcount_pushes r.env ints found there
    rw [← length] at done
    exact calls_of_listed standard Op.Database.table_listed (Op.mem_of_lookup .dbGetfieldcount rfl) opcode
      done
  · have read := fieldValues_eq typed i
    rw [← tuple?_eq] at read
    have done := Op.Database.dbGetfield_pushes r.env ints found there here read
      (typed_fieldAt typed i)
    exact calls_of_listed standard Op.Database.table_listed (Op.mem_of_lookup .dbGetfield rfl) opcode done
  · have done : Op.Database.dbFind r.env s = .ok () _ :=
      Op.Database.dbFind_eq_ok.2 ⟨packed, key, ints, strings, column, asks, found, rfl⟩
    refine ⟨_, calls_of_listed standard Op.Database.table_listed (Op.mem_of_lookup .dbFind rfl) opcode done,
      ?_⟩
    rw [← rowMatches_iff]
    refine (Config.mem_rowIds keeps).trans ?_
    constructor
    · rintro ⟨row', stored', -, matching⟩
      cases stored.symm.trans stored'
      exact matching
    · exact fun matching => ⟨row, stored, here, matching⟩

/-- So they do with a pack that was read from files, because its rows are kept under their ids. -/
theorem shows_fieldTuples_of_ofFiles {files : SortedMap String String} {p : Pack}
    (loaded : Pack.ofFiles files = .ok p) (budget : Option UInt32) (whole : p.config.WholeColumns)
    (found : findColumn (.unpack packed) p.config = .ok column)
    (there : p.config.dbRow id = .ok row) (here : row.table = (ColumnRef.unpack packed).table) :
    (p.runner budget).Shows packed id column.types (fieldTuples (.unpack packed) column row) :=
  shows_fieldTuples (standard_registry p.library p.config budget) (Pack.keepsRowIds_ofFiles loaded) whole
    found there here

/-- Take a config in which every row has whole tuples in the columns that its table declares, a reference to
    a column that exists, and a row of that column's table.  The count of the row is the number of its
    tuples; reading the row at an index pushes the tuple that stands there, or the defaults if none does, in
    either case a value for each type on the stack of that type; and a search selects the row exactly if some
    tuple has the key at the position.

    As long as the number is an int, the search selects the row exactly if there is an index from zero up to
    the count at which reading pushes the key at the position, and at all other indices reading pushes the
    defaults. -/
theorem columns_agree (library : Library) (config : Config) (budget : Option UInt32)
    (packed id : Int32) (column : DbColumn) (row : DbRow)
    (keeps : config.KeepsRowIds) (whole : config.WholeColumns)
    (found : findColumn (.unpack packed) config = .ok column)
    (there : config.dbRow id = .ok row) (here : row.table = (ColumnRef.unpack packed).table) :
    let r := Runner.standard library config budget
    let tuples := fieldTuples (.unpack packed) column row
    let count := Arithmetic.ofLength tuples.length
    r.Shows packed id column.types tuples ∧
    (∀ i, Typed column.types (fieldAt column.types tuples i)) ∧
    (tuples.length < 2147483648 →
      (∀ s key ints strings, s.opcode? = some Opcode.dbFind.id → s.Asks packed key ints strings →
        ∃ t, r.Calls s t ∧
          (id ∈ t.invocation.query.rows ↔ ∃ i, 0 ≤ i ∧ i < count ∧
            (fieldAt column.types tuples i)[(ColumnRef.unpack packed).position]? = some key)) ∧
      ∀ i, ¬ (0 ≤ i ∧ i < count) →
        fieldAt column.types tuples i = column.types.map VarType.default) := by
  intro r tuples count
  have shows : r.Shows packed id column.types tuples :=
    shows_fieldTuples (standard_registry library config budget) keeps whole found there here
  refine ⟨shows, typed_fieldAt shows.typed, fun short => ⟨?_, fun i => fieldAt_of_outside short⟩⟩
  intro s key ints strings opcode asks
  obtain ⟨t, calls, selected⟩ := shows.searched s key ints strings opcode asks
  refine ⟨t, calls, selected.trans ⟨?_, ?_⟩⟩
  · rintro ⟨tuple, mem, holds⟩
    obtain ⟨i, nonneg, below, same⟩ := exists_fieldAt column.types short mem
    exact ⟨i, nonneg, below, same ▸ holds⟩
  · rintro ⟨i, nonneg, below, holds⟩
    exact ⟨_, fieldAt_of_lt short nonneg below, holds⟩

/-! ## A row of two tuples -/

/-- A table of one column, with two tuples in a row. -/
def menuColumn : DbColumn := ⟨"dish", [.int, .string]⟩

def menuRow : DbRow :=
  ⟨5, 1, .ofList [(0, [.int 10, .text "soup", .int 20, .text "bread"])]⟩

def menuConfig : Config :=
  { Config.empty with dbTables := .ofList [(1, ⟨1, "menu", [menuColumn]⟩)],
                      dbRows := .ofList [(5, menuRow)] }

/-- A scene in which one instruction is called. -/
def menuScene (o : Opcode) (ints : List Int32) : Scene :=
  ⟨{ Invocation.new ⟨1, none, 0, 0, 0, 0, #[o.id], #[0], #[], #[]⟩ [] with
      execution := .running, pc := 0, ints }, .empty, []⟩

theorem menuConfig_keepsRowIds : menuConfig.KeepsRowIds := by
  intro id row stored
  cases List.mem_singleton.1 (SortedMap.mem_of_get?_ofList stored)
  rfl

theorem menuConfig_wholeColumns : menuConfig.WholeColumns := by
  intro id row table n column values stored listed _ declared filled
  cases List.mem_singleton.1 (SortedMap.mem_of_get?_ofList stored)
  cases List.mem_singleton.1 (SortedMap.mem_of_get?_ofList listed)
  cases List.mem_singleton.1 (List.mem_of_getElem? declared)
  cases List.mem_singleton.1 (SortedMap.mem_of_get?_ofList filled)
  refine ⟨[[.int 10, .text "soup"], [.int 20, .text "bread"]], ?_, rfl⟩
  exact List.forall_mem_cons.2 ⟨.cons rfl (.cons rfl .nil),
    List.forall_mem_singleton.2 (.cons rfl (.cons rfl .nil))⟩

/-- The key 20 is found, and is read at the index 1; before the first tuple there are the defaults. -/
theorem columns_agree_menuRow :
    let r := Runner.standard .empty menuConfig none
    (∃ t, r.Calls (menuScene .dbFind [20, 4096]) t ∧ 5 ∈ t.invocation.query.rows) ∧
    (∃ t, r.Calls (menuScene .dbGetfieldcount [4096, 5]) t ∧ t.invocation.ints = [2]) ∧
    (∃ t, r.Calls (menuScene .dbGetfield [1, 4096, 5]) t ∧
      t.invocation.ints = [20] ∧ t.invocation.strings = ["bread"]) ∧
    ∃ t, r.Calls (menuScene .dbGetfield [-1, 4096, 5]) t ∧
      t.invocation.ints = [0] ∧ t.invocation.strings = [""] := by
  intro r
  obtain ⟨shows, -, agree⟩ := columns_agree .empty menuConfig none 4096 5 menuColumn menuRow
    menuConfig_keepsRowIds menuConfig_wholeColumns rfl rfl rfl
  obtain ⟨selects, -⟩ := agree (by decide)
  refine ⟨?_, ?_, ?_, ?_⟩
  · obtain ⟨t, calls, selected⟩ := selects (menuScene .dbFind [20, 4096]) (.int 20) [] [] rfl
      (.int rfl rfl)
    exact ⟨t, calls, selected.2 ⟨1, by decide, by decide, rfl⟩⟩
  · exact ⟨_, shows.counted (menuScene .dbGetfieldcount [4096, 5]) [] rfl rfl, rfl⟩
  · exact ⟨_, shows.read (menuScene .dbGetfield [1, 4096, 5]) 1 [] rfl rfl, rfl, rfl⟩
  · exact ⟨_, shows.read (menuScene .dbGetfield [-1, 4096, 5]) (-1) [] rfl rfl, rfl, rfl⟩

end Runner

end TickScript
