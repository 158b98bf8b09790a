import TickScript.Op

/-
  Instructions about the database.

  A column is referred to by one int: the table above, then the column, and in the low four bits a position
  within the column's tuples.  A search remembers the rows that it found; they are then taken one by one.
-/

namespace TickScript.Op.Database

/-- A position within the tuples of a column. -/
structure ColumnRef where
  table : Int32
  column : Int32
  position : Nat
  deriving DecidableEq

/-- The position that a packed reference stands for. -/
def ColumnRef.unpack (packed : Int32) : ColumnRef where
  table := (packed >>> 12) &&& 0xffff
  column := (packed >>> 4) &&& 0x7f
  position := (packed &&& 0xf).toNatClampNeg

/-- The column that is referred to. -/
def findColumn (ref : ColumnRef) (c : Config) : Except Fault DbColumn := do
  let table ← c.dbTable ref.table
  match table.columns[ref.column.toNatClampNeg]? with
  | some column => pure column
  | none => .error (.noColumn ref.table ref.column)

/-- Whether some tuple of the row's column has the key at the position. -/
def rowMatches (ref : ColumnRef) (width : Nat) (key : Value) (row : DbRow) : Bool :=
  match row.columns.get? ref.column with
  | some values => (tuples width values).any fun tuple => tuple[ref.position]? = some key
  | none => false

/-- The ids of the rows that a search finds, in ascending order. -/
def findRows (ref : ColumnRef) (column : DbColumn) (key : Value) (c : Config) : List Int32 :=
  ((c.rowsOf ref.table).filter (rowMatches ref column.width key)).map (·.id)

/-- The key to search for: a string for the operand 1, and otherwise an int. -/
def popKey : Op Value := do
  match ← selectedSlot with
  | .secondary => pure (.text (← popString))
  | .primary => pure (.int (← popInt))

def dbFind : Handler := do
  let key ← popKey
  let ref := ColumnRef.unpack (← popInt)
  let column ← fromConfig (findColumn ref)
  let rows ← fromConfig fun c => .ok (findRows ref column key c)
  update fun i => { i with query := ⟨ref.table, rows, 0⟩ }

def dbListall : Handler := do
  let table ← popInt
  let _ ← fromConfig (·.dbTable table)
  let rows ← fromConfig fun c => .ok ((c.rowsOf table).map (·.id))
  update fun i => { i with query := ⟨table, rows, 0⟩ }

/-- Takes the next row of the search; past the last one the answer is -1. -/
def dbFindnext : Handler := do
  let query ← ask (·.query)
  if query.table = -1 then fail .noQuery
  else match query.rows[query.cursor.toNat]? with
    | some row =>
      update fun i => { i with query := { query with cursor := query.cursor + 1 } }
      pushInt row
    | none => pushInt (-1)

/-- The tuple of a row at a position in its list, if there is one. -/
def tuple? (row : DbRow) (ref : ColumnRef) (column : DbColumn) (index : Int32) :
    Option (List Value) := do
  (tuples column.width (← row.columns.get? ref.column))[← position? index]?

/-- The values of a tuple, one for each type; a value that is missing is the default of its type. -/
def fieldValues (types : List VarType) (tuple : List Value) : List (VarType × Value) :=
  types.mapIdx fun i type => (type, (tuple[i]?).getD type.default)

/-- Pushes typed values one by one. -/
def pushAll : List (VarType × Value) → Op Unit
  | [] => pure ()
  | (type, value) :: rest => do
    pushTyped type value
    pushAll rest

/-- A row of the table that a reference means. -/
def findRow (ref : ColumnRef) (id : Int32) (c : Config) : Except Fault DbRow := do
  let row ← c.dbRow id
  if row.table = ref.table then pure row else .error (.rowElsewhere row.id ref.table)

/-- Pushes all values of one tuple. -/
def dbGetfield : Handler := do
  let (row, packed, index) ← popInt3
  let ref := ColumnRef.unpack packed
  let column ← fromConfig (findColumn ref)
  let row ← fromConfig (findRow ref row)
  pushAll (fieldValues column.types ((tuple? row ref column index).getD []))

/-- How many whole tuples the row has in the column. -/
def dbGetfieldcount : Handler := do
  let (row, packed) ← popInt2
  let ref := ColumnRef.unpack packed
  let column ← fromConfig (findColumn ref)
  let row ← fromConfig (·.dbRow row)
  let values := (row.columns.get? ref.column).getD []
  pushInt (Arithmetic.ofLength (values.length / column.width))

def table : List (Opcode × Handler) := [
  (.dbFind, dbFind),
  (.dbFindnext, dbFindnext),
  (.dbGetfield, dbGetfield),
  (.dbGetfieldcount, dbGetfieldcount),
  (.dbListall, dbListall),
  (.dbFindWithCount, unimplemented)]

end TickScript.Op.Database
