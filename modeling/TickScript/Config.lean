import TickScript.Fault
import TickScript.SortedMap

/-
  The static tables that scripts read: params, the types of npcs, locs and objs, enums, and a small
  database of tables and rows.

  In a document each is a list; loaded, they are indexed by id, and of two entries with one id the later
  counts.
-/

namespace TickScript

/-- A named property that types may have, with its declared type. -/
structure ParamType where
  id : Int32
  debugname : String
  varType : VarType
  defaultValue : Option Value
  deriving DecidableEq

/-- The value of a type that does not set the param. -/
def ParamType.fallback (p : ParamType) : Value := p.defaultValue.getD p.varType.default

/-- What npcs, and likewise locs, of one type have in common. -/
structure EntityType where
  id : Int32
  debugname : String
  name : Option String
  desc : Option String
  /-- The category, or -1. -/
  category : Int32
  params : SortedMap Int32 Value
  deriving DecidableEq

/-- What objs of one type have in common. -/
structure ObjType where
  id : Int32
  debugname : String
  name : Option String
  desc : Option String
  category : Int32
  members : Bool
  weight : Int32
  cost : Int32
  /-- Whether any number of them fits one inventory slot. -/
  stackable : Bool
  params : SortedMap Int32 Value
  deriving DecidableEq

/-- A map from ints to values of one type. -/
structure EnumType where
  id : Int32
  inputType : VarType
  outputType : VarType
  defaultValue : Option Value
  values : SortedMap Int32 Value
  deriving DecidableEq

/-- The value at a key; a key without one has the default. -/
def EnumType.get (e : EnumType) (key : Int32) : Value :=
  (e.values.get? key).getD (e.defaultValue.getD e.outputType.default)

/-- A column of a database table: its fields hold tuples of these types. -/
structure DbColumn where
  name : String
  types : List VarType
  deriving DecidableEq

/-- The number of values in a tuple of the column; a column without types is read value by value. -/
def DbColumn.width (c : DbColumn) : Nat := max 1 c.types.length

structure DbTable where
  id : Int32
  debugname : String
  columns : List DbColumn
  deriving DecidableEq

structure DbRow where
  id : Int32
  table : Int32
  /-- For a column its tuples, one after the other. -/
  columns : SortedMap Int32 (List Value)
  deriving DecidableEq

/-- The tuples of a list of values: chunks of `width`, of which the last may be short. -/
def tuples (width : Nat) (values : List Value) : List (List Value) :=
  go values.length values
where
  go : Nat → List Value → List (List Value)
    | 0, _ => []
    | _ + 1, [] => []
    | bound + 1, values => values.take width :: go bound (values.drop width)

/-! ## JSON forms -/

instance : JsonForm ParamType where
  toJson p := .obj [("id", toJson p.id), ("debugname", toJson p.debugname),
    ("varType", toJson p.varType), ("defaultValue", toJson p.defaultValue)]
  ofJson? v := do
    let members ← v.record? ["id", "debugname", "varType", "defaultValue"]
    pure {
      id := ← Json.required "id" members
      debugname := ← Json.required "debugname" members
      varType := ← Json.required "varType" members
      defaultValue := ← Json.optional "defaultValue" members }

instance : JsonForm EntityType where
  toJson t := .obj [("id", toJson t.id), ("debugname", toJson t.debugname), ("name", toJson t.name),
    ("desc", toJson t.desc), ("category", toJson t.category), ("params", toJson t.params)]
  ofJson? v := do
    let members ← v.record? ["id", "debugname", "name", "desc", "category", "params"]
    pure {
      id := ← Json.required "id" members
      debugname := ← Json.required "debugname" members
      name := ← Json.optional "name" members
      desc := ← Json.optional "desc" members
      category := ← Json.defaulted "category" (-1) members
      params := ← Json.defaulted "params" .empty members }

instance : JsonForm ObjType where
  toJson t := .obj [("id", toJson t.id), ("debugname", toJson t.debugname), ("name", toJson t.name),
    ("desc", toJson t.desc), ("category", toJson t.category), ("members", toJson t.members),
    ("weight", toJson t.weight), ("cost", toJson t.cost), ("stackable", toJson t.stackable),
    ("params", toJson t.params)]
  ofJson? v := do
    let members ← v.record? ["id", "debugname", "name", "desc", "category", "members", "weight",
      "cost", "stackable", "params"]
    pure {
      id := ← Json.required "id" members
      debugname := ← Json.required "debugname" members
      name := ← Json.optional "name" members
      desc := ← Json.optional "desc" members
      category := ← Json.defaulted "category" (-1) members
      members := ← Json.defaulted "members" false members
      weight := ← Json.defaulted "weight" 0 members
      cost := ← Json.defaulted "cost" 1 members
      stackable := ← Json.defaulted "stackable" false members
      params := ← Json.defaulted "params" .empty members }

instance : JsonForm EnumType where
  toJson e := .obj [("id", toJson e.id), ("inputType", toJson e.inputType),
    ("outputType", toJson e.outputType), ("defaultValue", toJson e.defaultValue),
    ("values", toJson e.values)]
  ofJson? v := do
    let members ← v.record? ["id", "inputType", "outputType", "defaultValue", "values"]
    pure {
      id := ← Json.required "id" members
      inputType := ← Json.required "inputType" members
      outputType := ← Json.required "outputType" members
      defaultValue := ← Json.optional "defaultValue" members
      values := ← Json.defaulted "values" .empty members }

instance : JsonForm DbColumn where
  toJson c := .obj [("name", toJson c.name), ("types", toJson c.types)]
  ofJson? v := do
    let members ← v.record? ["name", "types"]
    pure {
      name := ← Json.required "name" members
      types := ← Json.required "types" members }

instance : JsonForm DbTable where
  toJson t := .obj [("id", toJson t.id), ("debugname", toJson t.debugname),
    ("columns", toJson t.columns)]
  ofJson? v := do
    let members ← v.record? ["id", "debugname", "columns"]
    pure {
      id := ← Json.required "id" members
      debugname := ← Json.required "debugname" members
      columns := ← Json.required "columns" members }

instance : JsonForm DbRow where
  toJson r := .obj [("id", toJson r.id), ("table", toJson r.table), ("columns", toJson r.columns)]
  ofJson? v := do
    let members ← v.record? ["id", "table", "columns"]
    pure {
      id := ← Json.required "id" members
      table := ← Json.required "table" members
      columns := ← Json.defaulted "columns" .empty members }

/-! ## The loaded tables -/

/-- All tables, indexed by id. -/
structure Config where
  params : SortedMap Int32 ParamType
  npcs : SortedMap Int32 EntityType
  locs : SortedMap Int32 EntityType
  objs : SortedMap Int32 ObjType
  enums : SortedMap Int32 EnumType
  dbTables : SortedMap Int32 DbTable
  dbRows : SortedMap Int32 DbRow
  deriving DecidableEq

namespace Config

def empty : Config := ⟨.empty, .empty, .empty, .empty, .empty, .empty, .empty⟩

instance : Inhabited Config := ⟨empty⟩

/-- A list of entries by their ids. -/
def indexed {α : Type} (id : α → Int32) (entries : List α) : SortedMap Int32 α :=
  .ofList (entries.map fun e => (id e, e))

/-- The tables that a document lists. -/
def ofJson? (v : Json) : Option Config := do
  let members ← v.record? ["params", "npcs", "locs", "objs", "enums", "dbTables", "dbRows"]
  pure {
    params := indexed ParamType.id (← Json.defaulted "params" [] members)
    npcs := indexed EntityType.id (← Json.defaulted "npcs" [] members)
    locs := indexed EntityType.id (← Json.defaulted "locs" [] members)
    objs := indexed ObjType.id (← Json.defaulted "objs" [] members)
    enums := indexed EnumType.id (← Json.defaulted "enums" [] members)
    dbTables := indexed DbTable.id (← Json.defaulted "dbTables" [] members)
    dbRows := indexed DbRow.id (← Json.defaulted "dbRows" [] members) }

/-- The tables of a JSON text. -/
def ofText? (text : String) : Option Config := (Json.read? text).bind ofJson?

/-- An entry of one table, or the fault that there is none. -/
def entry {α : Type} (table : ConfigTable) (m : SortedMap Int32 α) (id : Int32) : Except Fault α :=
  match m.get? id with
  | some e => .ok e
  | none => .error (.noEntry table id)

def param (c : Config) : Int32 → Except Fault ParamType := entry .param c.params
def npc (c : Config) : Int32 → Except Fault EntityType := entry .npc c.npcs
def loc (c : Config) : Int32 → Except Fault EntityType := entry .loc c.locs
def obj (c : Config) : Int32 → Except Fault ObjType := entry .obj c.objs
def enum (c : Config) : Int32 → Except Fault EnumType := entry .enum c.enums
def dbTable (c : Config) : Int32 → Except Fault DbTable := entry .dbTable c.dbTables
def dbRow (c : Config) : Int32 → Except Fault DbRow := entry .dbRow c.dbRows

/-- The rows of a table in ascending order of their ids. -/
def rowsOf (c : Config) (table : Int32) : List DbRow := c.dbRows.values.filter (·.table = table)

/-- The declared type of a param and its value among the params that a type sets. -/
def resolveParam (c : Config) (params : SortedMap Int32 Value) (id : Int32) :
    Except Fault (VarType × Value) := do
  let p ← c.param id
  pure (p.varType, (params.get? id).getD p.fallback)

end Config

end TickScript
