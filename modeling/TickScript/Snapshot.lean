import TickScript.Invocation
import TickScript.Library

/-
  Snapshots: a waiting invocation in a form that can be stored.

  Scripts are stored by id and looked up again; everything else is stored as it is, except for what only
  concerns the entry under way.  Frames are listed outermost first and stacks from the bottom up.
-/

namespace TickScript

/-- A waiting call, with its script by id. -/
structure FrameSnapshot where
  scriptId : Int32
  pc : Int32
  intLocals : List Int32
  stringLocals : List String
  deriving DecidableEq

/-- A waiting invocation, with its scripts by id. -/
structure Snapshot where
  schemaVersion : String
  rootScriptId : Int32
  scriptId : Int32
  pc : Int32
  execution : Execution
  executionHistory : List Execution
  intStack : List Int32
  stringStack : List String
  intLocals : List Int32
  stringLocals : List String
  frames : List FrameSnapshot
  pointers : Pointers
  self : Option Entity
  activePlayers : Slots PlayerRef
  activeNpcs : Slots NpcRef
  activeLocs : Slots Loc
  activeObjs : Slots Obj
  lastInt : Int32
  delay : Option Int32
  dbTable : Int32
  dbRowQuery : List Int32
  dbCursor : UInt64
  args : List Value
  deriving DecidableEq

/-! ## JSON forms -/

instance : JsonForm FrameSnapshot where
  toJson f := .obj [("scriptId", toJson f.scriptId), ("pc", toJson f.pc),
    ("intLocals", toJson f.intLocals), ("stringLocals", toJson f.stringLocals)]
  ofJson? v := do
    let members ← v.record? ["scriptId", "pc", "intLocals", "stringLocals"]
    pure {
      scriptId := ← Json.required "scriptId" members
      pc := ← Json.required "pc" members
      intLocals := ← Json.required "intLocals" members
      stringLocals := ← Json.required "stringLocals" members }

instance : JsonForm Snapshot where
  toJson s := .obj [
    ("schemaVersion", toJson s.schemaVersion),
    ("rootScriptId", toJson s.rootScriptId),
    ("scriptId", toJson s.scriptId),
    ("pc", toJson s.pc),
    ("execution", toJson s.execution),
    ("executionHistory", toJson s.executionHistory),
    ("intStack", toJson s.intStack),
    ("stringStack", toJson s.stringStack),
    ("intLocals", toJson s.intLocals),
    ("stringLocals", toJson s.stringLocals),
    ("frames", toJson s.frames),
    ("pointers", toJson s.pointers),
    ("self", toJson s.self),
    ("activePlayers", toJson s.activePlayers),
    ("activeNpcs", toJson s.activeNpcs),
    ("activeLocs", toJson s.activeLocs),
    ("activeObjs", toJson s.activeObjs),
    ("lastInt", toJson s.lastInt),
    ("delay", toJson s.delay),
    ("dbTable", toJson s.dbTable),
    ("dbRowQuery", toJson s.dbRowQuery),
    ("dbCursor", toJson s.dbCursor),
    ("args", toJson s.args)]
  ofJson? v := do
    let members ← v.record? ["schemaVersion", "rootScriptId", "scriptId", "pc", "execution",
      "executionHistory", "intStack", "stringStack", "intLocals", "stringLocals", "frames", "pointers",
      "self", "activePlayers", "activeNpcs", "activeLocs", "activeObjs", "lastInt", "delay", "dbTable",
      "dbRowQuery", "dbCursor", "args"]
    pure {
      schemaVersion := ← Json.required "schemaVersion" members
      rootScriptId := ← Json.required "rootScriptId" members
      scriptId := ← Json.required "scriptId" members
      pc := ← Json.required "pc" members
      execution := ← Json.required "execution" members
      executionHistory := ← Json.required "executionHistory" members
      intStack := ← Json.required "intStack" members
      stringStack := ← Json.required "stringStack" members
      intLocals := ← Json.required "intLocals" members
      stringLocals := ← Json.required "stringLocals" members
      frames := ← Json.required "frames" members
      pointers := ← Json.required "pointers" members
      self := ← Json.optional "self" members
      activePlayers := ← Json.required "activePlayers" members
      activeNpcs := ← Json.required "activeNpcs" members
      activeLocs := ← Json.required "activeLocs" members
      activeObjs := ← Json.required "activeObjs" members
      lastInt := ← Json.required "lastInt" members
      delay := ← Json.optional "delay" members
      dbTable := ← Json.required "dbTable" members
      dbRowQuery := ← Json.required "dbRowQuery" members
      dbCursor := ← Json.required "dbCursor" members
      args := ← Json.defaulted "args" [] members }

namespace Snapshot

/-- The version of the form, which every snapshot names. -/
def schema : String := "script-snapshot.v1"

/-! ## Taking one -/

def ofFrame (f : Frame) : FrameSnapshot := ⟨f.script.id, f.pc, f.intLocals, f.stringLocals⟩

/-- The snapshot of an invocation that waits. -/
def capture (i : Invocation) : Except Fault Snapshot :=
  if !i.execution.isSuspended then .error (.notSuspended i.execution)
  else .ok {
    schemaVersion := schema
    rootScriptId := i.root.id
    scriptId := i.script.id
    pc := i.pc
    execution := i.execution
    executionHistory := i.history
    intStack := i.ints.reverse
    stringStack := i.strings.reverse
    intLocals := i.intLocals
    stringLocals := i.stringLocals
    frames := i.frames.reverse.map ofFrame
    pointers := i.pointers
    self := i.self
    activePlayers := i.players
    activeNpcs := i.npcs
    activeLocs := i.locs
    activeObjs := i.objs
    lastInt := i.lastInt
    delay := i.delay
    dbTable := i.query.table
    dbRowQuery := i.query.rows
    dbCursor := i.query.cursor
    args := i.args }

/-! ## Going back to one -/

def restoreFrame (l : Library) (f : FrameSnapshot) : Except Fault Frame := do
  pure ⟨← l.require f.scriptId, f.pc, f.intLocals, f.stringLocals⟩

/-- The invocation of a snapshot, with scripts from the library.  The position has to lie in its script;
    the positions of the waiting calls and their number are taken on trust. -/
def restore (s : Snapshot) (l : Library) : Except Fault Invocation := do
  if s.schemaVersion ≠ schema then throw (.snapshotSchema s.schemaVersion)
  if !s.execution.isSuspended then throw (.snapshotExecution s.execution)
  let script ← l.require s.scriptId
  let frames ← s.frames.mapM (restoreFrame l)
  if s.pc < -1 || script.length ≤ s.pc.toInt then throw (.snapshotPc s.pc script.name)
  let root ← l.require s.rootScriptId
  pure {
    script
    execution := s.execution
    history := s.executionHistory
    pc := s.pc
    opcount := 0
    frames := frames.reverse
    ints := s.intStack.reverse
    strings := s.stringStack.reverse
    intLocals := s.intLocals
    stringLocals := s.stringLocals
    pointers := s.pointers
    self := s.self
    players := s.activePlayers
    npcs := s.activeNpcs
    locs := s.activeLocs
    objs := s.activeObjs
    lastInt := s.lastInt
    delay := s.delay
    query := ⟨s.dbTable, s.dbRowQuery, s.dbCursor⟩
    abort := none
    root
    args := s.args }

end Snapshot

end TickScript
