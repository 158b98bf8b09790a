import TickScript.Coord

/-
  Entities that an invocation can be bound to.

  Players and npcs are handles: what they stand for is looked up in the world at every use, so a handle
  may have gone stale.  A loc or an obj carries all its data.
-/

namespace TickScript

/-- A handle of a player. -/
structure PlayerRef where
  pid : Int32
  deriving DecidableEq

/-- A handle of an npc, with the type that it had when the handle was made. -/
structure NpcRef where
  nid : Int32
  typeId : Int32
  deriving DecidableEq

namespace NpcRef

/-- The handle as one int: the type above, the number in the low half. -/
def uid (n : NpcRef) : Int32 := (n.typeId <<< 16) ||| n.nid

/-- The handle that a uid stands for. -/
def ofUid (uid : Int32) : NpcRef := ⟨uid &&& 0xffff, (uid >>> 16) &&& 0xffff⟩

end NpcRef

/-- A piece of scenery. -/
structure Loc where
  typeId : Int32
  coord : Coord
  shape : Int32
  angle : Int32
  deriving DecidableEq

/-- Something lying on the ground. -/
structure Obj where
  typeId : Int32
  coord : Coord
  count : Int32
  deriving DecidableEq

/-- Anything that an invocation can be bound to. -/
inductive Entity where
  | player (p : PlayerRef)
  | npc (n : NpcRef)
  | loc (l : Loc)
  | obj (o : Obj)
  deriving DecidableEq

/-! ## JSON forms -/

instance : JsonForm PlayerRef where
  toJson p := .obj [("pid", toJson p.pid)]
  ofJson? v := do
    let members ← v.record? ["pid"]
    pure { pid := ← Json.required "pid" members }

instance : JsonForm NpcRef where
  toJson n := .obj [("nid", toJson n.nid), ("typeId", toJson n.typeId)]
  ofJson? v := do
    let members ← v.record? ["nid", "typeId"]
    pure {
      nid := ← Json.required "nid" members
      typeId := ← Json.required "typeId" members }

instance : JsonForm Loc where
  toJson l := .obj [("typeId", toJson l.typeId), ("coord", toJson l.coord),
    ("shape", toJson l.shape), ("angle", toJson l.angle)]
  ofJson? v := do
    let members ← v.record? ["typeId", "coord", "shape", "angle"]
    pure {
      typeId := ← Json.required "typeId" members
      coord := ← Json.required "coord" members
      shape := ← Json.required "shape" members
      angle := ← Json.required "angle" members }

instance : JsonForm Obj where
  toJson o := .obj [("typeId", toJson o.typeId), ("coord", toJson o.coord),
    ("count", toJson o.count)]
  ofJson? v := do
    let members ← v.record? ["typeId", "coord", "count"]
    pure {
      typeId := ← Json.required "typeId" members
      coord := ← Json.required "coord" members
      count := ← Json.required "count" members }

instance : JsonForm Entity where
  toJson
    | .player p => (toJson p).withKind "player"
    | .npc n => (toJson n).withKind "npc"
    | .loc l => (toJson l).withKind "loc"
    | .obj o => (toJson o).withKind "obj"
  ofJson? v := do
    let (kind, record) ← v.tagged?
    match kind with
    | "player" => (ofJson? record).map .player
    | "npc" => (ofJson? record).map .npc
    | "loc" => (ofJson? record).map .loc
    | "obj" => (ofJson? record).map .obj
    | _ => none

end TickScript
