import TickScript.Entity

/-
  What happens in a world, one event for each effect of a script.

  The log of events tells everything that others would notice: messages and animations, which have no
  other trace, and also every change of places, experience, locs, objs and npcs.
-/

namespace TickScript

/-- An effect on the world. -/
inductive WorldEvent where
  | message (pid : Int32) (text : String)
  | xp (pid stat amount : Int32)
  | teleport (pid : Int32) (coord : Coord)
  | playerAnim (pid seq delay : Int32)
  | playerSay (pid : Int32) (text : String)
  /-- A script was put off for a player. -/
  | playerQueue (pid script delay : Int32)
  | npcAnim (nid seq delay : Int32)
  | npcSay (nid : Int32) (text : String)
  | npcDamage (nid damageType amount : Int32) (source : Option Int32)
  | npcTimer (nid interval : Int32)
  | npcSpotanim (nid spotanim height delay : Int32)
  | npcRemoved (nid : Int32)
  /-- A script was put off for an npc. -/
  | npcQueue (nid script delay : Int32)
  | locAdded (loc : Loc) (duration : Int32)
  | locRemoved (loc : Loc) (duration : Int32)
  | objAdded (obj : Obj) (receiver : Option Int32) (duration : Int32)
  | objRemoved (obj : Obj) (duration : Int32)
  deriving DecidableEq

namespace WorldEvent

def json : WorldEvent → Json
  | message pid text =>
    .withKind "message" (.obj [("pid", toJson pid), ("text", toJson text)])
  | xp pid stat amount =>
    .withKind "xp" (.obj [("pid", toJson pid), ("stat", toJson stat), ("xp", toJson amount)])
  | teleport pid coord =>
    .withKind "teleport" (.obj [("pid", toJson pid), ("coord", toJson coord)])
  | playerAnim pid seq delay =>
    .withKind "player_anim"
      (.obj [("pid", toJson pid), ("seq", toJson seq), ("delay", toJson delay)])
  | playerSay pid text =>
    .withKind "player_say" (.obj [("pid", toJson pid), ("text", toJson text)])
  | playerQueue pid script delay =>
    .withKind "player_queue"
      (.obj [("pid", toJson pid), ("script", toJson script), ("delay", toJson delay)])
  | npcAnim nid seq delay =>
    .withKind "npc_anim" (.obj [("nid", toJson nid), ("seq", toJson seq), ("delay", toJson delay)])
  | npcSay nid text =>
    .withKind "npc_say" (.obj [("nid", toJson nid), ("text", toJson text)])
  | npcDamage nid damageType amount source =>
    .withKind "npc_damage" (.obj [("nid", toJson nid), ("damageType", toJson damageType),
      ("amount", toJson amount), ("source", toJson source)])
  | npcTimer nid interval =>
    .withKind "npc_timer" (.obj [("nid", toJson nid), ("interval", toJson interval)])
  | npcSpotanim nid spotanim height delay =>
    .withKind "npc_spotanim" (.obj [("nid", toJson nid), ("spotanim", toJson spotanim),
      ("height", toJson height), ("delay", toJson delay)])
  | npcRemoved nid => .withKind "npc_removed" (.obj [("nid", toJson nid)])
  | npcQueue nid script delay =>
    .withKind "npc_queue"
      (.obj [("nid", toJson nid), ("script", toJson script), ("delay", toJson delay)])
  | locAdded loc duration =>
    .withKind "loc_added" (.obj [("loc", toJson loc), ("duration", toJson duration)])
  | locRemoved loc duration =>
    .withKind "loc_removed" (.obj [("loc", toJson loc), ("duration", toJson duration)])
  | objAdded obj receiver duration =>
    .withKind "obj_added" (.obj [("obj", toJson obj), ("receiver", toJson receiver),
      ("duration", toJson duration)])
  | objRemoved obj duration =>
    .withKind "obj_removed" (.obj [("obj", toJson obj), ("duration", toJson duration)])

open Json in
/-- The event of a kind that a record describes. -/
def ofRecord? (kind : String) (record : Json) : Option WorldEvent :=
  match kind with
  | "message" => do
    let ms ← record.record? ["pid", "text"]
    pure (.message (← required "pid" ms) (← required "text" ms))
  | "xp" => do
    let ms ← record.record? ["pid", "stat", "xp"]
    pure (.xp (← required "pid" ms) (← required "stat" ms) (← required "xp" ms))
  | "teleport" => do
    let ms ← record.record? ["pid", "coord"]
    pure (.teleport (← required "pid" ms) (← required "coord" ms))
  | "player_anim" => do
    let ms ← record.record? ["pid", "seq", "delay"]
    pure (.playerAnim (← required "pid" ms) (← required "seq" ms) (← required "delay" ms))
  | "player_say" => do
    let ms ← record.record? ["pid", "text"]
    pure (.playerSay (← required "pid" ms) (← required "text" ms))
  | "player_queue" => do
    let ms ← record.record? ["pid", "script", "delay"]
    pure (.playerQueue (← required "pid" ms) (← required "script" ms) (← required "delay" ms))
  | "npc_anim" => do
    let ms ← record.record? ["nid", "seq", "delay"]
    pure (.npcAnim (← required "nid" ms) (← required "seq" ms) (← required "delay" ms))
  | "npc_say" => do
    let ms ← record.record? ["nid", "text"]
    pure (.npcSay (← required "nid" ms) (← required "text" ms))
  | "npc_damage" => do
    let ms ← record.record? ["nid", "damageType", "amount", "source"]
    pure (.npcDamage (← required "nid" ms) (← required "damageType" ms) (← required "amount" ms)
      (← optional "source" ms))
  | "npc_timer" => do
    let ms ← record.record? ["nid", "interval"]
    pure (.npcTimer (← required "nid" ms) (← required "interval" ms))
  | "npc_spotanim" => do
    let ms ← record.record? ["nid", "spotanim", "height", "delay"]
    pure (.npcSpotanim (← required "nid" ms) (← required "spotanim" ms) (← required "height" ms)
      (← required "delay" ms))
  | "npc_removed" => do
    let ms ← record.record? ["nid"]
    pure (.npcRemoved (← required "nid" ms))
  | "npc_queue" => do
    let ms ← record.record? ["nid", "script", "delay"]
    pure (.npcQueue (← required "nid" ms) (← required "script" ms) (← required "delay" ms))
  | "loc_added" => do
    let ms ← record.record? ["loc", "duration"]
    pure (.locAdded (← required "loc" ms) (← required "duration" ms))
  | "loc_removed" => do
    let ms ← record.record? ["loc", "duration"]
    pure (.locRemoved (← required "loc" ms) (← required "duration" ms))
  | "obj_added" => do
    let ms ← record.record? ["obj", "receiver", "duration"]
    pure (.objAdded (← required "obj" ms) (← optional "receiver" ms) (← required "duration" ms))
  | "obj_removed" => do
    let ms ← record.record? ["obj", "duration"]
    pure (.objRemoved (← required "obj" ms) (← required "duration" ms))
  | _ => none

end WorldEvent

instance : JsonForm WorldEvent where
  toJson := WorldEvent.json
  ofJson? v := do
    let (kind, record) ← v.tagged?
    WorldEvent.ofRecord? kind record

end TickScript
