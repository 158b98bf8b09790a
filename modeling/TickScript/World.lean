import TickScript.Fault
import TickScript.Inventory
import TickScript.Rng
import TickScript.WorldEvent

/-
  The world that scripts act on.

  It holds players, npcs and what lies on the ground, a clock, random numbers and the log of events.
  Players and npcs are addressed by number at every use; a number that is no longer in the world is a
  look-up fault.  Each effect below either fails and leaves no world, or gives the new one; most add one
  event to the log.
-/

namespace TickScript

/-- A skill: its level at the moment and its level at rest. -/
structure StatLevel where
  level : Int32
  base : Int32
  deriving DecidableEq, Inhabited

/-- A player in the world. -/
structure Player where
  pid : Int32
  username : String
  displayName : Option String
  coord : Coord
  varps : SortedMap Int32 Int32
  stats : SortedMap Int32 StatLevel
  experience : SortedMap Int32 Int32
  invs : SortedMap Int32 Inventory
  deriving DecidableEq

/-- A player who has nothing but a name and a place. -/
def Player.new (pid : Int32) (username : String) (coord : Coord) : Player :=
  ⟨pid, username, none, coord, .empty, .empty, .empty, .empty⟩

/-- An npc in the world. -/
structure Npc where
  nid : Int32
  typeId : Int32
  coord : Coord
  /-- The player credited with the npc, or -1. -/
  hero : Int32
  varns : SortedMap Int32 Int32
  stats : SortedMap Int32 StatLevel
  timer : Option Int32
  deriving DecidableEq

/-- An npc that nothing has happened to. -/
def Npc.new (nid typeId : Int32) (coord : Coord) : Npc :=
  ⟨nid, typeId, coord, -1, .empty, .empty, none⟩

/-- What a script can learn about a player. -/
structure PlayerInfo where
  pid : Int32
  username : String
  displayName : String
  coord : Coord
  deriving DecidableEq

/-- What a script can learn about an npc. -/
structure NpcInfo where
  nid : Int32
  typeId : Int32
  coord : Coord
  hero : Int32
  deriving DecidableEq

/-- A world. -/
structure World where
  clock : Int32
  members : Bool
  rng : Rng
  players : SortedMap Int32 Player
  npcs : SortedMap Int32 Npc
  locs : List Loc
  objs : List Obj
  /-- What happened, oldest first. -/
  events : Array WorldEvent
  deriving DecidableEq

/-! ## JSON forms -/

instance : JsonForm StatLevel where
  toJson s := .obj [("level", toJson s.level), ("base", toJson s.base)]
  ofJson? v := do
    let members ← v.record? ["level", "base"]
    pure {
      level := ← Json.required "level" members
      base := ← Json.required "base" members }

instance : JsonForm Player where
  toJson p := .obj [("pid", toJson p.pid), ("username", toJson p.username),
    ("displayName", toJson p.displayName), ("coord", toJson p.coord), ("varps", toJson p.varps),
    ("stats", toJson p.stats), ("experience", toJson p.experience), ("invs", toJson p.invs)]
  ofJson? v := do
    let members ← v.record? ["pid", "username", "displayName", "coord", "varps", "stats",
      "experience", "invs"]
    pure {
      pid := ← Json.required "pid" members
      username := ← Json.required "username" members
      displayName := ← Json.optional "displayName" members
      coord := ← Json.defaulted "coord" .origin members
      varps := ← Json.defaulted "varps" .empty members
      stats := ← Json.defaulted "stats" .empty members
      experience := ← Json.defaulted "experience" .empty members
      invs := ← Json.defaulted "invs" .empty members }

instance : JsonForm Npc where
  toJson n := .obj [("nid", toJson n.nid), ("typeId", toJson n.typeId), ("coord", toJson n.coord),
    ("hero", toJson n.hero), ("varns", toJson n.varns), ("stats", toJson n.stats),
    ("timer", toJson n.timer)]
  ofJson? v := do
    let members ← v.record? ["nid", "typeId", "coord", "hero", "varns", "stats", "timer"]
    pure {
      nid := ← Json.required "nid" members
      typeId := ← Json.required "typeId" members
      coord := ← Json.defaulted "coord" .origin members
      hero := ← Json.defaulted "hero" (-1) members
      varns := ← Json.defaulted "varns" .empty members
      stats := ← Json.defaulted "stats" .empty members
      timer := ← Json.optional "timer" members }

instance : JsonForm World where
  toJson w := .obj [("clock", toJson w.clock), ("members", toJson w.members),
    ("rngState", toJson w.rng), ("players", toJson w.players), ("npcs", toJson w.npcs),
    ("locs", toJson w.locs), ("objs", toJson w.objs), ("events", toJson w.events)]
  ofJson? v := do
    let members ← v.record? ["clock", "members", "rngState", "players", "npcs", "locs", "objs",
      "events"]
    pure {
      clock := ← Json.defaulted "clock" 0 members
      members := ← Json.defaulted "members" false members
      rng := ← Json.defaulted "rngState" .initial members
      players := ← Json.defaulted "players" .empty members
      npcs := ← Json.defaulted "npcs" .empty members
      locs := ← Json.defaulted "locs" [] members
      objs := ← Json.defaulted "objs" [] members
      events := ← Json.defaulted "events" #[] members }

namespace World

/-- The world in which nothing is and nothing has happened. -/
def empty : World := ⟨0, false, .initial, .empty, .empty, [], [], #[]⟩

instance : Inhabited World := ⟨empty⟩

/-! ## Time, and setting the scene -/

/-- The world some ticks later. -/
def advance (w : World) (ticks : Int32) : World := { w with clock := w.clock + ticks }

/-- The world one tick later. -/
def tick (w : World) : World := w.advance 1

def addPlayer (w : World) (p : Player) : World := { w with players := w.players.insert p.pid p }

def addNpc (w : World) (n : Npc) : World := { w with npcs := w.npcs.insert n.nid n }

/-- The world with its log emptied. -/
def clearEvents (w : World) : World := { w with events := #[] }

/-- The world with one more event in its log. -/
def record (w : World) (e : WorldEvent) : World := { w with events := w.events.push e }

/-! ## Reading -/

def findPlayer (w : World) (pid : Int32) : Except Fault Player :=
  match w.players.get? pid with
  | some p => .ok p
  | none => .error (.noPlayer pid)

def findNpc (w : World) (nid : Int32) : Except Fault Npc :=
  match w.npcs.get? nid with
  | some n => .ok n
  | none => .error (.noNpc nid)

def playerCount (w : World) : Int32 := Arithmetic.ofLength w.players.size

def playerInfo (w : World) (pid : Int32) : Except Fault PlayerInfo := do
  let p ← w.findPlayer pid
  pure ⟨pid, p.username, p.displayName.getD p.username, p.coord⟩

/-- A variable of a player; one that was never set is zero. -/
def varp (w : World) (pid var : Int32) : Except Fault Int32 := do
  pure (((← w.findPlayer pid).varps.get? var).getD 0)

def stat (w : World) (pid stat : Int32) : Except Fault StatLevel := do
  pure (((← w.findPlayer pid).stats.get? stat).getD ⟨0, 0⟩)

def findInventory (p : Player) (pid inv : Int32) : Except Fault Inventory :=
  match p.invs.get? inv with
  | some i => .ok i
  | none => .error (.noInventory pid inv)

/-- All slots of an inventory. -/
def itemSlots (w : World) (pid inv : Int32) : Except Fault ItemSlots := do
  pure (← findInventory (← w.findPlayer pid) pid inv).slots

def npcInfo (w : World) (nid : Int32) : Except Fault NpcInfo := do
  let n ← w.findNpc nid
  pure ⟨nid, n.typeId, n.coord, n.hero⟩

/-- A variable of an npc; one that was never set is zero. -/
def varn (w : World) (nid var : Int32) : Except Fault Int32 := do
  pure (((← w.findNpc nid).varns.get? var).getD 0)

def npcStat (w : World) (nid stat : Int32) : Except Fault StatLevel := do
  pure (((← w.findNpc nid).stats.get? stat).getD ⟨0, 0⟩)

/-! ## Effects that only leave an event -/

/-- Records an event of a player who has to be there. -/
def playerEvent (w : World) (pid : Int32) (e : WorldEvent) : Except Fault World := do
  let _ ← w.findPlayer pid
  pure (w.record e)

/-- Records an event of an npc that has to be there. -/
def npcEvent (w : World) (nid : Int32) (e : WorldEvent) : Except Fault World := do
  let _ ← w.findNpc nid
  pure (w.record e)

def message (w : World) (pid : Int32) (text : String) : Except Fault World :=
  w.playerEvent pid (.message pid text)

def playerAnim (w : World) (pid seq delay : Int32) : Except Fault World :=
  w.playerEvent pid (.playerAnim pid seq delay)

def playerSay (w : World) (pid : Int32) (text : String) : Except Fault World :=
  w.playerEvent pid (.playerSay pid text)

def queuePlayerScript (w : World) (pid script delay : Int32) : Except Fault World :=
  w.playerEvent pid (.playerQueue pid script delay)

def npcAnim (w : World) (nid seq delay : Int32) : Except Fault World :=
  w.npcEvent nid (.npcAnim nid seq delay)

def npcSay (w : World) (nid : Int32) (text : String) : Except Fault World :=
  w.npcEvent nid (.npcSay nid text)

def npcSpotanim (w : World) (nid spotanim height delay : Int32) : Except Fault World :=
  w.npcEvent nid (.npcSpotanim nid spotanim height delay)

def queueNpcScript (w : World) (nid script delay : Int32) : Except Fault World :=
  w.npcEvent nid (.npcQueue nid script delay)

/-! ## Effects on players -/

/-- Changes a player who has to be there. -/
def updatePlayer (w : World) (pid : Int32) (f : Player → Except Fault Player) :
    Except Fault World := do
  let p ← f (← w.findPlayer pid)
  pure { w with players := w.players.insert pid p }

def setVarp (w : World) (pid var value : Int32) : Except Fault World :=
  w.updatePlayer pid fun p => pure { p with varps := p.varps.insert var value }

/-- Adds to the experience of a skill, up to the greatest int. -/
def giveXp (w : World) (pid stat xp : Int32) : Except Fault World := do
  let w ← w.updatePlayer pid fun p =>
    let total := Arithmetic.saturatingAdd ((p.experience.get? stat).getD 0) xp
    pure { p with experience := p.experience.insert stat total }
  pure (w.record (.xp pid stat xp))

def teleport (w : World) (pid : Int32) (coord : Coord) : Except Fault World := do
  let w ← w.updatePlayer pid fun p => pure { p with coord }
  pure (w.record (.teleport pid coord))

/-- Replaces the slots of an inventory. -/
def setItemSlots (w : World) (pid inv : Int32) (slots : ItemSlots) : Except Fault World :=
  w.updatePlayer pid fun p => do
    let i ← findInventory p pid inv
    pure { p with invs := p.invs.insert inv (i.withSlots slots) }

/-! ## Effects on npcs -/

/-- Changes an npc that has to be there. -/
def updateNpc (w : World) (nid : Int32) (f : Npc → Npc) : Except Fault World := do
  let n ← w.findNpc nid
  pure { w with npcs := w.npcs.insert nid (f n) }

def setVarn (w : World) (nid var value : Int32) : Except Fault World :=
  w.updateNpc nid fun n => { n with varns := n.varns.insert var value }

/-- The stat that damage lowers. -/
def hitpoints : Int32 := 3

/-- Damage to an npc: its hitpoints sink, though not below zero, and a player who caused it becomes the
    hero. -/
def damaged (n : Npc) (amount : Int32) (source : Option Int32) : Npc :=
  { n with
    stats := match n.stats.get? hitpoints with
      | some s => n.stats.insert hitpoints { s with level := max (s.level - amount) 0 }
      | none => n.stats
    hero := source.getD n.hero }

def npcDamage (w : World) (nid damageType amount : Int32) (source : Option Int32) :
    Except Fault World := do
  let w ← w.updateNpc nid fun n => damaged n amount source
  pure (w.record (.npcDamage nid damageType amount source))

def npcSetTimer (w : World) (nid interval : Int32) : Except Fault World := do
  let w ← w.updateNpc nid fun n => { n with timer := some interval }
  pure (w.record (.npcTimer nid interval))

def npcRemove (w : World) (nid : Int32) : Except Fault World := do
  let _ ← w.findNpc nid
  pure ({ w with npcs := w.npcs.erase nid }.record (.npcRemoved nid))

/-! ## Effects on locs and objs -/

def addLoc (w : World) (loc : Loc) (duration : Int32) : World :=
  { w with locs := w.locs ++ [loc] }.record (.locAdded loc duration)

/-- Removes the first loc that is equal in everything. -/
def removeLoc (w : World) (loc : Loc) (duration : Int32) : Except Fault World :=
  if loc ∈ w.locs then
    .ok ({ w with locs := w.locs.erase loc }.record (.locRemoved loc duration))
  else .error (.noLoc loc.typeId loc.coord)

def addObj (w : World) (obj : Obj) (receiver : Option Int32) (duration : Int32) : World :=
  { w with objs := w.objs ++ [obj] }.record (.objAdded obj receiver duration)

/-- Removes the first obj that is equal in everything. -/
def removeObj (w : World) (obj : Obj) (duration : Int32) : Except Fault World :=
  if obj ∈ w.objs then
    .ok ({ w with objs := w.objs.erase obj }.record (.objRemoved obj duration))
  else .error (.noObj obj.typeId obj.coord)

/-! ## Chance -/

/-- A random number below the bound, and the world after it. -/
def random (w : World) (bound : Int32) : Int32 × World :=
  let (value, rng) := w.rng.below bound
  (value, { w with rng })

end World

end TickScript
