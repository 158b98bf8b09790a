/-
  The instructions of compiled scripts.

  Each has a number, by which scripts contain it, and a name for messages.  The numbers come in groups
  with gaps between them.
-/

namespace TickScript

/-- An instruction. -/
inductive Opcode where
  -- Constants, variables, branches, calls and locals
  | pushConstantInt | pushVarp | popVarp | pushConstantString | pushVarn | popVarn | branch
  | branchNot | branchEquals | branchLessThan | branchGreaterThan | leave | gosub | jump | switch
  | branchLessThanOrEquals | branchGreaterThanOrEquals | pushIntLocal | popIntLocal
  | pushStringLocal | popStringLocal | joinString | popIntDiscard | popStringDiscard
  | gosubWithParams | jumpWithParams
  -- The clock, the map and waiting with the world
  | mapClock | mapMembers | mapPlayercount | coordx | coordy | coordz | movecoord | distance
  | worldDelay | inzone | mapFindsquare | lineofwalk | projanimPl
  -- The active player
  | mes | pDelay | pPausebutton | pCountdialog | lastInt | coord | displayname | uid | pTelejump
  | stat | statBase | givexp | anim | say | queue | weakqueue | allowdesign
  -- The active npc
  | npcFinduid | npcAdd | npcAnim | npcBasestat | npcCategory | npcCoord | npcDel | npcDelay
  | npcFacesquare | npcFindexact | npcFindhero | npcParam | npcQueue | npcRange | npcSay
  | npcSethunt | npcSethuntmode | npcSetmode | npcStat | npcStatheal | npcType | npcDamage
  | npcName | npcUid | npcSettimer | spotanimNpc
  -- The active loc
  | locAdd | locAngle | locAnim | locCategory | locChange | locCoord | locDel | locFindallzone
  | locFindnext | locParam | locType | locName | locShape
  -- The active obj
  | objAdd | objAddall | objCoord | objCount | objDel | objName | objParam | objType
  | objTakeitem
  -- Types of npcs
  | ncCategory | ncDebugname | ncDesc | ncName | ncParam
  -- Types of locs
  | lcCategory | lcDebugname | lcDesc | lcName | lcParam
  -- Types of objs
  | ocCategory | ocCost | ocDebugname | ocDesc | ocMembers | ocName | ocParam | ocStackable
  | ocWeight
  -- Inventories
  | invAdd | invClear | invDel | invFreespace | invSize | invTotal
  -- Enums
  | enum | enumGetoutputcount
  -- Texts
  | append | appendChar | appendNum | appendSignnum | compare | lowercase | stringIndexofChar
  | stringIndexofString | stringLength | substring | tostring
  -- Numbers
  | add | sub | multiply | divide | modulo | random | randominc | interpolate | addpercent
  | setbit | clearbit | testbit | togglebit | pow | invpow | and | or | min | max | scale
  | bitcount | abs
  -- The database
  | dbFind | dbFindnext | dbGetfield | dbGetfieldcount | dbListall | dbFindWithCount
  -- Raising a fault, and asking what is bound
  | error | activeNpc | activePlayer | activeLoc | activeObj
  deriving DecidableEq

namespace Opcode

/-- All instructions in the order of their numbers. -/
def all : List Opcode :=
  [
   .pushConstantInt, .pushVarp, .popVarp, .pushConstantString, .pushVarn, .popVarn, .branch,
   .branchNot, .branchEquals, .branchLessThan, .branchGreaterThan, .leave, .gosub, .jump,
   .switch, .branchLessThanOrEquals, .branchGreaterThanOrEquals, .pushIntLocal, .popIntLocal,
   .pushStringLocal, .popStringLocal, .joinString, .popIntDiscard, .popStringDiscard,
   .gosubWithParams, .jumpWithParams,
   .mapClock, .mapMembers, .mapPlayercount, .coordx, .coordy, .coordz, .movecoord, .distance,
   .worldDelay, .inzone, .mapFindsquare, .lineofwalk, .projanimPl,
   .mes, .pDelay, .pPausebutton, .pCountdialog, .lastInt, .coord, .displayname, .uid, .pTelejump,
   .stat, .statBase, .givexp, .anim, .say, .queue, .weakqueue, .allowdesign,
   .npcFinduid, .npcAdd, .npcAnim, .npcBasestat, .npcCategory, .npcCoord, .npcDel, .npcDelay,
   .npcFacesquare, .npcFindexact, .npcFindhero, .npcParam, .npcQueue, .npcRange, .npcSay,
   .npcSethunt, .npcSethuntmode, .npcSetmode, .npcStat, .npcStatheal, .npcType, .npcDamage,
   .npcName, .npcUid, .npcSettimer, .spotanimNpc,
   .locAdd, .locAngle, .locAnim, .locCategory, .locChange, .locCoord, .locDel, .locFindallzone,
   .locFindnext, .locParam, .locType, .locName, .locShape,
   .objAdd, .objAddall, .objCoord, .objCount, .objDel, .objName, .objParam, .objType,
   .objTakeitem,
   .ncCategory, .ncDebugname, .ncDesc, .ncName, .ncParam,
   .lcCategory, .lcDebugname, .lcDesc, .lcName, .lcParam,
   .ocCategory, .ocCost, .ocDebugname, .ocDesc, .ocMembers, .ocName, .ocParam, .ocStackable,
   .ocWeight,
   .invAdd, .invClear, .invDel, .invFreespace, .invSize, .invTotal,
   .enum, .enumGetoutputcount,
   .append, .appendChar, .appendNum, .appendSignnum, .compare, .lowercase, .stringIndexofChar,
   .stringIndexofString, .stringLength, .substring, .tostring,
   .add, .sub, .multiply, .divide, .modulo, .random, .randominc, .interpolate, .addpercent,
   .setbit, .clearbit, .testbit, .togglebit, .pow, .invpow, .and, .or, .min, .max, .scale,
   .bitcount, .abs,
   .dbFind, .dbFindnext, .dbGetfield, .dbGetfieldcount, .dbListall, .dbFindWithCount,
   .error, .activeNpc, .activePlayer, .activeLoc, .activeObj]

/-- The number and the name. -/
def entry : Opcode → Nat × String
  | .pushConstantInt => (0, "PUSH_CONSTANT_INT")
  | .pushVarp => (1, "PUSH_VARP")
  | .popVarp => (2, "POP_VARP")
  | .pushConstantString => (3, "PUSH_CONSTANT_STRING")
  | .pushVarn => (4, "PUSH_VARN")
  | .popVarn => (5, "POP_VARN")
  | .branch => (6, "BRANCH")
  | .branchNot => (7, "BRANCH_NOT")
  | .branchEquals => (8, "BRANCH_EQUALS")
  | .branchLessThan => (9, "BRANCH_LESS_THAN")
  | .branchGreaterThan => (10, "BRANCH_GREATER_THAN")
  | .leave => (21, "RETURN")
  | .gosub => (22, "GOSUB")
  | .jump => (23, "JUMP")
  | .switch => (24, "SWITCH")
  | .branchLessThanOrEquals => (31, "BRANCH_LESS_THAN_OR_EQUALS")
  | .branchGreaterThanOrEquals => (32, "BRANCH_GREATER_THAN_OR_EQUALS")
  | .pushIntLocal => (33, "PUSH_INT_LOCAL")
  | .popIntLocal => (34, "POP_INT_LOCAL")
  | .pushStringLocal => (35, "PUSH_STRING_LOCAL")
  | .popStringLocal => (36, "POP_STRING_LOCAL")
  | .joinString => (37, "JOIN_STRING")
  | .popIntDiscard => (38, "POP_INT_DISCARD")
  | .popStringDiscard => (39, "POP_STRING_DISCARD")
  | .gosubWithParams => (40, "GOSUB_WITH_PARAMS")
  | .jumpWithParams => (41, "JUMP_WITH_PARAMS")
  | .mapClock => (1000, "MAP_CLOCK")
  | .mapMembers => (1001, "MAP_MEMBERS")
  | .mapPlayercount => (1002, "MAP_PLAYERCOUNT")
  | .coordx => (1003, "COORDX")
  | .coordy => (1004, "COORDY")
  | .coordz => (1005, "COORDZ")
  | .movecoord => (1006, "MOVECOORD")
  | .distance => (1007, "DISTANCE")
  | .worldDelay => (1008, "WORLD_DELAY")
  | .inzone => (1009, "INZONE")
  | .mapFindsquare => (1010, "MAP_FINDSQUARE")
  | .lineofwalk => (1011, "LINEOFWALK")
  | .projanimPl => (1012, "PROJANIM_PL")
  | .mes => (2000, "MES")
  | .pDelay => (2001, "P_DELAY")
  | .pPausebutton => (2002, "P_PAUSEBUTTON")
  | .pCountdialog => (2003, "P_COUNTDIALOG")
  | .lastInt => (2004, "LAST_INT")
  | .coord => (2005, "COORD")
  | .displayname => (2006, "DISPLAYNAME")
  | .uid => (2007, "UID")
  | .pTelejump => (2008, "P_TELEJUMP")
  | .stat => (2009, "STAT")
  | .statBase => (2010, "STAT_BASE")
  | .givexp => (2011, "GIVEXP")
  | .anim => (2012, "ANIM")
  | .say => (2013, "SAY")
  | .queue => (2014, "QUEUE")
  | .weakqueue => (2015, "WEAKQUEUE")
  | .allowdesign => (2016, "ALLOWDESIGN")
  | .npcFinduid => (2500, "NPC_FINDUID")
  | .npcAdd => (2501, "NPC_ADD")
  | .npcAnim => (2502, "NPC_ANIM")
  | .npcBasestat => (2503, "NPC_BASESTAT")
  | .npcCategory => (2504, "NPC_CATEGORY")
  | .npcCoord => (2505, "NPC_COORD")
  | .npcDel => (2506, "NPC_DEL")
  | .npcDelay => (2507, "NPC_DELAY")
  | .npcFacesquare => (2508, "NPC_FACESQUARE")
  | .npcFindexact => (2509, "NPC_FINDEXACT")
  | .npcFindhero => (2510, "NPC_FINDHERO")
  | .npcParam => (2511, "NPC_PARAM")
  | .npcQueue => (2512, "NPC_QUEUE")
  | .npcRange => (2513, "NPC_RANGE")
  | .npcSay => (2514, "NPC_SAY")
  | .npcSethunt => (2515, "NPC_SETHUNT")
  | .npcSethuntmode => (2516, "NPC_SETHUNTMODE")
  | .npcSetmode => (2517, "NPC_SETMODE")
  | .npcStat => (2518, "NPC_STAT")
  | .npcStatheal => (2519, "NPC_STATHEAL")
  | .npcType => (2520, "NPC_TYPE")
  | .npcDamage => (2521, "NPC_DAMAGE")
  | .npcName => (2522, "NPC_NAME")
  | .npcUid => (2523, "NPC_UID")
  | .npcSettimer => (2524, "NPC_SETTIMER")
  | .spotanimNpc => (2525, "SPOTANIM_NPC")
  | .locAdd => (3000, "LOC_ADD")
  | .locAngle => (3001, "LOC_ANGLE")
  | .locAnim => (3002, "LOC_ANIM")
  | .locCategory => (3003, "LOC_CATEGORY")
  | .locChange => (3004, "LOC_CHANGE")
  | .locCoord => (3005, "LOC_COORD")
  | .locDel => (3006, "LOC_DEL")
  | .locFindallzone => (3007, "LOC_FINDALLZONE")
  | .locFindnext => (3008, "LOC_FINDNEXT")
  | .locParam => (3009, "LOC_PARAM")
  | .locType => (3010, "LOC_TYPE")
  | .locName => (3011, "LOC_NAME")
  | .locShape => (3012, "LOC_SHAPE")
  | .objAdd => (3500, "OBJ_ADD")
  | .objAddall => (3501, "OBJ_ADDALL")
  | .objCoord => (3502, "OBJ_COORD")
  | .objCount => (3503, "OBJ_COUNT")
  | .objDel => (3504, "OBJ_DEL")
  | .objName => (3505, "OBJ_NAME")
  | .objParam => (3506, "OBJ_PARAM")
  | .objType => (3507, "OBJ_TYPE")
  | .objTakeitem => (3508, "OBJ_TAKEITEM")
  | .ncCategory => (4000, "NC_CATEGORY")
  | .ncDebugname => (4001, "NC_DEBUGNAME")
  | .ncDesc => (4002, "NC_DESC")
  | .ncName => (4003, "NC_NAME")
  | .ncParam => (4004, "NC_PARAM")
  | .lcCategory => (4100, "LC_CATEGORY")
  | .lcDebugname => (4101, "LC_DEBUGNAME")
  | .lcDesc => (4102, "LC_DESC")
  | .lcName => (4103, "LC_NAME")
  | .lcParam => (4104, "LC_PARAM")
  | .ocCategory => (4200, "OC_CATEGORY")
  | .ocCost => (4201, "OC_COST")
  | .ocDebugname => (4202, "OC_DEBUGNAME")
  | .ocDesc => (4203, "OC_DESC")
  | .ocMembers => (4204, "OC_MEMBERS")
  | .ocName => (4205, "OC_NAME")
  | .ocParam => (4206, "OC_PARAM")
  | .ocStackable => (4207, "OC_STACKABLE")
  | .ocWeight => (4208, "OC_WEIGHT")
  | .invAdd => (4300, "INV_ADD")
  | .invClear => (4301, "INV_CLEAR")
  | .invDel => (4302, "INV_DEL")
  | .invFreespace => (4303, "INV_FREESPACE")
  | .invSize => (4304, "INV_SIZE")
  | .invTotal => (4305, "INV_TOTAL")
  | .enum => (4400, "ENUM")
  | .enumGetoutputcount => (4401, "ENUM_GETOUTPUTCOUNT")
  | .append => (4500, "APPEND")
  | .appendChar => (4501, "APPEND_CHAR")
  | .appendNum => (4502, "APPEND_NUM")
  | .appendSignnum => (4503, "APPEND_SIGNNUM")
  | .compare => (4504, "COMPARE")
  | .lowercase => (4505, "LOWERCASE")
  | .stringIndexofChar => (4506, "STRING_INDEXOF_CHAR")
  | .stringIndexofString => (4507, "STRING_INDEXOF_STRING")
  | .stringLength => (4508, "STRING_LENGTH")
  | .substring => (4509, "SUBSTRING")
  | .tostring => (4510, "TOSTRING")
  | .add => (4600, "ADD")
  | .sub => (4601, "SUB")
  | .multiply => (4602, "MULTIPLY")
  | .divide => (4603, "DIVIDE")
  | .modulo => (4604, "MODULO")
  | .random => (4605, "RANDOM")
  | .randominc => (4606, "RANDOMINC")
  | .interpolate => (4607, "INTERPOLATE")
  | .addpercent => (4608, "ADDPERCENT")
  | .setbit => (4609, "SETBIT")
  | .clearbit => (4610, "CLEARBIT")
  | .testbit => (4611, "TESTBIT")
  | .togglebit => (4612, "TOGGLEBIT")
  | .pow => (4613, "POW")
  | .invpow => (4614, "INVPOW")
  | .and => (4615, "AND")
  | .or => (4616, "OR")
  | .min => (4617, "MIN")
  | .max => (4618, "MAX")
  | .scale => (4619, "SCALE")
  | .bitcount => (4620, "BITCOUNT")
  | .abs => (4621, "ABS")
  | .dbFind => (7500, "DB_FIND")
  | .dbFindnext => (7501, "DB_FINDNEXT")
  | .dbGetfield => (7502, "DB_GETFIELD")
  | .dbGetfieldcount => (7503, "DB_GETFIELDCOUNT")
  | .dbListall => (7504, "DB_LISTALL")
  | .dbFindWithCount => (7505, "DB_FIND_WITH_COUNT")
  | .error => (10000, "ERROR")
  | .activeNpc => (10001, "ACTIVE_NPC")
  | .activePlayer => (10002, "ACTIVE_PLAYER")
  | .activeLoc => (10003, "ACTIVE_LOC")
  | .activeObj => (10004, "ACTIVE_OBJ")

/-- The number. -/
def number (o : Opcode) : Nat := o.entry.1

/-- The number as scripts contain it. -/
def id (o : Opcode) : Int32 := Int32.ofNat o.number

def name (o : Opcode) : String := o.entry.2

/-- The instruction of that number. -/
def ofId? (id : Int32) : Option Opcode := all.find? (·.id = id)

end Opcode

end TickScript
