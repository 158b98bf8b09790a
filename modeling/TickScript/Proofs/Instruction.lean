import TickScript.Op.Standard
import TickScript.Proofs.Faults

/-
  The shape of an instruction: a stretch of QUIET operations, and then at most one effect.

  A statement about all instructions could be proved by unfolding every handler, but nearly all of what a
  handler does is the same everywhere: take operands, look something up, check a permission, push an
  answer.  Two predicates on operations say this once:

  * `Quiet op`: `op` is put together from operations that touch nothing but the two operand stacks and
    the log.  It may read the position, the locals, the search under way, the world, the library and the
    config, and ask for a bound entity, but never sees the counter of instructions, the state of the
    invocation, its history or the events of the world.  Where it fails by itself, it fails with an
    ordinary fault.
  * `Instruction o mayChange h`: `h`, the handler of `o`, is quiet up to one effect.  Calls, jumps and
    returns are shapes of their own.  `mayChange` holds of the players whom the handler has been allowed
    to change by the time it is reached: asking for a player with protected access extends it, and a
    change of a player or a wait with a player draws on it.

  Both are inductive, so a property that the few leaves have and that sequencing keeps is a property of
  all instructions; `TickScript.Proofs.Instruction.Standard` shows that every entry of the standard
  tables is an `Instruction`.
-/

namespace TickScript

/-! ## Changes of the world -/

/-- A change of the world that a handler asks for, with its operands. -/
inductive WorldCall where
  | message (pid : Int32) (text : String)
  | playerAnim (pid seq delay : Int32)
  | playerSay (pid : Int32) (text : String)
  | queuePlayerScript (pid script delay : Int32)
  | setVarp (pid var value : Int32)
  | giveXp (pid stat xp : Int32)
  | teleport (pid : Int32) (coord : Coord)
  | setItemSlots (pid inv : Int32) (slots : ItemSlots)
  | setVarn (nid var value : Int32)
  | npcAnim (nid seq delay : Int32)
  | npcSay (nid : Int32) (text : String)
  | npcSpotanim (nid spotanim height delay : Int32)
  | queueNpcScript (nid script delay : Int32)
  | npcDamage (nid damageType amount : Int32) (source : Option Int32)
  | npcSetTimer (nid interval : Int32)
  | npcRemove (nid : Int32)
  | addLoc (loc : Loc) (duration : Int32)
  | removeLoc (loc : Loc) (duration : Int32)
  | addObj (obj : Obj) (receiver : Option Int32) (duration : Int32)
  | removeObj (obj : Obj) (duration : Int32)

namespace WorldCall

/-- The world after the change, if it can be made. -/
def perform : WorldCall → World → Except Fault World
  | message pid text, w => w.message pid text
  | playerAnim pid seq delay, w => w.playerAnim pid seq delay
  | playerSay pid text, w => w.playerSay pid text
  | queuePlayerScript pid script delay, w => w.queuePlayerScript pid script delay
  | setVarp pid var value, w => w.setVarp pid var value
  | giveXp pid stat xp, w => w.giveXp pid stat xp
  | teleport pid coord, w => w.teleport pid coord
  | setItemSlots pid inv slots, w => w.setItemSlots pid inv slots
  | setVarn nid var value, w => w.setVarn nid var value
  | npcAnim nid seq delay, w => w.npcAnim nid seq delay
  | npcSay nid text, w => w.npcSay nid text
  | npcSpotanim nid spotanim height delay, w => w.npcSpotanim nid spotanim height delay
  | queueNpcScript nid script delay, w => w.queueNpcScript nid script delay
  | npcDamage nid damageType amount source, w => w.npcDamage nid damageType amount source
  | npcSetTimer nid interval, w => w.npcSetTimer nid interval
  | npcRemove nid, w => w.npcRemove nid
  | addLoc loc duration, w => .ok (w.addLoc loc duration)
  | removeLoc loc duration, w => w.removeLoc loc duration
  | addObj obj receiver duration, w => .ok (w.addObj obj receiver duration)
  | removeObj obj duration, w => w.removeObj obj duration

/-- The instructions that ask for the change. -/
def instructions : WorldCall → List Opcode
  | message .. => [.mes]
  | playerAnim .. => [.anim]
  | playerSay .. => [.say]
  | queuePlayerScript .. => [.queue]
  | setVarp .. => [.popVarp]
  | giveXp .. => [.givexp]
  | teleport .. => [.pTelejump]
  | setItemSlots .. => [.invAdd, .invClear, .invDel]
  | setVarn .. => [.popVarn]
  | npcAnim .. => [.npcAnim]
  | npcSay .. => [.npcSay]
  | npcSpotanim .. => [.spotanimNpc]
  | queueNpcScript .. => [.npcQueue]
  | npcDamage .. => [.npcDamage]
  | npcSetTimer .. => [.npcSettimer]
  | npcRemove .. => [.npcDel]
  | addLoc .. => [.locAdd]
  | removeLoc .. => [.locDel]
  | addObj .. => [.objAdd]
  | removeObj .. => [.objDel]

/-- The player whose own data the change writes.  Messages, animations and queued scripts only leave an
    event. -/
def changedPlayer? : WorldCall → Option Int32
  | setVarp pid .. | giveXp pid .. | teleport pid .. | setItemSlots pid .. => some pid
  | _ => none

theorem perform_ordinary (call : WorldCall) (w : World) : Ordinary (call.perform w) := by
  cases call with
  | message | playerAnim | playerSay | queuePlayerScript => exact w.playerEvent_ordinary _ _
  | npcAnim | npcSay | npcSpotanim | queueNpcScript => exact w.npcEvent_ordinary _ _
  | setVarp pid => exact w.updatePlayer_ordinary pid fun _ => .ok _
  | giveXp pid | teleport pid => exact .bind (w.updatePlayer_ordinary pid fun _ => .ok _) fun _ => .ok _
  | setItemSlots pid inv slots => exact w.setItemSlots_ordinary pid inv slots
  | setVarn nid => exact w.updateNpc_ordinary nid _
  | npcDamage nid | npcSetTimer nid => exact .bind (w.updateNpc_ordinary nid _) fun _ => .ok _
  | npcRemove nid => exact .bind (w.findNpc_ordinary nid) fun _ => .ok _
  | addLoc | addObj => exact .ok _
  | removeLoc loc duration => exact w.removeLoc_ordinary loc duration
  | removeObj obj duration => exact w.removeObj_ordinary obj duration

end WorldCall

/-- The instructions that stop to wait. -/
def Opcode.waiting : List Opcode := [.pDelay, .pPausebutton, .pCountdialog, .npcDelay, .worldDelay]

/-- Whether a wait of this kind is one that holds up a player. -/
def Execution.isPlayerWait : Execution → Bool
  | suspended | pauseButton | countDown => true
  | _ => false

/-- What a quiet operation can read of an invocation without asking for an entity. -/
def Invocation.view (i : Invocation) :
    Script × Int32 × List Int32 × List String × Int32 × DbQuery :=
  (i.script, i.pc, i.intLocals, i.stringLocals, i.lastInt, i.query)

/-- What the invocation is bound to. -/
def Invocation.bindings (i : Invocation) :
    Slots PlayerRef × Slots NpcRef × Slots Loc × Slots Obj :=
  (i.players, i.npcs, i.locs, i.objs)

namespace Op

/-! ## Quiet operations -/

/-- `Quiet op`: `op` is put together from operations that change at most the stacks and the log. -/
inductive Quiet : {α : Type} → Op α → Prop where
  | pure {α : Type} (a : α) : Quiet (pure a : Op α)
  | bind {α β : Type} {x : Op α} {k : α → Op β} :
      Quiet x → (∀ a, Quiet (k a)) → Quiet (x >>= k)
  | fail {α : Type} {f : Fault} : f.kind.isOrdinary → Quiet (fail f : Op α)
  | ask {α : Type} {f : Invocation → α} (h : ∀ i j, i.view = j.view → f i = f j) : Quiet (ask f)
  | player (slot : Slot) : Quiet (requirePlayerAt slot)
  | protectedPlayer (slot : Slot) : Quiet (requireProtectedPlayerAt slot)
  | npc (slot : Slot) : Quiet (requireNpcAt slot)
  | loc (slot : Slot) : Quiet (require (.loc slot) fun i => i.locs.get slot)
  | obj (slot : Slot) : Quiet (require (.obj slot) fun i => i.objs.get slot)
  | observe {α : Type} {f : World → Except Fault α} : (∀ w, Ordinary (f w)) →
      (∀ w events, f { w with events } = f w) → Quiet (observe f)
  | fromLibrary {α : Type} {f : Library → Except Fault α} :
      (∀ l, Ordinary (f l)) → Quiet (fromLibrary f)
  | fromConfig {α : Type} {f : Config → Except Fault α} :
      (∀ c, Ordinary (f c)) → Quiet (fromConfig f)
  | note (level : LogLevel) (text : String) : Quiet (note level text)
  | popInt : Quiet popInt
  | popInt2 : Quiet popInt2
  | popInt3 : Quiet popInt3
  | popInt4 : Quiet popInt4
  | popInt5 : Quiet popInt5
  | popInts (n : Nat) : Quiet (popInts n)
  | popString : Quiet popString
  | popStrings (n : Nat) : Quiet (popStrings n)
  | pushInt (n : Int32) : Quiet (pushInt n)
  | pushString (t : String) : Quiet (pushString t)

namespace Quiet

variable {α : Type}

theorem orFail {f : Fault} (h : f.kind.isOrdinary) : ∀ a : Option α, Quiet (orFail f a)
  | some a => .pure a
  | none => .fail h

/-- Reading the script and the position in it. -/
theorem current (f : Script → Int32 → α) : Quiet (Op.ask fun i => f i.script i.pc) :=
  .ask fun i j h => by
    obtain ⟨script, pc, -⟩ := Prod.mk.inj h |>.imp_right Prod.mk.inj
    rw [script, pc]

theorem intOperand : Quiet intOperand := current Script.intOperand

theorem selectedSlot : Quiet selectedSlot :=
  current (α := Slot) fun s pc => .ofOperand (s.intOperand pc)

theorem stringOperand : Quiet stringOperand :=
  .bind (current fun s pc => (s.stringOperand? pc, pc)) fun _ => orFail rfl _

theorem unimplemented : Quiet unimplemented :=
  .bind (current fun s pc => (s.opcode? pc).getD (-1)) fun _ => .fail rfl

theorem requirePlayer : Quiet requirePlayer := .bind selectedSlot fun slot => .player slot

theorem requireNpc : Quiet requireNpc := .bind selectedSlot fun slot => .npc slot

theorem requireLoc : Quiet requireLoc := .bind selectedSlot fun slot => .loc slot

theorem requireObj : Quiet requireObj := .bind selectedSlot fun slot => .obj slot

theorem popCoord : Quiet popCoord := .bind .popInt fun _ => .pure _

theorem push (v : Value) : Quiet (push v) := by
  cases v with
  | int n => exact .pushInt n
  | text t => exact .pushString t

theorem pushBool (b : Bool) : Quiet (pushBool b) := .pushInt _

theorem pushName (name : Option String) : Quiet (pushName name) := .pushString _

theorem varp (pid var : Int32) : Quiet (Op.observe (·.varp pid var)) :=
  .observe (fun w => w.varp_ordinary pid var) fun _ _ => rfl

theorem varn (nid var : Int32) : Quiet (Op.observe (·.varn nid var)) :=
  .observe (fun w => w.varn_ordinary nid var) fun _ _ => rfl

theorem stat (pid stat : Int32) : Quiet (Op.observe (·.stat pid stat)) :=
  .observe (fun w => w.stat_ordinary pid stat) fun _ _ => rfl

theorem npcStat (nid stat : Int32) : Quiet (Op.observe (·.npcStat nid stat)) :=
  .observe (fun w => w.npcStat_ordinary nid stat) fun _ _ => rfl

theorem playerInfo (pid : Int32) : Quiet (Op.observe (·.playerInfo pid)) :=
  .observe (fun w => w.playerInfo_ordinary pid) fun _ _ => rfl

theorem npcInfo (nid : Int32) : Quiet (Op.observe (·.npcInfo nid)) :=
  .observe (fun w => w.npcInfo_ordinary nid) fun _ _ => rfl

theorem itemSlots (pid inv : Int32) : Quiet (Op.observe (·.itemSlots pid inv)) :=
  .observe (fun w => w.itemSlots_ordinary pid inv) fun _ _ => rfl

theorem npcType (id : Int32) : Quiet (Op.fromConfig (·.npc id)) :=
  .fromConfig fun _ => Config.entry_ordinary _ _ _

theorem locType (id : Int32) : Quiet (Op.fromConfig (·.loc id)) :=
  .fromConfig fun _ => Config.entry_ordinary _ _ _

theorem objType (id : Int32) : Quiet (Op.fromConfig (·.obj id)) :=
  .fromConfig fun _ => Config.entry_ordinary _ _ _

theorem resolveParam (params : SortedMap Int32 Value) (id : Int32) :
    Quiet (Op.fromConfig (·.resolveParam params id)) :=
  .fromConfig fun c => c.resolveParam_ordinary params id

theorem findColumn (ref : Database.ColumnRef) :
    Quiet (Op.fromConfig (Database.findColumn ref)) :=
  .fromConfig fun c => c.findColumn_ordinary ref

theorem script (id : Int32) : Quiet (Op.fromLibrary (·.require id)) :=
  .fromLibrary fun l => l.require_ordinary id

theorem pushTyped (type : VarType) (value : Value) : Quiet (pushTyped type value) := by
  unfold Op.pushTyped
  split
  · exact push value
  · exact .fail rfl

end Quiet

/-! ## Instructions -/

/-- `Instruction o mayChange h`: the handler `h` of `o` is quiet up to one effect, in a place where the
    players of `mayChange` may be changed. -/
inductive Instruction : Opcode → (Int32 → Prop) → Handler → Prop where
  | quiet {o g h} : Quiet h → Instruction o g h
  | bind {o g} {α : Type} {x : Op α} {k : α → Handler} :
      Quiet x → (∀ a, Instruction o g (k a)) → Instruction o g (x >>= k)
  /-- What follows a check of protected access may change the player who was found. -/
  | withProtected {o g} (slot : Slot) {k : PlayerRef → Handler} :
      (∀ p, Instruction o (fun pid => pid = p.pid ∨ g pid) (k p)) →
      Instruction o g (requireProtectedPlayerAt slot >>= k)
  /-- Damage and dropped objs are credited to a player whom no permission is asked for. -/
  | credited {o g} {k : Option Int32 → Handler} :
      o = .npcDamage ∨ o = .objAdd → (∀ p, Instruction o g (k p)) →
      Instruction o g (creditedPlayer >>= k)
  /-- The tests of what is bound need no permission either. -/
  | isBound {o g} {α : Type} (slots : Invocation → Slots α) :
      (∀ i j, i.bindings = j.bindings → slots i = slots j) →
      o = .activeNpc ∨ o = .activePlayer ∨ o = .activeLoc ∨ o = .activeObj →
      Instruction o g (Inspection.isBound slots)
  | branchBy {o g} (offset : Int32) : Instruction o g (branchBy offset)
  | popIntLocal {g} : Instruction .popIntLocal g Language.popIntLocal
  | popStringLocal {g} : Instruction .popStringLocal g Language.popStringLocal
  | gosub {g} : Instruction .gosub g Language.gosub
  | gosubWithParams {g} : Instruction .gosubWithParams g Language.gosubWithParams
  | jump {g} : Instruction .jump g Language.jump
  | jumpWithParams {g} : Instruction .jumpWithParams g Language.jumpWithParams
  | leave {g} : Instruction .leave g Language.leave
  /-- A wait, with a delay if it is a timed one; one that holds up a player is for players who may be
      changed. -/
  | suspend {o g} (execution : Execution) (delay : Option Int32) :
      execution.isSuspended → delay.isSome = execution.isTimedWait →
      (execution.isPlayerWait → ∃ pid, g pid) → o ∈ Opcode.waiting →
      Instruction o g (suspend execution delay)
  /-- A new search of the database. -/
  | search {o g} (query : DbQuery) :
      o = .dbFind ∨ o = .dbListall → Instruction o g (update fun i => { i with query })
  | dbFindnext {g} : Instruction .dbFindnext g Database.dbFindnext
  | npcFinduid {g} : Instruction .npcFinduid g Npc.npcFinduid
  | random {o g} (bound : Int32) : Instruction o g (Op.random bound >>= pushInt)
  | effect {o g} (call : WorldCall) :
      (∀ pid, call.changedPlayer? = some pid → g pid) → o ∈ call.instructions →
      Instruction o g (effect call.perform)

namespace Instruction

variable {o : Opcode} {g : Int32 → Prop}

/-- As `withProtected`, for the slot that the operand selects. -/
theorem withSelected {k : PlayerRef → Handler}
    (h : ∀ p, Instruction o (fun pid => pid = p.pid ∨ g pid) (k p)) :
    Instruction o g (requireProtectedPlayer >>= k) := by
  rw [Op.requireProtectedPlayer, bind_assoc]
  exact .bind .selectedSlot fun slot => .withProtected slot h

/-- A change that writes no player's own data needs no permission to do so. -/
theorem effectOnOthers (call : WorldCall) (h : call.changedPlayer? = none)
    (ho : o ∈ call.instructions) : Instruction o g (Op.effect call.perform) :=
  .effect call (fun pid e => by rw [h] at e; nomatch e) ho

end Instruction

end Op

end TickScript
