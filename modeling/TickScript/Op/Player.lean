import TickScript.Op

/-
  Instructions about the player of the selected slot.

  Operands are taken before permission is checked.  What changes the player, or makes the player wait,
  needs protected access.
-/

namespace TickScript.Op.Player

def mes : Handler := do
  let text ← popString
  let player ← requirePlayer
  effect (·.message player.pid text)

/-! ## Waiting -/

def pDelay : Handler := do
  let ticks ← popInt
  let _ ← requireProtectedPlayer
  suspendFor .suspended ticks

def pPausebutton : Handler := do
  let _ ← requireProtectedPlayer
  suspend .pauseButton none

def pCountdialog : Handler := do
  let _ ← requireProtectedPlayer
  suspend .countDown none

/-- The answer to the last count dialog. -/
def lastInt : Handler := do pushInt (← ask (·.lastInt))

/-! ## Asking -/

def coord : Handler := do
  let player ← requirePlayer
  pushInt (← observe (·.playerInfo player.pid)).coord.toScriptInt

def displayname : Handler := do
  let player ← requirePlayer
  pushString (← observe (·.playerInfo player.pid)).displayName

def uid : Handler := do pushInt (← requirePlayer).pid

def stat : Handler := do
  let stat ← popInt
  let player ← requirePlayer
  pushInt (← observe (·.stat player.pid stat)).level

def statBase : Handler := do
  let stat ← popInt
  let player ← requirePlayer
  pushInt (← observe (·.stat player.pid stat)).base

/-! ## Acting -/

def pTelejump : Handler := do
  let coord ← popCoord
  let player ← requireProtectedPlayer
  effect (·.teleport player.pid coord)

def givexp : Handler := do
  let (stat, xp) ← popInt2
  let player ← requireProtectedPlayer
  effect (·.giveXp player.pid stat xp)

def anim : Handler := do
  let (seq, delay) ← popInt2
  let player ← requirePlayer
  effect (·.playerAnim player.pid seq delay)

def say : Handler := do
  let text ← popString
  let player ← requirePlayer
  effect (·.playerSay player.pid text)

/-- Puts a script off for the player. -/
def queue : Handler := do
  let (script, delay) ← popInt2
  let player ← requirePlayer
  let target ← fromLibrary (·.require script)
  effect (·.queuePlayerScript player.pid target.id delay)

def table : List (Opcode × Handler) := [
  (.mes, mes),
  (.pDelay, pDelay),
  (.pPausebutton, pPausebutton),
  (.pCountdialog, pCountdialog),
  (.lastInt, lastInt),
  (.coord, coord),
  (.displayname, displayname),
  (.uid, uid),
  (.pTelejump, pTelejump),
  (.stat, stat),
  (.statBase, statBase),
  (.givexp, givexp),
  (.anim, anim),
  (.say, say),
  (.queue, queue),
  (.weakqueue, unimplemented),
  (.allowdesign, unimplemented)]

end TickScript.Op.Player
