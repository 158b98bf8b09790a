import TickScript.Fault

/-
  Why a pack cannot be loaded, or a session cannot go on.
-/

namespace TickScript

/-- What is wrong with a pack or with a request to a session. -/
inductive SessionError where
  /-- The file of that path is no script. -/
  | scriptInvalid (path : String)
  | configInvalid (path : String)
  | worldInvalid (path : String)
  | noScripts
  | entryNotFound (entry : String)
  | snapshotSchema (found : String)
  /-- Nothing is awaited, or something of another kind. -/
  | notWaiting (execution : Execution)
  | lastIntMissing
  /-- The script still waits after so many timed waits. -/
  | waitLimit (waits : Nat)
  | fault (f : Fault)
  deriving DecidableEq

namespace SessionError

/-- The code by which programs tell errors apart. -/
def code : SessionError → String
  | scriptInvalid _ => "PACK_SCRIPT_INVALID"
  | configInvalid _ => "PACK_CONFIG_INVALID"
  | worldInvalid _ => "PACK_WORLD_INVALID"
  | noScripts => "PACK_EMPTY"
  | entryNotFound _ => "PACK_ENTRY_NOT_FOUND"
  | snapshotSchema _ => "SESSION_SNAPSHOT_SCHEMA"
  | notWaiting _ => "SESSION_NOT_WAITING"
  | lastIntMissing => "SESSION_LAST_INT_MISSING"
  | waitLimit _ => "SESSION_WAIT_LIMIT"
  | fault f => f.kind.code

def message : SessionError → String
  | scriptInvalid path => "Failed to parse script " ++ path ++ "."
  | configInvalid path => "Failed to parse config " ++ path ++ "."
  | worldInvalid path => "Failed to parse world " ++ path ++ "."
  | noScripts => "Pack contains no *.script.json files."
  | entryNotFound entry => "Entry script \"" ++ entry ++ "\" is not in the pack."
  | snapshotSchema found => "Unsupported session snapshot schema \"" ++ found ++ "\"."
  | notWaiting execution => "Session is " ++ execution.name ++ "; there is nothing to continue."
  | lastIntMissing => "A count dialog needs a value to continue."
  | waitLimit waits => "Still waiting after " ++ toString waits ++ " timed waits."
  | fault f => f.message

end SessionError

end TickScript
