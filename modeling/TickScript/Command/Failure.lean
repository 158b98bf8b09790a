import TickScript.SessionError

/-
  Why a command fails, with the code by which programs tell the failures apart.
-/

namespace TickScript.Command

/-- Why a command fails. -/
inductive Failure where
  | packMissing (path : String)
  | packNotDirectory (path : String)
  | packWithoutDocuments (path : String)
  /-- A document of the pack is not a text. -/
  | packUnreadable (path : String)
  /-- A saved session names a pack in a way that is not known. -/
  | unknownPackRef (ref : String)
  | stateMissing (path : String)
  | stateUnreadable (path : String)
  | stateInvalid (path : String)
  | stateSchema (found : String)
  | stateUnwritable (path : String)
  | session (e : SessionError)
  deriving DecidableEq

namespace Failure

def code : Failure → String
  | packMissing _ => "CLI_SOURCE_NOT_FOUND"
  | packNotDirectory _ => "CLI_SOURCE_NOT_DIR"
  | packWithoutDocuments _ => "CLI_SOURCE_EMPTY"
  | packUnreadable _ => "CLI_SOURCE_READ"
  | unknownPackRef _ => "CLI_SOURCE_REF_INVALID"
  | stateMissing _ => "CLI_STATE_NOT_FOUND"
  | stateUnreadable _ => "CLI_STATE_READ"
  | stateInvalid _ => "CLI_STATE_INVALID"
  | stateSchema _ => "CLI_STATE_SCHEMA"
  | stateUnwritable _ => "CLI_STATE_WRITE"
  | session e => e.code

def message : Failure → String
  | packMissing path => "pack-dir does not exist: " ++ path
  | packNotDirectory path => "pack-dir is not a directory: " ++ path
  | packWithoutDocuments path => "No .json files under " ++ path
  | packUnreadable path => "Failed to read " ++ path
  | unknownPackRef ref => "Unsupported pack ref: " ++ ref
  | stateMissing path => "State file does not exist: " ++ path
  | stateUnreadable path => "Failed to read state file " ++ path
  | stateInvalid path => "Failed to parse state file " ++ path
  | stateSchema found => "Unsupported session state schema: " ++ found
  | stateUnwritable path => "Failed to write state file " ++ path
  | session e => e.message

/-- What a failed command prints. -/
def lines (f : Failure) : List String :=
  ["RESULT:ERROR", "ERROR_CODE:" ++ f.code, "ERROR_MSG_JSON:" ++ (Json.str f.message).compact]

end Failure

end TickScript.Command
