import TickScript.Config
import TickScript.Invocation
import TickScript.Library
import TickScript.World

/-
  Where a script runs: what it can change, and what it can only read.

  A scene is an invocation together with the world that it acts on and a log of remarks for the operator.
  Nothing ever reads the log; it is only handed out.
-/

namespace TickScript

/-- How important a remark is, most important first. -/
inductive LogLevel where
  | error | warn | debug | trace
  deriving DecidableEq

namespace LogLevel

/-- Higher ranks are less important. -/
def rank : LogLevel → Nat
  | error => 0
  | warn => 1
  | debug => 2
  | trace => 3

def name : LogLevel → String
  | error => "ERROR"
  | warn => "WARN"
  | debug => "DEBUG"
  | trace => "TRACE"

end LogLevel

/-- A remark for the operator. -/
structure LogRecord where
  level : LogLevel
  text : String
  deriving DecidableEq

/-- An invocation, its world and the remarks made, newest first. -/
structure Scene where
  invocation : Invocation
  world : World
  log : List LogRecord

/-- What a script can read and never change. -/
structure Env where
  library : Library
  config : Config

namespace Scene

/-- The scene with one more remark. -/
def note (s : Scene) (level : LogLevel) (text : String) : Scene :=
  { s with log := ⟨level, text⟩ :: s.log }

end Scene

end TickScript
