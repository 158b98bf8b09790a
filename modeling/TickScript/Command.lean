import TickScript.Command.Options
import TickScript.Entity
import TickScript.Text.Numeral
import TickScript.Text.Split
import TickScript.Value

/-
  Commands, and the command lines that mean them.

  A script is run once, or step by step: started with its state saved at every dialog, and resumed from
  there with an answer.
-/

namespace TickScript

/-- What to invoke. -/
structure Launch where
  packDir : String
  entry : String
  self : Option Entity
  active : List Entity
  args : List Value
  budget : Option UInt32
  deriving DecidableEq

/-- A command. -/
inductive Command where
  /-- Run a script until it ends or asks for an answer. -/
  | run (launch : Launch) (maxWaits : Nat)
  /-- Do that, and save the state if it asks for an answer. -/
  | start (launch : Launch) (maxWaits : Nat) (stateOut : String)
  /-- Go on from a saved state, and save the next one if it asks again. -/
  | resume (stateIn stateOut : String) (lastInt : Option Int32) (maxWaits : Nat)
  deriving DecidableEq

namespace Command

/-! ## Values in arguments -/

/-- The entity of a kind whose fields are given by number. -/
def entityOf? : String → List Int32 → Option Entity
  | "player", [pid] => some (.player ⟨pid⟩)
  | "npc", [nid, typeId] => some (.npc ⟨nid, typeId⟩)
  | "loc", [typeId, level, x, z, shape, angle] => some (.loc ⟨typeId, ⟨level, x, z⟩, shape, angle⟩)
  | "obj", [typeId, level, x, z, count] => some (.obj ⟨typeId, ⟨level, x, z⟩, count⟩)
  | _, _ => none

/-- An entity, written as its kind and its fields with colons between them. -/
def readEntity? (text : String) : Option Entity :=
  match (Text.splitAt ':' text.toList).map String.ofList with
  | kind :: fields => do entityOf? kind (← fields.mapM Text.readInt32?)
  | [] => none

/-- An argument of a script: a number, or a text after "str:". -/
def readValue? (text : String) : Option Value :=
  match text.toList with
  | 's' :: 't' :: 'r' :: ':' :: cs => some (.text (String.ofList cs))
  | _ => (Text.readInt32? text).map .int

/-- A budget of instructions. -/
def readBudget? (text : String) : Option UInt32 := do
  let n ← Text.readInt? text
  if 0 ≤ n && n < 4294967296 then some (UInt32.ofNat n.toNat) else none

/-- A number of waits. -/
def readWaits? (text : String) : Option Nat := do
  let n ← Text.readNat? text
  if n < 18446744073709551616 then some n else none

/-! ## Options -/

/-- What was given so far. -/
structure Draft where
  packDir : Option String
  entry : Option String
  self : Option Entity
  active : List Entity
  args : List Value
  budget : Option UInt32
  maxWaits : Option Nat
  stateIn : Option String
  stateOut : Option String
  lastInt : Option Int32

/-- Nothing yet. -/
def Draft.empty : Draft := ⟨none, none, none, [], [], none, none, none, none, none⟩

/-- An option that is given at most once: it fills a field that is still empty. -/
def once {β : Type} (name : String) (read : String → Option β) (get : Draft → Option β)
    (set : β → Draft → Draft) : OptionRule Draft where
  name
  takesAnything := false
  take text d := if (get d).isSome then none else (read text).map fun b => set b d

def packDirOption : OptionRule Draft :=
  once "pack-dir" some (·.packDir) fun v d => { d with packDir := some v }

def entryOption : OptionRule Draft :=
  once "entry" some (·.entry) fun v d => { d with entry := some v }

def selfOption : OptionRule Draft :=
  once "self" readEntity? (·.self) fun v d => { d with self := some v }

def activeOption : OptionRule Draft where
  name := "active"
  takesAnything := false
  take text d := (readEntity? text).map fun e => { d with active := d.active ++ [e] }

def argOption : OptionRule Draft where
  name := "arg"
  takesAnything := true
  take text d := (readValue? text).map fun v => { d with args := d.args ++ [v] }

def budgetOption : OptionRule Draft :=
  once "budget" readBudget? (·.budget) fun v d => { d with budget := some v }

def maxWaitsOption : OptionRule Draft :=
  once "max-waits" readWaits? (·.maxWaits) fun v d => { d with maxWaits := some v }

def stateInOption : OptionRule Draft :=
  once "state-in" some (·.stateIn) fun v d => { d with stateIn := some v }

def stateOutOption : OptionRule Draft :=
  once "state-out" some (·.stateOut) fun v d => { d with stateOut := some v }

def lastIntOption : OptionRule Draft :=
  { once "last-int" Text.readInt32? (·.lastInt) fun v d => { d with lastInt := some v } with
    takesAnything := true }

def launchOptions : List (OptionRule Draft) :=
  [packDirOption, entryOption, selfOption, activeOption, argOption, budgetOption]

/-! ## Commands -/

/-- The number of timed waits that pass unless another is named. -/
def defaultMaxWaits : Nat := 1000

/-- Something that has to be given. -/
def given {β : Type} : Option β → Except Refusal β
  | some b => .ok b
  | none => .error .usage

def Draft.launch (d : Draft) : Except Refusal Launch := do
  pure ⟨← given d.packDir, ← given d.entry, d.self, d.active, d.args, d.budget⟩

def Draft.waits (d : Draft) : Nat := d.maxWaits.getD defaultMaxWaits

def readRun (args : List String) : Except Refusal Command := do
  let d ← readOptions (launchOptions ++ [maxWaitsOption]) args .empty
  pure (.run (← d.launch) d.waits)

def readStart (args : List String) : Except Refusal Command := do
  let d ← readOptions (launchOptions ++ [stateOutOption, maxWaitsOption]) args .empty
  pure (.start (← d.launch) d.waits (← given d.stateOut))

def readResume (args : List String) : Except Refusal Command := do
  let d ← readOptions [stateInOption, lastIntOption, stateOutOption, maxWaitsOption] args .empty
  pure (.resume (← given d.stateIn) (← given d.stateOut) d.lastInt d.waits)

/-- What "help" can be asked about, and "agent help" about what comes after "agent". -/
def helpTopics : List (List String) :=
  [[], ["run"], ["agent"], ["agent", "start"], ["agent", "resume"], ["agent", "help"], ["help"]]

/-- Help about a topic, if there is such a topic. -/
def helpAbout (topic : List String) : Refusal := if topic ∈ helpTopics then .help else .usage

/-- The command that arguments mean. -/
def read : List String → Except Refusal Command
  | "run" :: args => readRun args
  | "agent" :: "start" :: args => readStart args
  | "agent" :: "resume" :: args => readResume args
  | "agent" :: "help" :: topic => .error (helpAbout ("agent" :: topic))
  | "agent" :: arg :: _ => .error (if asksHelp arg then .help else .usage)
  | "help" :: topic => .error (helpAbout topic)
  | arg :: _ => .error (if asksHelp arg then .help else .usage)
  | [] => .error .usage

end Command

end TickScript
