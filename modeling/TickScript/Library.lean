import TickScript.Fault
import TickScript.Script
import TickScript.Trigger

/-
  The loaded scripts, and how they are found: by id, by name and by trigger.

  Ids are unique, and loading a second script of one id is a fault.  Names and lookup keys need not be
  unique: the script that was loaded last is found.
-/

namespace TickScript

/-- Scripts with their indexes. -/
structure Library where
  byId : SortedMap Int32 Script
  idOfName : SortedMap String Int32
  idOfKey : SortedMap Int32 Int32
  deriving DecidableEq

namespace Library

def empty : Library := ⟨.empty, .empty, .empty⟩

instance : Inhabited Library := ⟨empty⟩

/-- The library with one more script.  A script without metadata has neither name nor key, and the key
    -1 is none. -/
def add (l : Library) (s : Script) : Except Fault Library :=
  if l.byId.contains s.id then .error (.sameScriptId s.id)
  else .ok {
    byId := l.byId.insert s.id s
    idOfName := match s.info with
      | some i => l.idOfName.insert i.scriptName s.id
      | none => l.idOfName
    idOfKey := match s.info with
      | some i => if i.lookupKey = -1 then l.idOfKey else l.idOfKey.insert i.lookupKey s.id
      | none => l.idOfKey }

/-- The library of the scripts, loaded in that order. -/
def ofScripts (scripts : List Script) : Except Fault Library := scripts.foldlM add empty

def size (l : Library) : Nat := l.byId.size

def get? (l : Library) (id : Int32) : Option Script := l.byId.get? id

/-- The script of that id, or the fault that there is none. -/
def require (l : Library) (id : Int32) : Except Fault Script :=
  match l.get? id with
  | some s => .ok s
  | none => .error (.noScript id)

def byName? (l : Library) (name : String) : Option Script := do l.get? (← l.idOfName.get? name)

/-- The most specific script of a trigger: for the type, else for the category, else for all. -/
def byTrigger? (l : Library) (t : Trigger) (type category : Int32) : Option Script := do
  l.get? (← (t.keys type category).findSome? l.idOfKey.get?)

end Library

end TickScript
