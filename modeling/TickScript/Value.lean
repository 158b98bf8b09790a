import TickScript.Json.Form
import TickScript.Text.Quoted

/-
  Values at the edges of a run, and the types that config tables declare for them.

  While a script runs, ints and strings live on separate stacks; only where a value enters from outside
  (an argument, a config table) can it be either, and then its declared type says which it should be.
-/

namespace TickScript

/-- An int or a string. -/
inductive Value where
  | int (n : Int32)
  | text (s : String)
  deriving DecidableEq

namespace Value

def asInt? : Value → Option Int32
  | .int n => some n
  | .text _ => none

def asText? : Value → Option String
  | .text s => some s
  | .int _ => none

/-- The name of the stack that the value lives on. -/
def stackName : Value → String
  | .int _ => "int"
  | .text _ => "string"

/-- The value as a fault message shows it. -/
def shown : Value → String
  | .int n => "Int(" ++ toString n.toInt ++ ")"
  | .text s => "String(" ++ Text.quoted s ++ ")"

end Value

instance : JsonForm Value where
  toJson
    | .int n => toJson n
    | .text s => .str s
  ofJson?
    | .str s => some (.text s)
    | v => (ofJson? v).map .int

/-- The type that a table declares for a value: numbers of several meanings, or a string. -/
inductive VarType where
  | int | string | boolean | coord | obj | namedObj | npc | loc | stat | seq
  deriving DecidableEq

namespace VarType

def all : List VarType := [int, string, boolean, coord, obj, namedObj, npc, loc, stat, seq]

/-- The name in JSON documents. -/
def name : VarType → String
  | int => "int"
  | string => "string"
  | boolean => "boolean"
  | coord => "coord"
  | obj => "obj"
  | namedObj => "namedobj"
  | npc => "npc"
  | loc => "loc"
  | stat => "stat"
  | seq => "seq"

/-- The name in fault messages. -/
def title : VarType → String
  | int => "Int"
  | string => "String"
  | boolean => "Boolean"
  | coord => "Coord"
  | obj => "Obj"
  | namedObj => "NamedObj"
  | npc => "Npc"
  | loc => "Loc"
  | stat => "Stat"
  | seq => "Seq"

/-- The character by which scripts name the type. -/
def letter : VarType → Char
  | int => 'i'
  | string => 's'
  | boolean => '1'
  | coord => 'c'
  | obj => 'o'
  | namedObj => 'O'
  | npc => 'n'
  | loc => 'l'
  | stat => 'S'
  | seq => 'A'

/-- The code of the type's letter. -/
def charCode (t : VarType) : Int32 := Int32.ofNat t.letter.toNat

/-- The type whose letter has that code. -/
def ofCharCode? (code : Int32) : Option VarType := all.find? (·.charCode = code)

def isString (t : VarType) : Bool := t = string

/-- What stands for a missing value: nothing at all for strings, zero for plain numbers, and -1, which
    is no id, for references to something. -/
def default : VarType → Value
  | string => .text ""
  | int | boolean | stat => .int 0
  | coord | obj | namedObj | npc | loc | seq => .int (-1)

/-- Whether values of the type live on the value's stack. -/
def admits (t : VarType) : Value → Bool
  | .int _ => !t.isString
  | .text _ => t.isString

end VarType

instance : JsonForm VarType where
  toJson t := .str t.name
  ofJson? v := do
    let name ← v.name?
    VarType.all.find? (·.name = name)

end TickScript
