import TickScript.Json.Form
import TickScript.Slot
import TickScript.Text.Blank
import TickScript.Text.Split

/-
  Pointers: what an invocation is permitted to touch.

  A set of pointers is 32 bits, ten of which have a name.  Unknown bits are carried along.  A set is
  written as its names in the order of their bits, joined by " | ", and then the unknown bits as one
  hexadecimal number; reading is more lenient about blanks and about the order.
-/

namespace TickScript

/-- A set of permissions. -/
structure Pointers where
  bits : UInt32
  deriving DecidableEq

namespace Pointers

def none : Pointers := ⟨0⟩

def activePlayer : Pointers := ⟨1⟩
def activePlayer2 : Pointers := ⟨2⟩
def protectedPlayer : Pointers := ⟨4⟩
def protectedPlayer2 : Pointers := ⟨8⟩
def activeNpc : Pointers := ⟨16⟩
def activeNpc2 : Pointers := ⟨32⟩
def activeLoc : Pointers := ⟨64⟩
def activeLoc2 : Pointers := ⟨128⟩
def activeObj : Pointers := ⟨256⟩
def activeObj2 : Pointers := ⟨512⟩

/-- The permission to act on the player of a slot. -/
def player (s : Slot) : Pointers := s.pick activePlayer activePlayer2

/-- The permission to change the player of a slot. -/
def protectedAccess (s : Slot) : Pointers := s.pick protectedPlayer protectedPlayer2

/-- The permission to act on the npc of a slot. -/
def npc (s : Slot) : Pointers := s.pick activeNpc activeNpc2

/-- The permission to act on the loc of a slot. -/
def loc (s : Slot) : Pointers := s.pick activeLoc activeLoc2

/-- The permission to act on the obj of a slot. -/
def obj (s : Slot) : Pointers := s.pick activeObj activeObj2

/-- Both sets together. -/
def union (p q : Pointers) : Pointers := ⟨p.bits ||| q.bits⟩

/-- The first set without the second. -/
def without (p q : Pointers) : Pointers := ⟨p.bits &&& ~~~q.bits⟩

/-- Whether the first set has all of the second. -/
def includes (p q : Pointers) : Bool := p.bits &&& q.bits = q.bits

/-! ## Text -/

/-- The named pointers in the order of their bits. -/
def named : List (String × Pointers) :=
  [("ACTIVE_PLAYER", activePlayer), ("ACTIVE_PLAYER2", activePlayer2),
   ("PROTECTED_ACTIVE_PLAYER", protectedPlayer), ("PROTECTED_ACTIVE_PLAYER2", protectedPlayer2),
   ("ACTIVE_NPC", activeNpc), ("ACTIVE_NPC2", activeNpc2),
   ("ACTIVE_LOC", activeLoc), ("ACTIVE_LOC2", activeLoc2),
   ("ACTIVE_OBJ", activeObj), ("ACTIVE_OBJ2", activeObj2)]

/-- All named pointers together. -/
def known : Pointers := named.foldl (fun p entry => p.union entry.2) none

/-- The parts of the written form. -/
def parts (p : Pointers) : List String :=
  let unknown := p.without known
  (named.filter (fun entry => p.includes entry.2)).map (·.1) ++
    if unknown.bits = 0 then [] else ["0x" ++ Text.hexNumeral unknown.bits.toNat]

/-- The written form. -/
def text (p : Pointers) : String := " | ".intercalate p.parts

/-- The set as a fault message shows it. -/
def shown (p : Pointers) : String :=
  "PointerSet(" ++ (if p.bits = 0 then "0x0" else p.text) ++ ")"

/-- The set that one part stands for. -/
def ofPart? (part : List Char) : Option Pointers :=
  match Text.trim part with
  | '0' :: 'x' :: digits => do
    let n ← Text.readHex? digits
    if n < 4294967296 then pure ⟨UInt32.ofNat n⟩ else failure
  | name => named.lookup (String.ofList name)

/-- The set that a text stands for: a blank text is the empty set, and otherwise every part between
    bars has to be a name or a hexadecimal number. -/
def ofText? (s : String) : Option Pointers :=
  if (Text.trim s.toList).isEmpty then some none
  else do
    let sets ← (Text.splitAt '|' s.toList).mapM ofPart?
    pure (sets.foldl union none)

end Pointers

instance : JsonForm Pointers where
  toJson p := .str p.text
  ofJson?
    | .str s => Pointers.ofText? s
    | _ => none

end TickScript
