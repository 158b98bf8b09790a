/-
  Numerals in texts that people type: command-line arguments, entry names, pointer sets.

  A decimal numeral is digits after an optional sign; leading zeros are fine and blanks are not.  Only
  the ten ASCII digits count.  Whether the number is in range is for the caller to say.
-/

namespace TickScript.Text

/-- The number that a run of decimal digits stands for. -/
def digitsValue (ds : List Char) : Nat := ds.foldl (fun n d => 10 * n + (d.toNat - '0'.toNat)) 0

/-- The value of a hexadecimal digit of either case. -/
def hexValue? (c : Char) : Option Nat :=
  if c.isDigit then some (c.toNat - '0'.toNat)
  else if 'a' ≤ c && c ≤ 'f' then some (c.toNat - 'a'.toNat + 10)
  else if 'A' ≤ c && c ≤ 'F' then some (c.toNat - 'A'.toNat + 10)
  else none

/-- The number that a text of nothing but digits stands for. -/
def readDigits? (ds : List Char) : Option Nat :=
  if ds ≠ [] && ds.all Char.isDigit then some (digitsValue ds) else none

/-- A natural number, which may carry a plus sign. -/
def readNat? (text : String) : Option Nat :=
  match text.toList with
  | '+' :: ds => readDigits? ds
  | ds => readDigits? ds

/-- An integer, which may carry either sign. -/
def readInt? (text : String) : Option Int :=
  match text.toList with
  | '-' :: ds => (readDigits? ds).map fun n => -n
  | '+' :: ds => (readDigits? ds).map Int.ofNat
  | ds => (readDigits? ds).map Int.ofNat

/-- An integer that fits a script int. -/
def readInt32? (text : String) : Option Int32 := do
  let n ← readInt? text
  if -2147483648 ≤ n && n ≤ 2147483647 then some (Int32.ofInt n) else none

/-- The number that hexadecimal digits stand for; a plus sign may stand before them. -/
def readHex? (cs : List Char) : Option Nat :=
  let ds := match cs with
    | '+' :: ds => ds
    | ds => ds
  if ds.isEmpty then none else ds.foldlM (fun n d => (hexValue? d).map (16 * n + ·)) 0

/-- A number below 2³² in lower-case hexadecimal, without leading zeros. -/
def hexNumeral (n : Nat) : String := String.ofList (Nat.toDigits 16 n)

end TickScript.Text
