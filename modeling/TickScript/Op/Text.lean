import TickScript.Op
import TickScript.Text.Lowercase
import TickScript.Text.Search

/-
  Instructions about texts.  Positions and lengths count characters.
-/

namespace TickScript.Op.Text

open TickScript.Text (lowercase charIndex slice)

/-- The two topmost strings in the order in which they were pushed. -/
def popPair : Op (String × String) := do
  let right ← popString
  let left ← popString
  pure (left, right)

/-- The character of a code, if the code is one of a character. -/
def charOf? (code : Int32) : Option Char :=
  (position? code).bind fun n => if n.isValidChar then some (Char.ofNat n) else none

def popChar : Op Char := do
  let code ← popInt
  orFail (.badCharCode code) (charOf? code)

/-- A number in decimal. -/
def decimal (n : Int32) : String := toString n.toInt

/-- A number in decimal that always has a sign. -/
def signedDecimal (n : Int32) : String := if n < 0 then decimal n else "+" ++ decimal n

def append : Handler := do
  let (left, right) ← popPair
  pushString (left ++ right)

def appendChar : Handler := do
  let c ← popChar
  let text ← popString
  pushString (text.push c)

def appendNum : Handler := do
  let n ← popInt
  let text ← popString
  pushString (text ++ decimal n)

def appendSignnum : Handler := do
  let n ← popInt
  let text ← popString
  pushString (text ++ signedDecimal n)

/-- -1, 0 or 1, by the order of the first characters that differ. -/
def compare : Handler := do
  let (left, right) ← popPair
  pushInt (if left < right then -1 else if left = right then 0 else 1)

def lowercase : Handler := do pushString (TickScript.Text.lowercase (← popString))

/-- A position, or -1 for none. -/
def pushPosition (position : Option Nat) : Op Unit :=
  pushInt ((position.map Arithmetic.ofLength).getD (-1))

def stringIndexofChar : Handler := do
  let c ← popChar
  let text ← popString
  pushPosition ((text.find? c).map charIndex)

def stringIndexofString : Handler := do
  let (text, needle) ← popPair
  pushPosition ((text.find? needle).map charIndex)

def stringLength : Handler := do pushInt (Arithmetic.ofLength (← popString).length)

/-- The part from one position up to but without another; positions outside the text mean its ends. -/
def substring : Handler := do
  let (first, last) ← popInt2
  let text ← popString
  pushString (slice text first last)

def tostring : Handler := do pushString (decimal (← popInt))

def table : List (Opcode × Handler) := [
  (.append, append),
  (.appendChar, appendChar),
  (.appendNum, appendNum),
  (.appendSignnum, appendSignnum),
  (.compare, compare),
  (.lowercase, lowercase),
  (.stringIndexofChar, stringIndexofChar),
  (.stringIndexofString, stringIndexofString),
  (.stringLength, stringLength),
  (.substring, substring),
  (.tostring, tostring)]

end TickScript.Op.Text
