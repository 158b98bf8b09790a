import TickScript.Op

/-
  Instructions about numbers: the operands are taken together, all or nothing, and the arithmetic is that
  of `TickScript.Arithmetic`.
-/

namespace TickScript.Op.Number

open Arithmetic

/-- Replaces the two topmost ints by a function of them. -/
def binary (f : Int32 → Int32 → Int32) : Handler := do
  let (a, b) ← popInt2
  pushInt (f a b)

/-- Likewise for a function that has no value for some operands. -/
def partialBinary (f : Int32 → Int32 → Option Int32) (fault : Int32 → Int32 → Fault) : Handler := do
  let (a, b) ← popInt2
  pushInt (← orFail (fault a b) (f a b))

/-- Combines a number with the bit whose index is on top. -/
def withBit (f : Int32 → Int32 → Int32) : Handler :=
  partialBinary (fun n index => (bit? index).map (f n)) fun _ index => .badBit index

/-- A random number below the int on top. -/
def random : Handler := do pushInt (← Op.random (← popInt))

/-- A random number up to the int on top. -/
def randominc : Handler := do pushInt (← Op.random (saturatingAdd (← popInt) 1))

def interpolate : Handler := do
  let (y0, y1, x0, x1, x) ← popInt5
  pushInt (← orFail .divisionByZero (interpolate? y0 y1 x0 x1 x))

def scale : Handler := do
  let (a, b, c) ← popInt3
  pushInt (← orFail .divisionByZero (scale? a b c))

def bitcount : Handler := do pushInt (bitCount (← popInt))

def abs : Handler := do pushInt (← popInt).abs

def table : List (Opcode × Handler) := [
  (.add, binary (· + ·)),
  (.sub, binary (· - ·)),
  (.multiply, binary (· * ·)),
  (.divide, partialBinary quotient? fun _ _ => .divisionByZero),
  (.modulo, partialBinary remainder? fun _ _ => .divisionByZero),
  (.random, random),
  (.randominc, randominc),
  (.interpolate, interpolate),
  (.addpercent, binary addPercent),
  (.setbit, withBit (· ||| ·)),
  (.clearbit, withBit fun n bit => n &&& ~~~bit),
  (.testbit, withBit fun n bit => ofBool (n &&& bit ≠ 0)),
  (.togglebit, withBit (· ^^^ ·)),
  (.pow, partialBinary pow? fun _ exponent => .badExponent exponent),
  (.invpow, partialBinary root? fun number exponent => .badRoot exponent number),
  (.and, binary (· &&& ·)),
  (.or, binary (· ||| ·)),
  (.min, binary min),
  (.max, binary max),
  (.scale, scale),
  (.bitcount, bitcount),
  (.abs, abs)]

end TickScript.Op.Number
