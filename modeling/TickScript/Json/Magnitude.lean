import TickScript.Text.Numeral

/-
  How large the number of a numeral is, as far as one has to know: whether it is a finite double.

  The number is reckoned by the digits that make up less than 2^64 and a power of ten for the others,
  with every step rounded to 53 bits.  This decides the numerals next to the largest double, for which
  the exact value could come to lie on the other side.
-/

namespace TickScript.Json

/-- The number that `n` and the digits after it form, as long as it stays below 2^64, and the digits for
    which it would not. -/
def takeDigits : Nat → List Char → Nat × List Char
  | n, [] => (n, [])
  | n, d :: ds =>
    let next := 10 * n + Text.digitsValue [d]
    if next < 18446744073709551616 then takeDigits next ds else (n, d :: ds)

/-- The nearest number with at most 53 significant bits; of two equally near, the one whose last bit is
    zero. -/
def roundTo53 (n : Nat) : Nat :=
  let unit := 1 <<< (n.log2 + 1 - 53)
  let floor := n / unit
  let excess := 2 * (n % unit)
  let up := unit < excess || (unit = excess && floor % 2 = 1)
  (if up then floor + 1 else floor) * unit

/-- Whether a numeral of these digits before and after the point and this exponent is a finite double. -/
def isFinite (whole fraction : List Char) (exponent : Int) : Bool :=
  let (n, beyond) := takeDigits 0 whole
  let (n, ignored) := takeDigits n fraction
  let power := exponent + beyond.length - (fraction.length - ignored.length : Nat)
  n = 0 || power ≤ 0 ||
    (power ≤ 308 && roundTo53 (roundTo53 n * roundTo53 (Nat.pow 10 power.toNat)) < 1 <<< 1024)

end TickScript.Json
