import TickScript.Json
import TickScript.Json.Magnitude

/-
  Reading JSON, strictly: one value, blanks around it and nothing else; no leading zeros, no trailing
  commas, no raw control characters and no unknown escapes.  Unpaired surrogates, numerals beyond the
  doubles and values nested too deeply are read, and are unfit.

  Every reader takes the characters left and gives back what it read together with the characters it
  did not use.  The recursive ones carry a bound on the number of steps; a text's length is always
  enough, because each step uses up a character, so `Json.read?` shows no bound.
-/

namespace TickScript.Json

/-- The four characters that may stand between tokens. -/
def isBlank (c : Char) : Bool := c = ' ' || c = '\n' || c = '\r' || c = '\t'

/-- The characters after the leading blanks. -/
def skipBlanks (cs : List Char) : List Char := cs.dropWhile isBlank

/-! ## Numerals -/

/-- The digits of an integer part: no digit may follow a leading zero. -/
def readWhole? (cs : List Char) : Option (List Char × List Char) :=
  match cs.span Char.isDigit with
  | ([], _) => none
  | ('0' :: _ :: _, _) => none
  | (ds, rest) => some (ds, rest)

/-- A fraction with its point, or nothing where no point stands. -/
def readFraction? : List Char → Option (List Char × List Char)
  | '.' :: cs =>
    match cs.span Char.isDigit with
    | ([], _) => none
    | (ds, rest) => some ('.' :: ds, rest)
  | cs => some ([], cs)

/-- The digits of an exponent after its letter and sign. -/
def readPower? (lead : List Char) (cs : List Char) : Option (List Char × List Char) :=
  match cs.span Char.isDigit with
  | ([], _) => none
  | (ds, rest) => some (lead ++ ds, rest)

/-- An exponent with its letter, or nothing where no letter stands. -/
def readExponent? : List Char → Option (List Char × List Char)
  | 'e' :: '+' :: cs => readPower? ['e', '+'] cs
  | 'e' :: '-' :: cs => readPower? ['e', '-'] cs
  | 'e' :: cs => readPower? ['e'] cs
  | 'E' :: '+' :: cs => readPower? ['E', '+'] cs
  | 'E' :: '-' :: cs => readPower? ['E', '-'] cs
  | 'E' :: cs => readPower? ['E'] cs
  | cs => some ([], cs)

/-- The number that an exponent stands for; nothing stands for zero. -/
def exponentValue : List Char → Int
  | _ :: '-' :: ds => -(Text.digitsValue ds : Int)
  | _ :: '+' :: ds => Text.digitsValue ds
  | _ :: ds => Text.digitsValue ds
  | [] => 0

/-- A numeral.  Negative zero is no integer here: it is kept as written, like a fraction. -/
def readNumber? (cs : List Char) : Option (Json × List Char) := do
  let (negative, cs) := match cs with
    | '-' :: rest => (true, rest)
    | _ => (false, cs)
  let (whole, cs) ← readWhole? cs
  let (fraction, cs) ← readFraction? cs
  let (exponent, cs) ← readExponent? cs
  let sign := if negative then ['-'] else []
  if !isFinite whole (fraction.drop 1) (exponentValue exponent) then pure (.unfit, cs)
  else if fraction.isEmpty && exponent.isEmpty && !(negative && whole = ['0']) then
    let magnitude : Int := Text.digitsValue whole
    pure (.int (if negative then -magnitude else magnitude), cs)
  else
    pure (.decimal (String.ofList (sign ++ whole ++ fraction ++ exponent)), cs)

/-! ## Strings -/

/-- Four hexadecimal digits. -/
def readHex4? : List Char → Option (Nat × List Char)
  | a :: b :: c :: d :: rest => do
    let a ← Text.hexValue? a
    let b ← Text.hexValue? b
    let c ← Text.hexValue? c
    let d ← Text.hexValue? d
    pure (((a * 16 + b) * 16 + c) * 16 + d, rest)
  | _ => none

/-- The second half of a surrogate pair whose first half was `high`. -/
def readLowSurrogate? (high : Nat) : List Char → Option (Char × List Char)
  | '\\' :: 'u' :: cs => do
    let (low, rest) ← readHex4? cs
    if 0xDC00 ≤ low && low ≤ 0xDFFF then
      pure (Char.ofNat (0x10000 + (high - 0xD800) * 0x400 + (low - 0xDC00)), rest)
    else none
  | _ => none

/-- What stands after a backslash, with the character that it means; half of a surrogate pair means
    none. -/
def readEscape? : List Char → Option (Option Char × List Char)
  | '"' :: rest => some ('"', rest)
  | '\\' :: rest => some ('\\', rest)
  | '/' :: rest => some ('/', rest)
  | 'b' :: rest => some (Char.ofNat 8, rest)
  | 'f' :: rest => some (Char.ofNat 12, rest)
  | 'n' :: rest => some ('\n', rest)
  | 'r' :: rest => some ('\r', rest)
  | 't' :: rest => some ('\t', rest)
  | 'u' :: cs => do
    let (unit, rest) ← readHex4? cs
    if 0xD800 ≤ unit && unit ≤ 0xDBFF then
      match readLowSurrogate? unit rest with
      | some (c, rest) => pure (c, rest)
      | none => pure (none, rest)
    else if 0xDC00 ≤ unit && unit ≤ 0xDFFF then pure (none, rest)
    else pure (Char.ofNat unit, rest)
  | _ => none

/-- A string after its opening quote, which is no text if half of a surrogate pair stands in it; `seen`
    holds what was read of it, last character first. -/
def readString? : Nat → Option (List Char) → List Char → Option (Option String × List Char)
  | 0, _, _ => none
  | _ + 1, _, [] => none
  | _ + 1, seen, '"' :: rest => some (seen.map fun cs => String.ofList cs.reverse, rest)
  | bound + 1, seen, '\\' :: cs =>
    match readEscape? cs with
    | some (some c, rest) => readString? bound (seen.map (c :: ·)) rest
    | some (none, rest) => readString? bound none rest
    | none => none
  | bound + 1, seen, c :: rest =>
    if c.toNat < 32 then none else readString? bound (seen.map (c :: ·)) rest

/-! ## Values -/

/-- A member's name, if it is a text, and the colon after it. -/
def readName? (bound : Nat) (cs : List Char) : Option (Option Name × List Char) :=
  match skipBlanks cs with
  | '"' :: cs => do
    let (text, rest) ← readString? bound (some []) cs
    match skipBlanks rest with
    | ':' :: rest => pure (text.map fun t => ⟨t, !(cs.takeWhile (· ≠ '"')).contains '\\'⟩, rest)
    | _ => none
  | _ => none

mutual

/-- A value and the blanks before it. -/
def readValue? : Nat → List Char → Option (Json × List Char)
  | 0, _ => none
  | bound + 1, cs =>
    match skipBlanks cs with
    | 'n' :: 'u' :: 'l' :: 'l' :: rest => some (.null, rest)
    | 't' :: 'r' :: 'u' :: 'e' :: rest => some (.bool true, rest)
    | 'f' :: 'a' :: 'l' :: 's' :: 'e' :: rest => some (.bool false, rest)
    | '"' :: cs =>
      match readString? bound (some []) cs with
      | some (some s, rest) => some (.str s, rest)
      | some (none, rest) => some (.unfit, rest)
      | none => none
    | '[' :: cs =>
      match skipBlanks cs with
      | ']' :: rest => some (.arr [], rest)
      | cs => readItems? bound [] cs
    | '{' :: cs =>
      match skipBlanks cs with
      | '}' :: rest => some (.obj [], rest)
      | cs => readMembers? bound (some []) cs
    | cs => readNumber? cs

/-- The items of an array up to its bracket; `seen` holds those read, last first. -/
def readItems? : Nat → List Json → List Char → Option (Json × List Char)
  | 0, _, _ => none
  | bound + 1, seen, cs =>
    match readValue? bound cs with
    | none => none
    | some (v, cs) =>
      match skipBlanks cs with
      | ',' :: cs => readItems? bound (v :: seen) cs
      | ']' :: rest => some (.arr (v :: seen).reverse, rest)
      | _ => none

/-- The members of an object up to its brace, which is unfit if a name is no text; `seen` holds those
    read, last first. -/
def readMembers? : Nat → Option (List (Name × Json)) → List Char → Option (Json × List Char)
  | 0, _, _ => none
  | bound + 1, seen, cs =>
    match readName? bound cs with
    | none => none
    | some (name, cs) =>
      match readValue? bound cs with
      | none => none
      | some (v, cs) =>
        let seen := do pure ((← name, v) :: (← seen))
        match skipBlanks cs with
        | ',' :: cs => readMembers? bound seen cs
        | '}' :: rest => some ((seen.map fun ms => .obj ms.reverse).getD .unfit, rest)
        | _ => none

end

/-- The number of levels to which arrays and objects may be nested. -/
def maxDepth : Nat := 127

/-- The value that a whole text is. -/
def read? (text : String) : Option Json :=
  let cs := text.toList
  match readValue? (cs.length + 1) cs with
  | some (v, rest) => if (skipBlanks rest).isEmpty then some (v.upToDepth maxDepth) else none
  | none => none

/-- The integer that a whole text is, written as a JSON integer with no blanks around it. -/
def readInt? (text : String) : Option Int :=
  match readNumber? text.toList with
  | some (.int n, []) => some n
  | _ => none

end TickScript.Json
