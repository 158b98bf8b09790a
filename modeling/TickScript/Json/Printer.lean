import TickScript.Json

/-
  Writing JSON.

  Each writer puts its text IN FRONT OF the text that follows, so that nothing is copied twice and a
  statement about reading back can speak of any continuation.  There are two layouts: the compact one,
  without any blank, and the indented one with two spaces a level.  What is unfit has no text of its own
  and is written like nothing at all.
-/

namespace TickScript.Json

/-- The four lower-case hexadecimal digits of a number below 65536. -/
def hexDigits4 (n : Nat) : List Char :=
  [n / 4096 % 16, n / 256 % 16, n / 16 % 16, n % 16].map Nat.digitChar

/-- How a character is written inside a string: the quote and the backslash are escaped, and of the
    characters below the space those with a short escape take it, the others `\u00..`. -/
def escapeChar (c : Char) : List Char :=
  if c = '"' then ['\\', '"']
  else if c = '\\' then ['\\', '\\']
  else if c = '\n' then ['\\', 'n']
  else if c = '\r' then ['\\', 'r']
  else if c = '\t' then ['\\', 't']
  else if c.toNat = 8 then ['\\', 'b']
  else if c.toNat = 12 then ['\\', 'f']
  else if c.toNat < 32 then '\\' :: 'u' :: hexDigits4 c.toNat
  else [c]

/-- A quoted string in front of `rest`. -/
def writeString (s : String) (rest : List Char) : List Char :=
  '"' :: s.toList.foldr (fun c k => escapeChar c ++ k) ('"' :: rest)

/-! ## The compact layout -/

mutual

/-- A value in front of `rest`. -/
def write : Json → List Char → List Char
  | .null, rest => 'n' :: 'u' :: 'l' :: 'l' :: rest
  | .unfit, rest => 'n' :: 'u' :: 'l' :: 'l' :: rest
  | .bool true, rest => 't' :: 'r' :: 'u' :: 'e' :: rest
  | .bool false, rest => 'f' :: 'a' :: 'l' :: 's' :: 'e' :: rest
  | .int n, rest => (toString n).toList ++ rest
  | .decimal numeral, rest => numeral.toList ++ rest
  | .str s, rest => writeString s rest
  | .arr [], rest => '[' :: ']' :: rest
  | .arr (v :: vs), rest => '[' :: write v (writeItems vs (']' :: rest))
  | .obj [], rest => '{' :: '}' :: rest
  | .obj ((name, v) :: ms), rest =>
    '{' :: writeString name.text (':' :: write v (writeMembers ms ('}' :: rest)))

/-- The items after the first of an array. -/
def writeItems : List Json → List Char → List Char
  | [], rest => rest
  | v :: vs, rest => ',' :: write v (writeItems vs rest)

/-- The members after the first of an object. -/
def writeMembers : List (Name × Json) → List Char → List Char
  | [], rest => rest
  | (name, v) :: ms, rest =>
    ',' :: writeString name.text (':' :: write v (writeMembers ms rest))

end

/-- The compact text of a value. -/
def compact (v : Json) : String := String.ofList (v.write [])

/-! ## The indented layout -/

/-- A line break and two spaces for each level. -/
def newline (depth : Nat) (rest : List Char) : List Char :=
  '\n' :: (List.replicate (2 * depth) ' ' ++ rest)

mutual

/-- A value whose inner lines are indented one level more than `depth`, in front of `rest`. -/
def writeIndented : Json → Nat → List Char → List Char
  | .arr (v :: vs), depth, rest =>
    '[' :: newline (depth + 1) (writeIndented v (depth + 1)
      (indentItems vs (depth + 1) (newline depth (']' :: rest))))
  | .obj ((name, v) :: ms), depth, rest =>
    '{' :: newline (depth + 1) (writeString name.text (':' :: ' ' :: writeIndented v (depth + 1)
      (indentMembers ms (depth + 1) (newline depth ('}' :: rest)))))
  | .null, _, rest => write .null rest
  | .unfit, _, rest => write .unfit rest
  | .bool b, _, rest => write (.bool b) rest
  | .int n, _, rest => write (.int n) rest
  | .decimal numeral, _, rest => write (.decimal numeral) rest
  | .str s, _, rest => write (.str s) rest
  | .arr [], _, rest => write (.arr []) rest
  | .obj [], _, rest => write (.obj []) rest

/-- The items after the first, each on a line of its own. -/
def indentItems : List Json → Nat → List Char → List Char
  | [], _, rest => rest
  | v :: vs, depth, rest =>
    ',' :: newline depth (writeIndented v depth (indentItems vs depth rest))

/-- The members after the first, each on a line of its own. -/
def indentMembers : List (Name × Json) → Nat → List Char → List Char
  | [], _, rest => rest
  | (name, v) :: ms, depth, rest =>
    ',' :: newline depth (writeString name.text (':' :: ' ' :: writeIndented v depth
      (indentMembers ms depth rest)))

end

/-- The indented text of a value. -/
def indented (v : Json) : String := String.ofList (v.writeIndented 0 [])

end TickScript.Json
