import TickScript.Text.CaseTable
import TickScript.Text.Quoted

/-
  Lower case, for every script that has one.

  Each capital becomes its small letter, with two exceptions.  The capital I with a dot becomes an i and
  a separate dot.  The capital sigma becomes a final sigma at the end of a word: when, looking through
  ignored characters, a cased letter stands before it and none after it.
-/

namespace TickScript.Text

/-- Whether, of a list of characters, the first that is not looked through is cased. -/
def leadsToCased (cs : List Char) : Bool :=
  match cs.dropWhile (fun c => inRanges caseIgnoredRanges c.toNat) with
  | c :: _ => inRanges casedRanges c.toNat
  | [] => false

/-- The small letter of a character, wherever it stands. -/
def lowerChar (c : Char) : List Char :=
  if c.toNat < 128 then [c.toLower]
  else if c.toNat = 0x130 then ['i', Char.ofNat 0x307]
  else
    match caseRuns.find? (·.covers c.toNat) with
    | some run => [Char.ofNat (c.toNat + run.shift).toNat]
    | none => [c]

/-- The small letters of `rest`; `before` holds the characters before them, nearest first. -/
def lowerAfter (before : List Char) : List Char → List Char
  | [] => []
  | c :: rest =>
    let small :=
      if c = 'Σ' then
        if leadsToCased before && !leadsToCased rest then ['ς'] else ['σ']
      else lowerChar c
    small ++ lowerAfter (c :: before) rest

/-- A text in small letters. -/
def lowercase (s : String) : String := String.ofList (lowerAfter [] s.toList)

end TickScript.Text
