/-
  Texts that are made of parts with a mark between them: paths, lists of names, fields of a record.
-/

namespace TickScript.Text

/-- The parts between the marks; there is one more of them than there are marks. -/
def splitAt (mark : Char) (cs : List Char) : List (List Char) :=
  cs.foldr (fun c parts =>
    if c = mark then [] :: parts
    else match parts with
      | part :: rest => (c :: part) :: rest
      | [] => [[c]]) [[]]

/-- What stands after the last character of a kind, or everything if there is none. -/
def afterLast (isMark : Char → Bool) (s : String) : String :=
  String.ofList (s.toList.reverse.takeWhile (!isMark ·)).reverse

end TickScript.Text
