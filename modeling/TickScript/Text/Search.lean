/-
  Positions in a text, counted in characters.

  A search finds a place in a text, which is an offset into its bytes.  Scripts count characters, so a place
  is told as the number of characters before it.
-/

namespace TickScript.Text

/-- The position of a place: the number of characters before it. -/
def charIndex {text : String} (place : text.Pos) : Nat := (text.sliceTo place).chars.length

/-- The position that an int means in a text of that length.  Outside the text it means the nearer end. -/
def clampedIndex (length : Nat) (n : Int32) : Nat := min n.toNatClampNeg length

/-- The characters of a text from one position on, up to but without another. -/
def slice (text : String) (first last : Int32) : String :=
  let first := clampedIndex text.length first
  let last := clampedIndex text.length last
  String.ofList ((text.toList.drop first).take (last - first))

end TickScript.Text
