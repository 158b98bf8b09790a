import TickScript.SortedMap
import TickScript.Text.Split

/-
  Files, as far as the tools here touch them.

  The tools are written against this interface and not against a real disk, so that they can be run, and
  reasoned about, on a model of one.  Paths are texts with slashes; a relative path starts from the
  working directory.
-/

namespace TickScript

/-- What a path can lead to. -/
inductive PathKind where
  | directory
  | file
  deriving DecidableEq

/-- Access to files, in the monad in which it happens. -/
class FileAccess (m : Type → Type) where
  /-- The absolute path of the working directory. -/
  workingDir : m String
  /-- What the path leads to, if to anything. -/
  kind? : String → m (Option PathKind)
  /-- The text of the file, if there is one and its bytes are a text. -/
  readText? : String → m (Option String)
  /-- The files in a directory and in all directories below it, as relative paths. -/
  filesBelow : String → m (List String)
  /-- Replaces the text of a file, and makes the directories that it needs; tells whether that worked. -/
  writeText : String → String → m Bool

namespace Files

/-- The path of something in a directory. -/
def join (dir path : String) : String :=
  if dir.endsWith "/" then dir ++ path else dir ++ "/" ++ path

/-- The last component of a path. -/
def lastName (path : String) : String := Text.afterLast (· = '/') path

/-- The names of a path; the empty name and "." are idle. -/
def names (path : String) : List String := (Text.splitAt '/' path.toList).map String.ofList

/-- Whether a name leads nowhere else. -/
def isIdle (name : String) : Bool := name = "" || name = "."

/-- The path of the directory that has to be there before a path can lead to something: the path without
    its last name that is not idle. -/
def parent (path : String) : String :=
  let rest := (((names path).reverse.dropWhile isIdle).drop 1).dropWhile isIdle
  if !rest.isEmpty then "/".intercalate rest.reverse
  else if path.startsWith "/" then "/"
  else "."

/-- Whether a file is taken for a JSON document: its name has more to it than the ending. -/
def isJson (path : String) : Bool := (lastName path).endsWith ".json" && lastName path ≠ ".json"

/-- A relative path with slashes alone. -/
def withSlashes (path : String) : String :=
  String.ofList (path.toList.map fun c => if c = '\\' then '/' else c)

/-- Why the documents of a directory cannot be had. -/
inductive ReadError where
  /-- The file of that path is not a text. -/
  | unreadable (path : String)
  | noDocuments
  deriving DecidableEq

section Documents

variable {m : Type → Type} [Monad m] [FileAccess m]

/-- Reads one more document of a directory. -/
def addDocument (dir : String) (documents : SortedMap String String) (path : String) :
    ExceptT ReadError m (SortedMap String String) := do
  match ← FileAccess.readText? (m := m) (join dir path) with
  | some text => pure (documents.insert (withSlashes path) text)
  | none => throw (.unreadable path)

/-- All JSON documents below a directory, by relative path. -/
def readDocuments (dir : String) : ExceptT ReadError m (SortedMap String String) := do
  let paths ← FileAccess.filesBelow (m := m) dir
  let documents ← (paths.filter isJson).foldlM (addDocument dir) .empty
  if documents.entries.isEmpty then throw .noDocuments
  pure documents

end Documents

end Files

end TickScript
