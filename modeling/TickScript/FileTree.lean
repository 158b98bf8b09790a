import TickScript.Files

/-
  A model of a disk: a tree of directories and files as a value.

  A place in the tree is the list of names that leads to it from the root.  A path is walked name by name:
  "." and an empty name stay, ".." goes up, and every step has to start from a directory that is there.
  Only where the last step leads need there be nothing yet.  As on a real disk, names and paths may not be
  too long, and no path holds the character NUL.
-/

namespace TickScript

/-- What is at a place. -/
inductive FileNode where
  | directory
  /-- A file with its text, unless its bytes are none. -/
  | file (text : Option String)
  deriving DecidableEq

def FileNode.kind : FileNode → PathKind
  | directory => .directory
  | file _ => .file

/-- A place, by the names that lead to it. -/
abbrev Place := List String

/-- A disk. -/
structure FileTree where
  workingDir : Place
  /-- What is at each place but the root, which is always a directory. -/
  nodes : List (Place × FileNode)

namespace FileTree

/-- The absolute path of a place. -/
def absolute (place : Place) : String := "/" ++ "/".intercalate place

def node? (t : FileTree) (place : Place) : Option FileNode :=
  if place = [] then some .directory else t.nodes.lookup place

def isDirectory (t : FileTree) (place : Place) : Bool := t.node? place = some .directory

/-- The tree with something else at a place. -/
def put (t : FileTree) (place : Place) (node : FileNode) : FileTree :=
  { t with nodes := (place, node) :: t.nodes.filter (·.1 ≠ place) }

/-! ## Walking -/

/-- Whether a text can be a path: the empty one means nothing, and there are at most 4095 bytes. -/
def isPath (path : String) : Bool :=
  path ≠ "" && path.utf8ByteSize < 4096 && !path.toList.contains (Char.ofNat 0)

/-- Whether something can have that name: it takes at most 255 bytes. -/
def isName (name : String) : Bool := name.utf8ByteSize ≤ 255

/-- Where the first name of a path is looked up. -/
def origin (t : FileTree) (path : String) : Place := if path.startsWith "/" then [] else t.workingDir

/-- Where a single name leads from a directory. -/
def enter (here : Place) (name : String) : Place :=
  if Files.isIdle name then here
  else if name = ".." then here.dropLast
  else here ++ [name]

/-- Where names lead, if the walk is possible. -/
def walk (t : FileTree) : Place → List String → Option Place
  | here, [] => some here
  | here, name :: rest =>
    if t.isDirectory here && isName name then t.walk (enter here name) rest else none

/-- The place that a path means. -/
def locate (t : FileTree) (path : String) : Option Place :=
  if isPath path then t.walk (t.origin path) (Files.names path) else none

/-- What a path leads to. -/
def find? (t : FileTree) (path : String) : Option FileNode := do t.node? (← t.locate path)

/-- The text of a file. -/
def readText? (t : FileTree) (path : String) : Option String :=
  match t.find? path with
  | some (.file text) => text
  | _ => none

/-- The rest of a place below another. -/
def below? (dir place : Place) : Option Place :=
  if dir.isPrefixOf place then some (place.drop dir.length) else none

/-- The files in a directory and below it. -/
def filesBelow (t : FileTree) (path : String) : List String :=
  match t.locate path with
  | some dir =>
    if t.isDirectory dir then
      t.nodes.filterMap fun (place, node) =>
        if node.kind = .file then (below? dir place).map "/".intercalate else none
    else []
  | none => []

/-! ## Writing -/

/-- The tree in which names can be walked, if that works: directories that are missing are made.  A file
    in the way stops it, and a name that is too long; what was made before stays. -/
def makeDirectories (t : FileTree) : Place → List String → Bool × FileTree
  | _, [] => (true, t)
  | here, name :: rest =>
    let next := enter here name
    match t.node? next with
    | some .directory => t.makeDirectories next rest
    | some (.file _) => (false, t)
    | none => if isName name then (t.put next .directory).makeDirectories next rest else (false, t)

/-- The place at which a file can be written under a path: its last name has to be a proper one, and no
    directory may be there. -/
def target (t : FileTree) (path : String) : Option Place := do
  let place ← t.locate path
  let last ← (Files.names path).getLast?
  if Files.isIdle last || last = ".." || t.isDirectory place then none else pure place

/-- Writes a file and the directories that it needs.  These are made even if the file then fails. -/
def writeText (t : FileTree) (path text : String) : Bool × FileTree :=
  if !isPath (Files.parent path) then (false, t)
  else
    match t.makeDirectories (t.origin path) (Files.names (Files.parent path)) with
    | (false, t) => (false, t)
    | (true, t) =>
      match t.target path with
      | some place => (true, t.put place (.file (some text)))
      | none => (false, t)

instance : FileAccess (StateM FileTree) where
  workingDir := do pure (absolute (← get).workingDir)
  kind? path := do pure (((← get).find? path).map FileNode.kind)
  readText? path := do pure ((← get).readText? path)
  filesBelow path := do pure ((← get).filesBelow path)
  writeText path text := fun t => t.writeText path text

end FileTree

end TickScript
