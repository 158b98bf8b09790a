import TickScript.Files
import TickScript.Runner
import TickScript.SessionError

/-
  Packs: the scripts, config tables and initial world that belong together.

  A pack is read from files by path.  A file whose name ends in ".script.json" is a script, files named
  "config.json" and "world.json" in any folder are what they say, and all others are passed over.  Files
  are read in the order of their paths.
-/

namespace TickScript

/-- What sessions are made from. -/
structure Pack where
  library : Library
  config : Config
  /-- The world with which a session starts unless it names another. -/
  world : Option World

namespace Pack

def scriptSuffix : String := ".script.json"
def configFile : String := "config.json"
def worldFile : String := "world.json"

/-- What was read so far: scripts, config tables and world. -/
structure Contents where
  scripts : List Script
  config : Config
  world : Option World

/-- Reads one more file. -/
def Contents.addFile (c : Contents) (file : String × String) : Except SessionError Contents :=
  let (path, text) := file
  if path.endsWith scriptSuffix then
    match (ofText? text : Option Script) with
    | some script => .ok { c with scripts := c.scripts ++ [script] }
    | none => .error (.scriptInvalid path)
  else if Files.lastName path = configFile then
    match Config.ofText? text with
    | some config => .ok { c with config }
    | none => .error (.configInvalid path)
  else if Files.lastName path = worldFile then
    match (ofText? text : Option World) with
    | some world => .ok { c with world := some world }
    | none => .error (.worldInvalid path)
  else .ok c

/-- The pack of files, given by path. -/
def ofFiles (files : SortedMap String String) : Except SessionError Pack := do
  let contents ← files.entries.foldlM Contents.addFile ⟨[], .empty, none⟩
  if contents.scripts.isEmpty then throw .noScripts
  let library ← (Library.ofScripts contents.scripts).mapError .fault
  pure ⟨library, contents.config, contents.world⟩

/-- The remark that a pack was loaded. -/
def loadedRecord (p : Pack) : LogRecord :=
  ⟨.debug, "loaded pack with " ++ toString p.library.size ++ " scripts"⟩

/-- The script that an entry means: by its name, by the bare name of a procedure, or by its id. -/
def resolveEntry (p : Pack) (entry : String) : Except SessionError Script :=
  let byId := (Text.readInt32? entry).bind p.library.get?
  match (p.library.byName? entry).or ((p.library.byName? ("[proc," ++ entry ++ "]")).or byId) with
  | some script => .ok script
  | none => .error (.entryNotFound entry)

/-- A runner for the pack. -/
def runner (p : Pack) (budget : Option UInt32) : Runner := .standard p.library p.config budget

end Pack

end TickScript
