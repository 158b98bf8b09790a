import TickScript.Proofs.Json.Worlds
import TickScript.TestCase

/-
  Every kind of document is read back from its text.

  What is stored or handed on as a document of its own are scripts, worlds, snapshots of invocations and
  of sessions, saved sessions, test cases and the reports of failed runs.  The last two are added here to
  the lawful forms; `documents_roundTrip` says for all of them that the text of a value is read as that
  value, whatever strings, numbers, bindings and permissions are in it.
-/

namespace TickScript

open Json (record_bind required_bind defaulted_bind)

/-! ## Reports of failed runs -/

instance : LawfulForm FaultKind where
  levels := 0
  ofJson?_toJson k := by cases k <;> rfl
  tidy k := .str k.code

instance : LawfulForm AbortReport where
  levels := 2
  ofJson?_toJson r := by
    simp only [JsonForm.ofJson?]
    refine record_bind rfl (by decide) ?_
    repeat refine required_bind rfl ?_
    rfl
  tidy r := by
    refine Json.tidy_record ?_
    simp (disch := decide) [Json.Name.tidy_of, tidy_toJson]

/-! ## Test cases -/

/-- The members of an action beside its kind. -/
def TestAction.members : TestAction → List (Json.Name × Json)
  | .pauseButton => []
  | .lastInt value => [("value", toJson value)]

theorem TestAction.toJson_eq (a : TestAction) : toJson a = (Json.obj a.members).withKind a.kind := by
  cases a <;> rfl

theorem TestAction.tidy_members (a : TestAction) : (Json.obj a.members).Tidy 1 := by
  refine Json.tidy_record ?_
  cases a <;> simp (disch := decide) [members, Json.Name.tidy_of, tidy_toJson]

instance : LawfulForm TestAction where
  levels := 1
  ofJson?_toJson a := by
    have others : ∀ m ∈ a.members, m.1.text ≠ "kind" := by cases a <;> simp [TestAction.members]
    have tagged : ((Json.obj a.members).withKind a.kind).tagged? = some (a.kind, .obj a.members) :=
      Json.tagged?_withKind others a.tidy_members.isFit
    simp only [JsonForm.ofJson?]
    rw [a.toJson_eq, tagged, Option.bind_eq_bind, Option.bind_some]
    cases a with
    | pauseButton => rfl
    | lastInt value =>
      simp only [TestAction.kind, TestAction.members]
      refine record_bind rfl (by decide) ?_
      refine required_bind rfl ?_
      rfl
  tidy a := by
    rw [a.toJson_eq]
    exact a.tidy_members.withKind

instance : LawfulForm TestCase where
  levels := 5
  ofJson?_toJson c := by
    simp only [JsonForm.ofJson?]
    refine record_bind rfl (by decide) ?_
    repeat refine required_bind rfl ?_
    repeat refine defaulted_bind rfl ?_
    rfl
  tidy c := by
    refine Json.tidy_record ?_
    simp (disch := decide) [Json.Name.tidy_of, tidy_toJson]

/-! ## All documents -/

/-- Whatever is written as a document of its own is read back from its text. -/
theorem documents_roundTrip :
    (∀ s : Script, ofText? (toText s) = some s) ∧
    (∀ w : World, ofText? (toText w) = some w) ∧
    (∀ s : Snapshot, ofText? (toText s) = some s) ∧
    (∀ s : SessionSnapshot, ofText? (toText s) = some s) ∧
    (∀ s : SavedSession, ofText? (toText s) = some s) ∧
    (∀ c : TestCase, ofText? (toText c) = some c) ∧
    (∀ r : AbortReport, ofText? (toText r) = some r) :=
  -- The deepest of them, a saved session, is nested far less deeply than a reader allows.
  ⟨ofText?_toText (by decide), ofText?_toText (by decide), ofText?_toText (by decide),
    ofText?_toText (by decide), ofText?_toText (by decide), ofText?_toText (by decide),
    ofText?_toText (by decide)⟩

end TickScript
