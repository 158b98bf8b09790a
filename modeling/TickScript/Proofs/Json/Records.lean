import TickScript.Proofs.Json.Forms
import TickScript.Proofs.Pointers
import TickScript.Snapshot

/-
  The forms of records and of snapshots are lawful.

  The proof for a record goes the way of its form: the names in it are the known ones and each is given
  once, so every member is found under its name, and every member is read back by the law of its own
  form.  That the names are distinct and need no escapes is a computation.
-/

namespace TickScript

open Json (record_bind required_bind defaulted_bind)

/-! ## Plain values -/

instance : LawfulForm Execution where
  levels := 0
  ofJson?_toJson e := by cases e <;> rfl
  tidy e := .str e.key

instance : LawfulForm Value where
  levels := 0
  ofJson?_toJson
    | .int n => by
      show (ofJson? (toJson n)).map Value.int = _
      rw [ofJson?_toJson, Option.map_some]
    | .text s => rfl
  tidy
    | .int n => LawfulForm.tidy n
    | .text s => .str s

/-! ## Entities -/

instance : LawfulForm PlayerRef where
  levels := 1
  ofJson?_toJson p := by
    simp only [JsonForm.ofJson?]
    refine record_bind rfl (by decide) ?_
    repeat refine required_bind rfl ?_
    rfl
  tidy p := by
    refine Json.tidy_record ?_
    simp (disch := decide) [Json.Name.tidy_of, tidy_toJson]

instance : LawfulForm NpcRef where
  levels := 1
  ofJson?_toJson n := by
    simp only [JsonForm.ofJson?]
    refine record_bind rfl (by decide) ?_
    repeat refine required_bind rfl ?_
    rfl
  tidy n := by
    refine Json.tidy_record ?_
    simp (disch := decide) [Json.Name.tidy_of, tidy_toJson]

instance : LawfulForm Coord where
  levels := 1
  ofJson?_toJson c := by
    simp only [JsonForm.ofJson?]
    refine record_bind rfl (by decide) ?_
    repeat refine required_bind rfl ?_
    rfl
  tidy c := by
    refine Json.tidy_record ?_
    simp (disch := decide) [Json.Name.tidy_of, tidy_toJson]

instance : LawfulForm Loc where
  levels := 2
  ofJson?_toJson l := by
    simp only [JsonForm.ofJson?]
    refine record_bind rfl (by decide) ?_
    repeat refine required_bind rfl ?_
    rfl
  tidy l := by
    refine Json.tidy_record ?_
    simp (disch := decide) [Json.Name.tidy_of, tidy_toJson]

instance : LawfulForm Obj where
  levels := 2
  ofJson?_toJson o := by
    simp only [JsonForm.ofJson?]
    refine record_bind rfl (by decide) ?_
    repeat refine required_bind rfl ?_
    rfl
  tidy o := by
    refine Json.tidy_record ?_
    simp (disch := decide) [Json.Name.tidy_of, tidy_toJson]

instance : SolidForm PlayerRef := ⟨nofun⟩

instance : SolidForm NpcRef := ⟨nofun⟩

instance : SolidForm Loc := ⟨nofun⟩

instance : SolidForm Obj := ⟨nofun⟩

instance : LawfulForm Entity where
  levels := 2
  ofJson?_toJson
    | .player p => by
      have tagged : ((toJson p).withKind "player").tagged? = some ("player", toJson p) :=
        Json.tagged?_withKind (by simp) (LawfulForm.tidy p).isFit
      simp only [JsonForm.ofJson?]
      rw [show toJson (Entity.player p) = (toJson p).withKind "player" from rfl, tagged]
      show (ofJson? (toJson p)).map Entity.player = _
      rw [ofJson?_toJson, Option.map_some]
    | .npc n => by
      have tagged : ((toJson n).withKind "npc").tagged? = some ("npc", toJson n) :=
        Json.tagged?_withKind (by simp) (LawfulForm.tidy n).isFit
      simp only [JsonForm.ofJson?]
      rw [show toJson (Entity.npc n) = (toJson n).withKind "npc" from rfl, tagged]
      show (ofJson? (toJson n)).map Entity.npc = _
      rw [ofJson?_toJson, Option.map_some]
    | .loc l => by
      have tagged : ((toJson l).withKind "loc").tagged? = some ("loc", toJson l) :=
        Json.tagged?_withKind (by simp) (LawfulForm.tidy l).isFit
      simp only [JsonForm.ofJson?]
      rw [show toJson (Entity.loc l) = (toJson l).withKind "loc" from rfl, tagged]
      show (ofJson? (toJson l)).map Entity.loc = _
      rw [ofJson?_toJson, Option.map_some]
    | .obj o => by
      have tagged : ((toJson o).withKind "obj").tagged? = some ("obj", toJson o) :=
        Json.tagged?_withKind (by simp) (LawfulForm.tidy o).isFit
      simp only [JsonForm.ofJson?]
      rw [show toJson (Entity.obj o) = (toJson o).withKind "obj" from rfl, tagged]
      show (ofJson? (toJson o)).map Entity.obj = _
      rw [ofJson?_toJson, Option.map_some]
  tidy
    | .player p => (tidy_toJson (by decide) p : (toJson p).Tidy 2).withKind
    | .npc n => (tidy_toJson (by decide) n : (toJson n).Tidy 2).withKind
    | .loc l => (tidy_toJson (by decide) l : (toJson l).Tidy 2).withKind
    | .obj o => (tidy_toJson (by decide) o : (toJson o).Tidy 2).withKind

instance : SolidForm Entity where
  toJson_ne_null e := by cases e <;> nofun

/-! ## Snapshots -/

section Slots

variable {α : Type} [JsonForm α] [LawfulForm α] [SolidForm α]

instance : LawfulForm (Slots α) where
  levels := LawfulForm.levels α + 2
  ofJson?_toJson s := by
    simp only [JsonForm.ofJson?]
    refine record_bind rfl (by decide) ?_
    repeat refine required_bind rfl ?_
    rfl
  tidy s := by
    have slots : (toJson [s.primary, s.secondary]).Tidy (LawfulForm.levels α + 1) :=
      LawfulForm.tidy [s.primary, s.secondary]
    refine Json.tidy_record ?_
    simpa (disch := decide) [Json.Name.tidy_of] using slots

end Slots

instance : LawfulForm FrameSnapshot where
  levels := 2
  ofJson?_toJson f := by
    simp only [JsonForm.ofJson?]
    refine record_bind rfl (by decide) ?_
    repeat refine required_bind rfl ?_
    rfl
  tidy f := by
    refine Json.tidy_record ?_
    simp (disch := decide) [Json.Name.tidy_of, tidy_toJson]

instance : LawfulForm Snapshot where
  levels := 5
  ofJson?_toJson s := by
    simp only [JsonForm.ofJson?]
    refine record_bind rfl (by decide) ?_
    repeat refine required_bind rfl ?_
    refine defaulted_bind rfl ?_
    repeat refine required_bind rfl ?_
    refine defaulted_bind rfl ?_
    repeat refine required_bind rfl ?_
    refine defaulted_bind rfl ?_
    rfl
  tidy s := by
    refine Json.tidy_record ?_
    simp (disch := decide) [Json.Name.tidy_of, tidy_toJson]

end TickScript
