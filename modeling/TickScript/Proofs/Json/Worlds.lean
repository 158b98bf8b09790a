import TickScript.Proofs.Json.Records
import TickScript.Proofs.SortedMap
import TickScript.SavedSession

/-
  The forms of worlds, of saved sessions and of scripts are lawful.

  A map from numbers is written as an object whose names are the numbers.  Its entries are written in
  ascending order, so putting them into a map one after the other gives the same map.  The rest are
  records and alternatives over forms that are lawful already.
-/

namespace TickScript

open Json (record_bind required_bind defaulted_bind)

/-! ## Maps from numbers -/

namespace Json

theorem escapeChar_of_isDigit {c : Char} (h : c.isDigit) : escapeChar c = [c] := by
  have ne {d : Char} (hd : d.isDigit = false) : c ≠ d := by
    rintro rfl
    nomatch hd.symm.trans h
  have low : 48 ≤ c.toNat := by
    unfold Char.isDigit at h
    rw [Bool.and_eq_true, decide_eq_true_iff] at h
    exact h.1
  unfold escapeChar
  rw [if_neg (ne (by decide)), if_neg (ne (by decide)), if_neg (ne (by decide)),
    if_neg (ne (by decide)), if_neg (ne (by decide)), if_neg (by omega), if_neg (by omega),
    if_neg (by omega)]

/-- The text of a number needs no escapes. -/
theorem tidy_number (n : Int) : Name.Tidy ⟨toString n, true⟩ := by
  refine ⟨rfl, fun c mem => ?_⟩
  change c ∈ (toString n).toList at mem
  rw [toList_toString] at mem
  split at mem
  · rcases List.mem_cons.1 mem with rfl | mem
    · decide
    · exact escapeChar_of_isDigit (isDigit_of_mem_digits mem)
  · exact escapeChar_of_isDigit (isDigit_of_mem_digits mem)

theorem readInt?_toString {n : Int} (h : n.natAbs < 18446744073709551616) :
    readInt? (toString n) = some n := by
  have whole := readNumber?_toString h endsNumeral_nil
  rw [List.append_nil] at whole
  unfold readInt?
  rw [whole]

end Json

section Maps

variable {α : Type} [JsonForm α] [LawfulForm α]

theorem entryOfMember?_entry (e : Int32 × α) :
    entryOfMember? ((toString e.1.toInt : Json.Name), toJson e.2) = some e := by
  have low := e.1.le_toInt
  have high := e.1.toInt_lt
  have number : Json.readInt? (toString e.1.toInt) = some e.1.toInt :=
    Json.readInt?_toString (by omega)
  have key : (ofJson? (.int e.1.toInt) : Option Int32) = some e.1 := ofJson?_toJson e.1
  unfold entryOfMember?
  dsimp only
  rw [if_pos rfl, number]
  show (ofJson? (.int e.1.toInt) : Option Int32).bind _ = _
  rw [key]
  show (ofJson? (toJson e.2) : Option α).bind _ = _
  rw [ofJson?_toJson]
  rfl

theorem mapM_entryOfMember? : ∀ es : List (Int32 × α),
    (es.map fun e => ((toString e.1.toInt : Json.Name), toJson e.2)).mapM entryOfMember? = some es
  | [] => rfl
  | e :: es => by
    rw [List.map_cons, List.mapM_cons, entryOfMember?_entry, mapM_entryOfMember? es]
    rfl

instance : LawfulForm (SortedMap Int32 α) where
  levels := LawfulForm.levels α + 1
  ofJson?_toJson m := by
    show ((m.entries.map fun e => _).mapM entryOfMember?).map SortedMap.ofList = some m
    rw [mapM_entryOfMember?, Option.map_some, m.ofList_entries]
  tidy m := by
    refine Json.tidy_record fun member mem => ?_
    obtain ⟨e, -, rfl⟩ := List.mem_map.1 mem
    exact ⟨Json.tidy_number _, LawfulForm.tidy e.2⟩

end Maps

/-! ## What is in a world -/

instance : LawfulForm StatLevel where
  levels := 1
  ofJson?_toJson l := by
    simp only [JsonForm.ofJson?]
    refine record_bind rfl (by decide) ?_
    repeat refine required_bind rfl ?_
    rfl
  tidy l := by
    refine Json.tidy_record ?_
    simp (disch := decide) [Json.Name.tidy_of, tidy_toJson]

instance : LawfulForm ItemStack where
  levels := 1
  ofJson?_toJson i := by
    simp only [JsonForm.ofJson?]
    refine record_bind rfl (by decide) ?_
    repeat refine required_bind rfl ?_
    rfl
  tidy i := by
    refine Json.tidy_record ?_
    simp (disch := decide) [Json.Name.tidy_of, tidy_toJson]

instance : SolidForm ItemStack := ⟨nofun⟩

instance : LawfulForm Inventory where
  levels := 3
  ofJson?_toJson i := by
    simp only [JsonForm.ofJson?]
    refine record_bind rfl (by decide) ?_
    refine required_bind rfl ?_
    refine defaulted_bind rfl ?_
    rfl
  tidy i := by
    refine Json.tidy_record ?_
    simp (disch := decide) [Json.Name.tidy_of, tidy_toJson]

instance : LawfulForm Player where
  levels := 5
  ofJson?_toJson p := by
    simp only [JsonForm.ofJson?]
    refine record_bind rfl (by decide) ?_
    repeat refine required_bind rfl ?_
    repeat refine defaulted_bind rfl ?_
    rfl
  tidy p := by
    refine Json.tidy_record ?_
    simp (disch := decide) [Json.Name.tidy_of, tidy_toJson]

instance : LawfulForm Npc where
  levels := 3
  ofJson?_toJson n := by
    simp only [JsonForm.ofJson?]
    refine record_bind rfl (by decide) ?_
    repeat refine required_bind rfl ?_
    repeat refine defaulted_bind rfl ?_
    rfl
  tidy n := by
    refine Json.tidy_record ?_
    simp (disch := decide) [Json.Name.tidy_of, tidy_toJson]

instance : LawfulForm Rng where
  levels := 0
  ofJson?_toJson r := by
    show (ofJson? (toJson r.state)).map Rng.mk = some r
    rw [ofJson?_toJson, Option.map_some]
  tidy r := LawfulForm.tidy r.state

/-! ## Events -/

theorem ofJson?_withKind {kind : String} {members : List (Json.Name × Json)}
    (others : ∀ m ∈ members, m.1.text ≠ "kind") (fit : (Json.obj members).isFit) :
    (ofJson? ((Json.obj members).withKind kind) : Option WorldEvent) =
      WorldEvent.ofRecord? kind (.obj members) := by
  show (((Json.obj members).withKind kind).tagged?.bind fun tagged =>
    WorldEvent.ofRecord? tagged.1 tagged.2) = _
  rw [Json.tagged?_withKind others fit, Option.bind_some]

/-- The kind of an event and its own members. -/
theorem exists_json (e : WorldEvent) : ∃ kind members,
    toJson e = (Json.obj members).withKind kind ∧ (Json.obj members).Tidy 3 ∧
    (∀ m ∈ members, m.1.text ≠ "kind") ∧ WorldEvent.ofRecord? kind (.obj members) = some e := by
  cases e <;> (
    refine ⟨_, _, rfl, ?_, ?_, ?_⟩
    · refine Json.tidy_record ?_
      simp (disch := decide) [Json.Name.tidy_of, tidy_toJson]
    · simp
    · simp only [WorldEvent.ofRecord?]
      refine record_bind rfl (by decide) ?_
      repeat refine required_bind rfl ?_
      first
        | rfl
        | refine defaulted_bind rfl ?_
          repeat refine required_bind rfl ?_
          rfl)

instance : LawfulForm WorldEvent where
  levels := 3
  ofJson?_toJson e := by
    obtain ⟨kind, members, form, tidy, others, read⟩ := exists_json e
    rw [form, ofJson?_withKind others tidy.isFit, read]
  tidy e := by
    obtain ⟨kind, members, form, tidy, -, -⟩ := exists_json e
    rw [form]
    exact tidy.withKind

/-! ## Worlds and sessions -/

instance : LawfulForm World where
  levels := 7
  ofJson?_toJson w := by
    simp only [JsonForm.ofJson?]
    refine record_bind rfl (by decide) ?_
    repeat refine defaulted_bind rfl ?_
    rfl
  tidy w := by
    refine Json.tidy_record ?_
    simp (disch := decide) [Json.Name.tidy_of, tidy_toJson]

instance : LawfulForm SessionSnapshot where
  levels := 8
  ofJson?_toJson s := by
    simp only [JsonForm.ofJson?]
    refine record_bind rfl (by decide) ?_
    repeat refine required_bind rfl ?_
    rfl
  tidy s := by
    refine Json.tidy_record ?_
    simp (disch := decide) [Json.Name.tidy_of, tidy_toJson]

instance : LawfulForm SavedSession where
  levels := 9
  ofJson?_toJson s := by
    simp only [JsonForm.ofJson?]
    refine record_bind rfl (by decide) ?_
    repeat refine required_bind rfl ?_
    refine defaulted_bind rfl ?_
    repeat refine required_bind rfl ?_
    rfl
  tidy s := by
    refine Json.tidy_record ?_
    simp (disch := decide) [Json.Name.tidy_of, tidy_toJson]

/-! ## Scripts -/

instance : LawfulForm VarType where
  levels := 0
  ofJson?_toJson t := by cases t <;> rfl
  tidy t := .str t.name

instance : LawfulForm ScriptInfo where
  levels := 2
  ofJson?_toJson i := by
    simp only [JsonForm.ofJson?]
    refine record_bind rfl (by decide) ?_
    repeat refine required_bind rfl ?_
    repeat refine defaulted_bind rfl ?_
    rfl
  tidy i := by
    refine Json.tidy_record ?_
    simp (disch := decide) [Json.Name.tidy_of, tidy_toJson]

instance : SolidForm ScriptInfo := ⟨nofun⟩

instance : LawfulForm Script where
  levels := 3
  ofJson?_toJson s := by
    simp only [JsonForm.ofJson?]
    refine record_bind rfl (by decide) ?_
    refine required_bind rfl ?_
    iterate 5 refine defaulted_bind rfl ?_
    refine required_bind rfl ?_
    repeat refine defaulted_bind rfl ?_
    rfl
  tidy s := by
    refine Json.tidy_record ?_
    simp (disch := decide) [Json.Name.tidy_of, tidy_toJson]

end TickScript
