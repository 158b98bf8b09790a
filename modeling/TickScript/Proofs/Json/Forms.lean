import Mathlib.Data.List.Nodup
import TickScript.Json.Form
import TickScript.Proofs.Json.Reading

/-
  Forms that lose nothing.

  The form of a type is LAWFUL if every value is read back from the JSON value that it is written as, and
  if that JSON value is tidy; then the value is read back from its text, too (`ofText?_toText`).  Lawful
  forms are built like the forms themselves: a list of a lawful form is lawful, a record is lawful if the
  forms of its members are.

  An option is written as its value or as `null`, so it is lawful only over a form that writes no value
  as `null`; such a form is SOLID.
-/

namespace TickScript

/-- Types whose values survive being written and read. -/
class LawfulForm (α : Type) [JsonForm α] where
  /-- How deep arrays and objects are nested in what is written. -/
  levels : Nat
  ofJson?_toJson (a : α) : ofJson? (toJson a) = some a
  tidy (a : α) : (toJson a).Tidy levels

/-- Types of which no value is written as `null`. -/
class SolidForm (α : Type) [JsonForm α] : Prop where
  toJson_ne_null (a : α) : toJson a ≠ .null

export LawfulForm (ofJson?_toJson)
export SolidForm (toJson_ne_null)

attribute [simp] ofJson?_toJson

variable {α : Type} [JsonForm α]

theorem tidy_toJson [LawfulForm α] {n : Nat} (h : LawfulForm.levels α ≤ n) (a : α) :
    (toJson a).Tidy n :=
  (LawfulForm.tidy a).mono h

/-- A value is read back from its text, if it is not nested too deeply for a reader. -/
theorem ofText?_toText [LawfulForm α] (h : LawfulForm.levels α ≤ Json.maxDepth) (a : α) :
    ofText? (toText a) = some a := by
  unfold ofText? toText
  rw [Json.read?_compact (tidy_toJson h a), Option.bind_some, ofJson?_toJson]

/-! ## Scalars -/

instance : LawfulForm Bool where
  levels := 0
  ofJson?_toJson _ := rfl
  tidy b := .bool b

instance : LawfulForm String where
  levels := 0
  ofJson?_toJson _ := rfl
  tidy s := .str s

instance : SolidForm Bool := ⟨nofun⟩

instance : SolidForm String := ⟨nofun⟩

/-- A number that lies between the limits is read, and turned back into the value that it stands for. -/
theorem map_intBetween?_int {β : Type} {least greatest n : Int} {g : Int → β} {b : β}
    (low : least ≤ n) (high : n ≤ greatest) (back : g n = b) :
    ((Json.int n).intBetween? least greatest).map g = some b := by
  rw [Json.intBetween?, decide_eq_true low, decide_eq_true high, Bool.and_self, if_pos rfl,
    Option.map_some, back]

instance : LawfulForm Int32 where
  levels := 0
  ofJson?_toJson n := by
    have low := n.le_toInt
    have high := n.toInt_lt
    exact map_intBetween?_int (by omega) (by omega) (Int32.ofInt_toInt n)
  tidy n := by
    have low := n.le_toInt
    have high := n.toInt_lt
    exact .int (by omega)

instance : LawfulForm Int64 where
  levels := 0
  ofJson?_toJson n := by
    have low := n.le_toInt
    have high := n.toInt_lt
    exact map_intBetween?_int (by omega) (by omega) (Int64.ofInt_toInt n)
  tidy n := by
    have low := n.le_toInt
    have high := n.toInt_lt
    exact .int (by omega)

instance : LawfulForm UInt32 where
  levels := 0
  ofJson?_toJson n := by
    have high := n.toNat_lt
    refine map_intBetween?_int (by omega) (by omega) ?_
    rw [Int.toNat_natCast, UInt32.ofNat_toNat]
  tidy n := by
    have high := n.toNat_lt
    exact .int (by omega)

instance : LawfulForm UInt64 where
  levels := 0
  ofJson?_toJson n := by
    have high := n.toNat_lt
    refine map_intBetween?_int (by omega) (by omega) ?_
    rw [Int.toNat_natCast, UInt64.ofNat_toNat]
  tidy n := by
    have high := n.toNat_lt
    exact .int (by omega)

instance : SolidForm Int32 := ⟨nofun⟩

instance : SolidForm Int64 := ⟨nofun⟩

instance : SolidForm UInt32 := ⟨nofun⟩

instance : SolidForm UInt64 := ⟨nofun⟩

/-! ## Containers -/

instance [LawfulForm α] [SolidForm α] : LawfulForm (Option α) where
  levels := LawfulForm.levels α
  ofJson?_toJson
    | none => rfl
    | some a => by
      have solid := toJson_ne_null a
      show (match toJson a with
        | .null => some none
        | v => (ofJson? v).map some) = _
      split
      next null => exact absurd null solid
      next => rw [ofJson?_toJson, Option.map_some]
  tidy
    | none => .null
    | some a => LawfulForm.tidy a

theorem mapM_ofJson?_toJson [LawfulForm α] : ∀ as : List α,
    (as.map toJson).mapM (ofJson? : Json → Option α) = some as
  | [] => rfl
  | a :: as => by
    rw [List.map_cons, List.mapM_cons, ofJson?_toJson, mapM_ofJson?_toJson as]
    rfl

instance [LawfulForm α] : LawfulForm (List α) where
  levels := LawfulForm.levels α + 1
  ofJson?_toJson as := mapM_ofJson?_toJson as
  tidy as := by
    refine .arr fun v hv => ?_
    obtain ⟨a, _, rfl⟩ := List.mem_map.1 hv
    exact LawfulForm.tidy a

instance [LawfulForm α] : LawfulForm (Array α) where
  levels := LawfulForm.levels α + 1
  ofJson?_toJson as := by
    show ((ofJson? (toJson as.toList) : Option (List α)).map List.toArray) = _
    rw [ofJson?_toJson, Option.map_some, Array.toArray_toList]
  tidy as := LawfulForm.tidy as.toList

instance : SolidForm (List α) := ⟨nofun⟩

instance : SolidForm (Array α) := ⟨nofun⟩

/-! ## Records -/

namespace Json

theorem Name.tidy_of {text : String} (h : text.toList.all fun c => escapeChar c = [c]) :
    Name.Tidy ⟨text, true⟩ :=
  ⟨rfl, fun c hc => of_decide_eq_true (List.all_eq_true.1 h c hc)⟩

theorem tidy_record {levels : Nat} {members : List (Name × Json)}
    (h : ∀ m ∈ members, m.1.Tidy ∧ m.2.Tidy levels) : (Json.obj members).Tidy (levels + 1) :=
  .obj (fun m hm => (h m hm).1) fun m hm => (h m hm).2

/-- A record of which no known name is given twice is read with all its members. -/
theorem record?_of_count_le {known : List String} {members : List (Name × Json)}
    (once : ∀ name ∈ known, (members.map fun m => m.1.text).count name ≤ 1) :
    (Json.obj members).record? known = some (members.map fun m => (m.1.text, m.2)) := by
  have counted : ∀ name, ((Json.obj members).members.filter (·.1 = name)).length =
      (members.map fun m => m.1.text).count name := by
    intro name
    rw [Json.members, List.count_eq_length_filter, List.filter_map, List.filter_map,
      List.length_map, List.length_map]
    rfl
  unfold record?
  dsimp only
  rw [if_pos (List.all_eq_true.2 fun name h => decide_eq_true (counted name ▸ once name h))]
  rfl

/-- A record that gives just the known names is read with all its members. -/
theorem record?_obj {known : List String} {members : List (Name × Json)}
    (names : (members.map fun m => m.1.text) = known) (nodup : known.Nodup) :
    (Json.obj members).record? known = some (members.map fun m => (m.1.text, m.2)) :=
  record?_of_count_le fun name _ => names ▸ List.nodup_iff_count_le_one.1 nodup name

section Members

variable [LawfulForm α] {β : Type} {name : String} {members : List (String × Json)} {a : α}
  {k : α → Option β} {b : β}

/-- A record that gives just the known names is read member by member. -/
theorem record_bind {known : List String} {given : List (Name × Json)} {k : List (String × Json) → Option β}
    (names : (given.map fun m => m.1.text) = known) (nodup : known.Nodup)
    (rest : k (given.map fun m => (m.1.text, m.2)) = some b) :
    ((Json.obj given).record? known >>= k) = some b := by
  rw [record?_obj names nodup]
  exact rest

/-- A member that is found under its name is read, and then the others are. -/
theorem required_bind (found : members.lookup name = some (toJson a)) (rest : k a = some b) :
    (required name members >>= k) = some b := by
  unfold required
  rw [found]
  show (ofJson? (toJson a)).bind k = some b
  rw [ofJson?_toJson, Option.bind_some, rest]

theorem defaulted_bind {default : α} (found : members.lookup name = some (toJson a))
    (rest : k a = some b) : (defaulted name default members >>= k) = some b := by
  unfold defaulted
  rw [found]
  show (ofJson? (toJson a)).bind k = some b
  rw [ofJson?_toJson, Option.bind_some, rest]

end Members

/-- The alternative and the record of the other members are read from a tagged object. -/
theorem tagged?_withKind {kind : String} {members : List (Name × Json)}
    (others : ∀ m ∈ members, m.1.text ≠ "kind") (fit : (Json.obj members).isFit) :
    ((Json.obj members).withKind kind).tagged? = some (kind, .obj members) := by
  have known : (Json.obj (("kind", .str kind) :: members)).record? ["kind"] =
      some (("kind", .str kind) :: members.map fun m => (m.1.text, m.2)) := by
    refine record?_of_count_le fun name h => ?_
    cases List.mem_singleton.1 h
    have absent : "kind" ∉ members.map fun m => m.1.text := fun mem => by
      obtain ⟨m, hm, same⟩ := List.mem_map.1 mem
      exact others m hm same
    have once : List.count "kind" ("kind" :: members.map fun m => m.1.text) = 1 := by
      rw [List.count_cons_self, List.count_eq_zero_of_not_mem absent]
    exact Nat.le_of_eq once
  have rest : List.filter (fun m : Name × Json => m.1.text ≠ "kind")
      (("kind", .str kind) :: members) = members := by
    rw [List.filter_cons_of_neg (by simp), List.filter_eq_self]
    exact fun m hm => decide_eq_true (others m hm)
  unfold withKind tagged?
  dsimp only
  rw [known]
  have whole : (Json.obj (("kind", .str kind) :: members)).isFit := by
    rw [Json.isFit, membersFit, Json.isFit]
    exact fit
  show (if (Json.obj (("kind", .str kind) :: members)).isFit then _ else none) = _
  rw [if_pos whole, rest]

theorem Tidy.withKind {levels : Nat} {kind : String} {members : List (Name × Json)}
    (tidy : (Json.obj members).Tidy levels) : ((Json.obj members).withKind kind).Tidy levels := by
  cases tidy with
  | obj names values =>
    refine .obj (List.forall_mem_cons.2 ⟨Name.tidy_of (by decide), names⟩) ?_
    exact List.forall_mem_cons.2 ⟨.str kind, values⟩

end Json

end TickScript
