import TickScript.SortedMap

/-
  Look-ups in a map after an insertion, and the map of a map's entries.

  `get?` is the view through which maps are described: it finds the entries and nothing else, and inserting
  decides the look-up at its own key and at no other.  Where maps are written out, their entries are the
  view: inserting them one after the other puts each behind those before it, so the same map comes of it.
  Where only a part of each value matters, `map` keeps that part, and commutes with everything that is done
  to a map.
-/

namespace TickScript.SortedMap

variable {κ α β : Type}

section Entries

variable [Ord κ] [Std.TransOrd κ]

/-- A key above all others has its place at the end. -/
theorem place_eq_append {k : κ} (v : α) : ∀ {es : List (κ × α)},
    (∀ e ∈ es, compare e.1 k = .lt) → place k v es = es ++ [(k, v)]
  | [], _ => rfl
  | e :: rest, h => by
    obtain ⟨here, there⟩ := List.forall_mem_cons.1 h
    have above : compare k e.1 = .gt := Std.OrientedCmp.gt_iff_lt.2 here
    unfold place
    rw [above]
    dsimp only
    rw [place_eq_append v there]
    rfl

theorem entries_foldl_insert : ∀ (es : List (κ × α)) (m : SortedMap κ α),
    (m.entries ++ es).Pairwise (fun a b => compare a.1 b.1 = .lt) →
    (es.foldl (fun m e => m.insert e.1 e.2) m).entries = m.entries ++ es := by
  intro es
  induction es with
  | nil => intro m _; simp
  | cons e es ih =>
    intro m sorted
    have below : ∀ d ∈ m.entries, compare d.1 e.1 = .lt := by
      intro d mem
      exact (List.pairwise_append.1 sorted).2.2 d mem e List.mem_cons_self
    have placed : (m.insert e.1 e.2).entries = m.entries ++ [e] := place_eq_append e.2 below
    have again := ih (m.insert e.1 e.2)
    rw [placed, List.append_assoc, List.singleton_append] at again
    exact again sorted

/-- The entries of a map, inserted one after the other, are that map again. -/
theorem ofList_entries (m : SortedMap κ α) : ofList m.entries = m := by
  refine ext ?_
  have sorted : ((empty : SortedMap κ α).entries ++ m.entries).Pairwise
      (fun a b => compare a.1 b.1 = .lt) := m.sorted
  exact entries_foldl_insert m.entries empty sorted

omit [Std.TransOrd κ] in
theorem place_map (f : α → β) (k : κ) (v : α) : ∀ es : List (κ × α),
    (place k v es).map (fun e => (e.1, f e.2)) = place k (f v) (es.map fun e => (e.1, f e.2))
  | [] => rfl
  | e :: rest => by
    rw [List.map_cons]
    unfold place
    dsimp only
    cases compare k e.1 with
    | lt | eq => rfl
    | gt => exact congrArg (_ :: ·) (place_map f k v rest)

end Entries

section Map

variable [Ord κ]

/-- The map with the same keys and some part of every value. -/
def map (f : α → β) (m : SortedMap κ α) : SortedMap κ β :=
  ⟨m.entries.map fun e => (e.1, f e.2), List.pairwise_map.2 m.sorted⟩

theorem map_map {γ : Type} (f : α → β) (g : β → γ) (m : SortedMap κ α) :
    (m.map f).map g = m.map (g ∘ f) :=
  ext List.map_map

theorem map_insert [Std.TransOrd κ] (f : α → β) (m : SortedMap κ α) (k : κ) (v : α) :
    (m.insert k v).map f = (m.map f).insert k (f v) :=
  ext (place_map f k v m.entries)

theorem map_erase [DecidableEq κ] (f : α → β) (m : SortedMap κ α) (k : κ) :
    (m.erase k).map f = (m.map f).erase k := by
  refine ext ?_
  show (m.entries.filter _).map _ = (m.entries.map _).filter _
  rw [List.filter_map]
  rfl

theorem get?_map [DecidableEq κ] (f : α → β) (m : SortedMap κ α) (k : κ) :
    (m.map f).get? k = (m.get? k).map f := by
  show (m.entries.map fun e => (e.1, f e.2)).lookup k = (m.entries.lookup k).map f
  induction m.entries with
  | nil => rfl
  | cons e rest ih =>
    rw [List.map_cons, List.lookup_cons, List.lookup_cons]
    cases k == e.1 with
    | false => exact ih
    | true => rfl

end Map

variable [DecidableEq κ]

theorem lookup_cons_of_ne {j : κ} {e : κ × α} {rest : List (κ × α)} (h : j ≠ e.1) :
    (e :: rest).lookup j = rest.lookup j := by
  rw [List.lookup_cons, beq_eq_false_iff_ne.2 h]

variable [Ord κ] [Std.LawfulEqOrd κ]

theorem lookup_place_self (k : κ) (v : α) : ∀ es : List (κ × α), (place k v es).lookup k = some v
  | [] => List.lookup_cons_self
  | e :: rest => by
    unfold place
    split
    · exact List.lookup_cons_self
    · exact List.lookup_cons_self
    next gt =>
      have ne : k ≠ e.1 := by
        intro h
        rw [h, Std.LawfulEqOrd.compare_eq_iff_eq.2 rfl] at gt
        nomatch gt
      rw [lookup_cons_of_ne ne]
      exact lookup_place_self k v rest

theorem lookup_place_of_ne {j k : κ} (v : α) (h : j ≠ k) :
    ∀ es : List (κ × α), (place k v es).lookup j = es.lookup j
  | [] => lookup_cons_of_ne h
  | e :: rest => by
    unfold place
    split
    · exact lookup_cons_of_ne h
    next eq =>
      have hk : k = e.1 := Std.LawfulEqOrd.compare_eq_iff_eq.1 eq
      rw [lookup_cons_of_ne h, lookup_cons_of_ne (hk ▸ h)]
    next gt =>
      rw [List.lookup_cons, List.lookup_cons, lookup_place_of_ne v h rest]

/-- In a list with ascending keys the look-up finds every entry. -/
theorem lookup_eq_some_iff_mem {k : κ} {v : α} : ∀ {es : List (κ × α)},
    es.Pairwise (fun a b => compare a.1 b.1 = .lt) → (es.lookup k = some v ↔ (k, v) ∈ es)
  | [], _ => ⟨nofun, nofun⟩
  | e :: rest, sorted => by
    obtain ⟨head, tail⟩ := List.pairwise_cons.1 sorted
    rw [List.mem_cons]
    by_cases here : k = e.1
    · subst here
      rw [List.lookup_cons_self]
      constructor
      · rintro ⟨⟩
        exact .inl rfl
      · rintro (same | later)
        · rw [← same]
        · have above := head _ later
          rw [Std.LawfulEqOrd.compare_eq_iff_eq.2 rfl] at above
          nomatch above
    · rw [lookup_cons_of_ne here, lookup_eq_some_iff_mem tail]
      exact ⟨.inr, fun h => h.resolve_left fun same => here (congrArg (·.1) same)⟩

theorem get?_eq_some_iff_mem (m : SortedMap κ α) {k : κ} {v : α} :
    m.get? k = some v ↔ (k, v) ∈ m.entries :=
  lookup_eq_some_iff_mem m.sorted

/-- What is found without a key was there with it. -/
theorem get?_of_get?_erase {m : SortedMap κ α} {j k : κ} {v : α} (h : (m.erase j).get? k = some v) :
    m.get? k = some v := by
  rw [get?_eq_some_iff_mem] at h ⊢
  exact (List.mem_filter.1 h).1

variable [Std.TransOrd κ]

@[simp] theorem get?_insert_self (m : SortedMap κ α) (k : κ) (v : α) :
    (m.insert k v).get? k = some v :=
  lookup_place_self k v m.entries

theorem get?_insert_of_ne (m : SortedMap κ α) {j k : κ} (v : α) (h : j ≠ k) :
    (m.insert k v).get? j = m.get? j :=
  lookup_place_of_ne v h m.entries

/-- What is found in the map of a list of entries is one of them. -/
theorem mem_of_get?_ofList {es : List (κ × α)} {k : κ} {v : α}
    (h : (ofList es).get? k = some v) : (k, v) ∈ es := by
  suffices inserted : ∀ (es : List (κ × α)) (m : SortedMap κ α),
      (es.foldl (fun m e => m.insert e.1 e.2) m).get? k = some v → (k, v) ∈ es ∨ m.get? k = some v from
    (inserted es empty h).resolve_right nofun
  intro es
  induction es with
  | nil => exact fun _ there => .inr there
  | cons e es ih =>
    intro m there
    rcases ih (m.insert e.1 e.2) there with later | here
    · exact .inl (List.mem_cons_of_mem _ later)
    · by_cases same : k = e.1
      · subst same
        rw [get?_insert_self] at here
        exact .inl (Option.some.inj here ▸ List.mem_cons_self)
      · rw [get?_insert_of_ne m e.2 same] at here
        exact .inr here

theorem place_lookup {k : κ} {v : α} : ∀ {es : List (κ × α)},
    es.Pairwise (fun a b => compare a.1 b.1 = .lt) → es.lookup k = some v → place k v es = es
  | [], _, found => nomatch found
  | e :: rest, sorted, found => by
    obtain ⟨head, tail⟩ := List.pairwise_cons.1 sorted
    by_cases here : k = e.1
    · subst here
      rw [List.lookup_cons_self] at found
      cases found
      unfold place
      rw [Std.LawfulEqOrd.compare_eq_iff_eq.2 rfl]
    · rw [lookup_cons_of_ne here] at found
      -- the key is among the later ones, which are all above the first
      obtain ⟨before, after, split, -⟩ := List.lookup_eq_some_iff.1 found
      have above : compare e.1 k = .lt := head (k, v) (by rw [split]; simp)
      unfold place
      rw [Std.OrientedCmp.gt_iff_lt.2 above]
      exact congrArg (e :: ·) (place_lookup tail found)

/-- Inserting what is there already changes nothing. -/
theorem insert_get? (m : SortedMap κ α) {k : κ} {v : α} (h : m.get? k = some v) :
    m.insert k v = m :=
  ext (place_lookup m.sorted h)

/-- A change that leaves the part of a value alone leaves the part of the map alone. -/
theorem map_insert_of_eq (f : α → β) (m : SortedMap κ α) {k : κ} {v w : α} (there : m.get? k = some v)
    (same : f w = f v) : (m.insert k w).map f = m.map f := by
  rw [map_insert, same]
  exact insert_get? _ ((m.get?_map f k).trans (congrArg (Option.map f) there))

end TickScript.SortedMap
