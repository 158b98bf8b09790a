/-
  Finite maps as strictly ascending association lists.

  Everything the scripts address by number (params, npcs, variables, inventories, …) lives in such a
  map, and so does a pack's list of files, keyed by path.  The order is part of the type: two maps
  with the same look-ups are EQUAL, so a world or a snapshot that was written out and read back can be
  compared with `=`, and walking a map always meets its keys in ascending order.
-/

namespace TickScript

/-- A finite map whose entries are kept in strictly ascending key order. -/
structure SortedMap (κ α : Type) [Ord κ] where
  entries : List (κ × α)
  sorted : entries.Pairwise (fun a b => compare a.1 b.1 = .lt)

namespace SortedMap

variable {κ α β : Type} [Ord κ]

theorem ext {m n : SortedMap κ α} (h : m.entries = n.entries) : m = n := by
  cases m; cases n; cases h; rfl

instance [DecidableEq κ] [DecidableEq α] : DecidableEq (SortedMap κ α) := fun m n =>
  if h : m.entries = n.entries then isTrue (ext h) else isFalse (fun e => h (congrArg entries e))

/-- The map with no entries. -/
def empty : SortedMap κ α := ⟨[], .nil⟩

instance : Inhabited (SortedMap κ α) := ⟨empty⟩

/-- What `k` stands for, if it is a key. -/
def get? [DecidableEq κ] (m : SortedMap κ α) (k : κ) : Option α := m.entries.lookup k

/-- Whether `k` is a key. -/
def contains [DecidableEq κ] (m : SortedMap κ α) (k : κ) : Bool := (m.get? k).isSome

/-- The number of entries. -/
def size (m : SortedMap κ α) : Nat := m.entries.length

/-- The keys in ascending order. -/
def keys (m : SortedMap κ α) : List κ := m.entries.map (·.1)

/-- The values in the order of their keys. -/
def values (m : SortedMap κ α) : List α := m.entries.map (·.2)

/-! ## Insertion: walk to the key's place, replace an equal key, keep the order -/

/-- Puts `(k, v)` at its place, over an entry with the same key. -/
def place (k : κ) (v : α) : List (κ × α) → List (κ × α)
  | [] => [(k, v)]
  | e :: rest =>
    match compare k e.1 with
    | .lt => (k, v) :: e :: rest
    | .eq => (k, v) :: rest
    | .gt => e :: place k v rest

theorem mem_place {k : κ} {v : α} {x : κ × α} :
    ∀ {es : List (κ × α)}, x ∈ place k v es → x = (k, v) ∨ x ∈ es
  | [], h => by simp_all [place]
  | e :: rest, h => by
    unfold place at h
    split at h
    · simpa using h
    · rcases List.mem_cons.1 h with h | h
      · exact .inl h
      · exact .inr (List.mem_cons_of_mem _ h)
    · rcases List.mem_cons.1 h with h | h
      · exact .inr (h ▸ List.mem_cons_self)
      · rcases mem_place h with h | h
        · exact .inl h
        · exact .inr (List.mem_cons_of_mem _ h)

theorem sorted_place [Std.TransOrd κ] {k : κ} {v : α} : ∀ {es : List (κ × α)},
    es.Pairwise (fun a b => compare a.1 b.1 = .lt) →
    (place k v es).Pairwise (fun a b => compare a.1 b.1 = .lt)
  | [], _ => by simp [place]
  | e :: rest, h => by
    obtain ⟨head, tail⟩ := List.pairwise_cons.1 h
    unfold place
    split
    next lt =>
      refine List.pairwise_cons.2 ⟨fun x hx => ?_, h⟩
      rcases List.mem_cons.1 hx with rfl | hx
      · exact lt
      · exact Std.TransCmp.lt_trans lt (head x hx)
    next eq =>
      exact List.pairwise_cons.2
        ⟨fun x hx => Std.TransCmp.lt_of_eq_of_lt eq (head x hx), tail⟩
    next gt =>
      refine List.pairwise_cons.2 ⟨fun x hx => ?_, sorted_place tail⟩
      rcases mem_place hx with rfl | hx
      · exact Std.OrientedCmp.gt_iff_lt.1 gt
      · exact head x hx

/-- The map with `k` standing for `v`, whatever it stood for before. -/
def insert [Std.TransOrd κ] (m : SortedMap κ α) (k : κ) (v : α) : SortedMap κ α :=
  ⟨place k v m.entries, sorted_place m.sorted⟩

/-- The map without the key `k`. -/
def erase [DecidableEq κ] (m : SortedMap κ α) (k : κ) : SortedMap κ α :=
  ⟨m.entries.filter (fun e => e.1 ≠ k), m.sorted.filter _⟩

/-- The map of a list of entries; of two entries with one key the later wins. -/
def ofList [Std.TransOrd κ] (es : List (κ × α)) : SortedMap κ α :=
  es.foldl (fun m e => m.insert e.1 e.2) empty

end SortedMap

end TickScript
