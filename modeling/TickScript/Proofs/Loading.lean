import TickScript.Pack
import TickScript.Proofs.SortedMap

/-
  What was loaded is what is found.

  A registry is filled entry by entry from tables of handlers, and a library script by script.  Both are
  folds that stop at the first conflict, so what can be found afterwards is an invariant of the fold: a
  handler found under a number is listed in one of the tables for an opcode of that number, and a script
  found under an id has that id.  The tables of a config are indexed without conflicts, and what is found
  in one of them under an id has that id, too.  Both hold of every pack that was read from files.
-/

namespace TickScript

/-- A step of a computation that may fail succeeded, and so did what follows. -/
theorem Except.bind_eq_ok {ε α β : Type} {x : Except ε α} {k : α → Except ε β} {b : β} :
    x >>= k = .ok b ↔ ∃ a, x = .ok a ∧ k a = .ok b := by
  cases x with
  | error e => exact ⟨nofun, fun ⟨_, h, _⟩ => nomatch h⟩
  | ok a => exact ⟨fun h => ⟨a, rfl, h⟩, fun ⟨_, h, h'⟩ => by cases h; exact h'⟩

theorem Except.map_eq_ok {ε α β : Type} {x : Except ε α} {g : α → β} {b : β} :
    x.map g = .ok b ↔ ∃ a, x = .ok a ∧ g a = b := by
  cases x with
  | error e => exact ⟨nofun, fun ⟨_, h, _⟩ => nomatch h⟩
  | ok a =>
    refine ⟨fun h => ⟨a, rfl, Except.ok.inj h⟩, fun ⟨_, h, h'⟩ => ?_⟩
    cases h
    exact congrArg _ h'

/-- Naming the failures differently does not touch what succeeds. -/
theorem Except.mapError_eq_ok {ε ε' α : Type} {x : Except ε α} {f : ε → ε'} {a : α} :
    x.mapError f = .ok a ↔ x = .ok a := by
  cases x with
  | error e => constructor <;> intro h <;> cases h
  | ok b => constructor <;> intro h <;> cases h <;> rfl

/-- What every step of a fold keeps holds at its end. -/
theorem foldlM_invariant {ε α β : Type} {f : β → α → Except ε β} {P : β → Prop} :
    ∀ {l : List α} {b b' : β}, (∀ a ∈ l, ∀ {b b'}, P b → f b a = .ok b' → P b') → P b →
      l.foldlM f b = .ok b' → P b'
  | [], b, b', _, hb, h => by
    cases h
    exact hb
  | a :: l, b, b', step, hb, h => by
    rw [List.foldlM_cons] at h
    obtain ⟨c, hc, rest⟩ := Except.bind_eq_ok.1 h
    exact foldlM_invariant (fun a' ha => step a' (List.mem_cons_of_mem a ha))
      (step a List.mem_cons_self hb hc) rest

theorem position?_eq_some {n : Int32} {k : Nat} (h : position? n = some k) :
    0 ≤ n ∧ n.toNatClampNeg = k := by
  unfold position? at h
  split at h
  · nomatch h
  next nonneg => exact ⟨Int32.not_lt.1 nonneg, Option.some.inj h⟩

theorem position?_ofNat {n : Nat} (h : n < 2147483648) : position? (Int32.ofNat n) = some n := by
  have toInt : (Int32.ofNat n).toInt = n := by
    rw [Int32.toInt_ofNat', Int.bmod_def]
    simp only [Int32.size]
    omega
  have nonneg : ¬ Int32.ofNat n < 0 := by
    rw [Int32.lt_iff_toInt_lt, toInt]
    exact Int.not_lt.2 (Int.natCast_nonneg n)
  unfold position?
  rw [if_neg nonneg, Int32.toNatClampNeg, toInt, Int.toNat_natCast]

/-- Where an instruction is found, the position lies inside the script. -/
theorem Script.opcode?_eq_some {s : Script} {pc id : Int32} (h : s.opcode? pc = some id) :
    0 ≤ pc.toInt ∧ pc.toInt < s.length ∧ s.opcodes[pc.toNatClampNeg]? = some id := by
  obtain ⟨n, position, there⟩ := Option.bind_eq_some_iff.1 h
  obtain ⟨nonneg, rfl⟩ := position?_eq_some position
  have nonneg : 0 ≤ pc.toInt := Int32.le_iff_toInt_le.1 nonneg
  obtain ⟨inside, -⟩ := Array.getElem?_eq_some_iff.1 there
  refine ⟨nonneg, ?_, there⟩
  unfold Int32.toNatClampNeg at inside
  unfold Script.length
  omega

/-! ## Registries -/

theorem Opcode.number_lt (o : Opcode) : o.number < 2147483648 := by cases o <;> decide

theorem Opcode.position?_id (o : Opcode) : position? o.id = some o.number :=
  position?_ofNat o.number_lt

namespace Registry

variable {η : Type}

/-- The registry finds the entries of a list, each at the number of its opcode, and nothing else. -/
def Holds (r : Registry η) (listed : List (Opcode × η)) : Prop :=
  ∀ n e, r.entries[n]? = some (some e) ↔ e ∈ listed ∧ e.1.number = n

theorem holds_empty : (empty : Registry η).Holds [] := by
  intro n e
  constructor
  · intro h
    exact nomatch (@Array.getElem?_empty (Option (Opcode × η)) n).symm.trans h
  · intro h
    exact absurd h.1 List.not_mem_nil

/-- The gaps appended hold nothing. -/
theorem getElem?_padded {r : Registry η} {position n : Nat} {e : Opcode × η} :
    (r.padded position)[n]? = some (some e) ↔ r.entries[n]? = some (some e) := by
  unfold padded
  rw [Array.getElem?_append]
  split
  · exact Iff.rfl
  next outside =>
    rw [Array.getElem?_replicate, Array.getElem?_eq_none (Nat.not_lt.1 outside)]
    split <;> exact ⟨by rintro ⟨⟩, by rintro ⟨⟩⟩

theorem size_padded (r : Registry η) (position : Nat) : position < (r.padded position).size := by
  unfold padded
  rw [Array.size_append, Array.size_replicate]
  omega

/-- A handler for an opcode of which there is none yet is added. -/
theorem Holds.claim {r : Registry η} {listed : List (Opcode × η)} (hr : r.Holds listed)
    {e : Opcode × η} (fresh : e.1.number ∉ listed.map (·.1.number)) :
    ∃ r', r.claim e = .ok r' ∧ r'.Holds (e :: listed) := by
  refine ⟨⟨(r.padded e.1.number).setIfInBounds e.1.number (some e)⟩, ?_, fun n d => ?_⟩
  · unfold Registry.claim
    dsimp only
    split
    next d taken =>
      obtain ⟨mem, same⟩ := (hr _ d).1 (getElem?_padded.1 taken)
      exact absurd (same ▸ List.mem_map_of_mem mem) fresh
    · rfl
  · rw [Array.getElem?_setIfInBounds]
    by_cases same : e.1.number = n
    · rw [if_pos same, if_pos (same ▸ r.size_padded _)]
      constructor
      · intro h
        cases h
        exact ⟨List.mem_cons_self, same⟩
      · rintro ⟨mem, number⟩
        rcases List.mem_cons.1 mem with rfl | mem
        · rfl
        · exact absurd (same.trans number.symm ▸ List.mem_map_of_mem mem) fresh
    · rw [if_neg same, getElem?_padded, hr n d, List.mem_cons]
      constructor
      · exact fun h => ⟨.inr h.1, h.2⟩
      · rintro ⟨rfl | mem, number⟩
        · exact absurd number same
        · exact ⟨mem, number⟩

theorem Holds.congr {r : Registry η} {listed listed' : List (Opcode × η)} (hr : r.Holds listed)
    (h : ∀ e, e ∈ listed ↔ e ∈ listed') : r.Holds listed' :=
  fun n e => by rw [← h e]; exact hr n e

theorem Holds.claimAll : ∀ {table listed : List (Opcode × η)} {r : Registry η}, r.Holds listed →
    ((listed ++ table).map (·.1.number)).Nodup →
    ∃ r', r.claimAll table = .ok r' ∧ r'.Holds (listed ++ table)
  | [], listed, r, hr, _ => ⟨r, rfl, by rw [List.append_nil]; exact hr⟩
  | e :: table, listed, r, hr, nodup => by
    have moved : listed ++ e :: table = listed ++ [e] ++ table := (List.append_cons ..)
    rw [moved] at nodup ⊢
    have fresh : e.1.number ∉ listed.map (·.1.number) := by
      rw [List.map_append, List.map_append] at nodup
      have apart := (List.nodup_append.1 (List.nodup_append.1 nodup).1).2.2
      exact fun h => apart _ h _ List.mem_cons_self rfl
    obtain ⟨r₁, claimed, h₁⟩ := hr.claim fresh
    have h₁ : r₁.Holds (listed ++ [e]) := h₁.congr fun d => by
      rw [List.mem_append, List.mem_singleton, List.mem_cons, or_comm]
    obtain ⟨r₂, rest, h₂⟩ := h₁.claimAll nodup
    refine ⟨r₂, ?_, h₂⟩
    unfold Registry.claimAll at rest ⊢
    rw [List.foldlM_cons, claimed]
    exact rest

theorem claimAll_append (r : Registry η) (table rest : List (Opcode × η)) :
    r.claimAll (table ++ rest) = r.claimAll table >>= (·.claimAll rest) :=
  List.foldlM_append

/-- How the entries are divided into tables does not matter. -/
theorem build_eq (tables : List (List (Opcode × η))) :
    build tables = empty.claimAll tables.flatten := by
  suffices h : ∀ r : Registry η, tables.foldlM Registry.claimAll r = r.claimAll tables.flatten from
    h empty
  induction tables with
  | nil => exact fun _ => rfl
  | cons table rest ih =>
    intro r
    rw [List.foldlM_cons, List.flatten_cons, claimAll_append, funext ih]

/-- Tables without a clash are merged: what they list is what is found. -/
theorem build_holds {tables : List (List (Opcode × η))}
    (nodup : (tables.flatten.map (·.1.number)).Nodup) :
    ∃ r, build tables = .ok r ∧ r.Holds tables.flatten := by
  rw [build_eq]
  exact holds_empty.claimAll nodup

/-- The entries that are found are those listed for an opcode of that number. -/
theorem Holds.entry?_eq_some {r : Registry η} {listed : List (Opcode × η)} (hr : r.Holds listed)
    {id : Int32} {e : Opcode × η} : r.entry? id = some e ↔ e.1.id = id ∧ e ∈ listed := by
  unfold entry?
  constructor
  · intro he
    obtain ⟨n, hn, he⟩ := Option.bind_eq_some_iff.1 he
    obtain ⟨slot, hslot, rfl⟩ := Option.bind_eq_some_iff.1 he
    obtain ⟨mem, number⟩ := (hr n e).1 hslot
    obtain ⟨nonneg, hn⟩ := position?_eq_some hn
    refine ⟨?_, mem⟩
    rw [Opcode.id, number, ← hn, Int32.ofNat_toNatClampNeg id nonneg]
  · rintro ⟨rfl, mem⟩
    rw [e.1.position?_id]
    show Option.bind r.entries[e.1.number]? id = _
    rw [(hr e.1.number e).2 ⟨mem, rfl⟩]
    rfl

theorem Holds.handler?_eq_some {r : Registry η} {listed : List (Opcode × η)} (hr : r.Holds listed)
    {id : Int32} {h : η} : r.handler? id = some h ↔ ∃ o, o.id = id ∧ (o, h) ∈ listed := by
  unfold handler?
  constructor
  · intro found
    obtain ⟨e, he, rfl⟩ := Option.map_eq_some_iff.1 found
    exact ⟨e.1, hr.entry?_eq_some.1 he⟩
  · rintro ⟨o, he⟩
    have there : r.entry? id = some (o, h) := hr.entry?_eq_some.2 he
    rw [there]
    rfl

end Registry

/-! ## Configs -/

namespace Config

theorem entry_eq_ok {α : Type} {table : ConfigTable} {m : SortedMap Int32 α} {id : Int32}
    {e : α} : entry table m id = .ok e ↔ m.get? id = some e := by
  unfold entry
  cases m.get? id with
  | none => exact ⟨nofun, nofun⟩
  | some d => constructor <;> intro h <;> cases h <;> rfl

/-- Entries are found under their ids. -/
theorem id_of_get?_indexed {α : Type} {id : α → Int32} {entries : List α} {k : Int32} {e : α}
    (found : (indexed id entries).get? k = some e) : id e = k := by
  obtain ⟨d, -, same⟩ := List.mem_map.1 (SortedMap.mem_of_get?_ofList found)
  cases same
  rfl

/-- Every row of the database is kept under its own id. -/
def KeepsRowIds (c : Config) : Prop := ∀ id row, c.dbRows.get? id = some row → row.id = id

theorem keepsRowIds_empty : empty.KeepsRowIds := fun _ _ found => nomatch found

/-- So it is in all tables that are read from a document. -/
theorem keepsRowIds_ofJson? {v : Json} {c : Config} (read : ofJson? v = some c) : c.KeepsRowIds := by
  unfold ofJson? at read
  simp only [Option.bind_eq_bind, Option.bind_eq_some_iff] at read
  obtain ⟨members, -, params, -, npcs, -, locs, -, objs, -, enums, -, tables, -, rows, -, built⟩ := read
  cases built
  exact fun id row found => id_of_get?_indexed found

end Config

/-! ## Libraries -/

namespace Library

/-- Every script is kept under its own id. -/
def KeepsIds (l : Library) : Prop := ∀ id s, l.get? id = some s → s.id = id

theorem keepsIds_empty : empty.KeepsIds := fun _ _ h => by cases h

/-- What is found after a script was added is that script, under its id, or was found before. -/
theorem get?_add {l l' : Library} {s found : Script} {id : Int32} (h : l.add s = .ok l')
    (there : l'.get? id = some found) : id = s.id ∧ found = s ∨ l.get? id = some found := by
  unfold add at h
  split at h
  · cases h
  · cases h
    change (l.byId.insert s.id s).get? id = some found at there
    by_cases same : id = s.id
    · rw [same, SortedMap.get?_insert_self] at there
      exact .inl ⟨same, (Option.some.inj there).symm⟩
    · rw [SortedMap.get?_insert_of_ne l.byId s same] at there
      exact .inr there

theorem keepsIds_add {l l' : Library} {s : Script} (hl : l.KeepsIds) (h : l.add s = .ok l') :
    l'.KeepsIds := by
  intro id found there
  rcases get?_add h there with ⟨same, rfl⟩ | before
  · exact same.symm
  · exact hl id found before

theorem keepsIds_ofScripts {scripts : List Script} {l : Library} (h : ofScripts scripts = .ok l) :
    l.KeepsIds :=
  foldlM_invariant (fun _ _ _ _ => keepsIds_add) keepsIds_empty h

/-- Only what was loaded is found. -/
theorem mem_of_get?_ofScripts {scripts : List Script} {l : Library} (h : ofScripts scripts = .ok l)
    {id : Int32} {s : Script} (found : l.get? id = some s) : s ∈ scripts := by
  refine foldlM_invariant (P := fun l => ∀ id s, l.get? id = some s → s ∈ scripts) ?_ ?_ h id s found
  · intro a mem l l' before added id s there
    rcases get?_add added there with ⟨-, rfl⟩ | there
    · exact mem
    · exact before id s there
  · intro id s there
    cases there

theorem require_eq_ok {l : Library} {id : Int32} {s : Script} :
    l.require id = .ok s ↔ l.get? id = some s := by
  unfold require
  cases l.get? id with
  | none => constructor <;> intro h <;> cases h
  | some s' => constructor <;> intro h <;> cases h <;> rfl

end Library

/-! ## Packs -/

namespace Pack

theorem Contents.keepsRowIds_addFile {c c' : Contents} {file : String × String}
    (keeps : c.config.KeepsRowIds) (h : c.addFile file = .ok c') : c'.config.KeepsRowIds := by
  unfold addFile at h
  dsimp only at h
  split at h
  · split at h <;> cases h
    exact keeps
  split at h
  · split at h
    next config read =>
      obtain ⟨v, -, read⟩ := Option.bind_eq_some_iff.1 read
      cases h
      exact Config.keepsRowIds_ofJson? read
    next => cases h
  split at h
  · split at h <;> cases h
    exact keeps
  · cases h
    exact keeps

/-- What a pack that was read is made of. -/
theorem ofFiles_eq_ok {files : SortedMap String String} {p : Pack} (h : ofFiles files = .ok p) :
    ∃ contents, files.entries.foldlM Contents.addFile ⟨[], .empty, none⟩ = .ok contents ∧
      Library.ofScripts contents.scripts = .ok p.library ∧ p.config = contents.config := by
  obtain ⟨contents, collected, h⟩ := Except.bind_eq_ok.1 h
  dsimp only at h
  split at h
  · nomatch h
  · obtain ⟨library, loaded, same⟩ := Except.bind_eq_ok.1 h
    cases same
    exact ⟨contents, collected, Except.mapError_eq_ok.1 loaded, rfl⟩

variable {files : SortedMap String String} {p : Pack}

/-- And so is every row of its database. -/
theorem keepsRowIds_ofFiles (h : ofFiles files = .ok p) : p.config.KeepsRowIds := by
  obtain ⟨contents, collected, -, config⟩ := ofFiles_eq_ok h
  rw [config]
  exact foldlM_invariant (P := fun c : Contents => c.config.KeepsRowIds)
    (fun _ _ _ _ => Contents.keepsRowIds_addFile) Config.keepsRowIds_empty collected

end Pack

end TickScript
