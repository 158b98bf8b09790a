import Mathlib.Data.Fintype.Card
import TickScript.Proofs.Bindings
import TickScript.Proofs.Database
import TickScript.Proofs.Packing
import TickScript.Proofs.Persistence

/-
  A search is told row by row.

  A search leaves the list of the rows that it has found in the invocation, together with how many of them
  were taken.  Only another search replaces it and only asking for the next row moves it on.  It is not
  touched by calls and jumps, by waits and by whatever happens meanwhile, and it is stored and restored with
  the rest.  So one invariant, `Pending`, is carried along any continuation, and the rows are told one after
  the other, each of them once.

    Continues          what is executed after a search: the rest of its entry, and further entries
    Pending            the search under way, of which so many rows were asked for
    Pending.calls      one instruction keeps it, up to the row that it takes
    Answers            what a continuation answers to those who ask for rows
    searches_enumerate the rows that match, in ascending order, and then -1
-/

namespace TickScript

open Op.Database (ColumnRef findColumn rowMatches)

/-! ## Continuations -/

/-- The instruction starts a search. -/
def Scene.Searches (s : Scene) : Prop :=
  s.opcode? = some Opcode.dbFind.id ∨ s.opcode? = some Opcode.dbListall.id

instance (s : Scene) : Decidable s.Searches := inferInstanceAs (Decidable (_ ∨ _))

/-- The instruction asks for the next row. -/
def Scene.asksNext (s : Scene) : Bool := s.opcode? = some Opcode.dbFindnext.id

namespace Runner

/-- `r.Afterwards i us`: between two entries, `i` may go on by calling the instructions of `us`.  It is entered
    without a reset, in any world and with any answer, and in between it may be stored as a text and restored
    from it. -/
inductive Afterwards (r : Runner) : Invocation → List Scene → Prop where
  | nothing {i : Invocation} : Afterwards r i []
  | enter {i : Invocation} {us : List Scene} (e : Entry) : e.reset = false →
      Afterwards r (r.execute e.reset e.benchmark (e.scene i)).invocation us →
      Afterwards r i (r.visits e i ++ us)
  | stored {i j : Invocation} {us : List Scene} {saved read : Snapshot} {library : Library} :
      Snapshot.capture i = .ok saved → ofText? (toText saved) = some read →
      read.restore library = .ok j → Afterwards r j us → Afterwards r i us

/-- `r.Continues t us`: within an entry, `t` may go on by calling the instructions of `us`, first those for
    which the entry has budget left and then those of further entries. -/
def Continues (r : Runner) (t : Scene) (us : List Scene) : Prop :=
  ∃ left later, us = r.dispatched left t ++ later ∧
    r.Afterwards (settled (r.loop left t)).invocation later

end Runner

/-! ## The search under way -/

/-- A change leaves the search alone, unless it is made by one of the three instructions for it. -/
theorem Change.query {env : Env} {o : Opcode} {s t : Scene} (c : Change env o s t) :
    t.invocation.query = s.invocation.query ∨ o = .dbFind ∨ o = .dbListall ∨ o = .dbFindnext := by
  cases c with
  | search query ho => exact .inr ho
  | call args _ _ entered =>
    obtain ⟨-, rfl⟩ := Invocation.call_eq_ok entered
    exact .inl rfl
  | leave _ back =>
    obtain ⟨_, _, -, rfl⟩ := Invocation.leave?_eq_some back
    exact .inl rfl
  | nothing | branch | intLocal | stringLocal | jump | finish | wait | found | lost | world | random =>
    exact .inl rfl

theorem Scene.Restacked.query {s t : Scene} (h : s.Restacked t) :
    t.invocation.query = s.invocation.query := by
  obtain ⟨_, _, _, rfl⟩ := h
  rfl

theorem Effect.query {env : Env} {o : Opcode} {s t : Scene} (h : Effect env o s t) :
    t.invocation.query = s.invocation.query ∨ o = .dbFind ∨ o = .dbListall ∨ o = .dbFindnext := by
  obtain ⟨_, _, before, change, after⟩ := h
  rw [after.query, ← before.query]
  exact change.query

/-- `i.Pending table ids j`: the search of the table has found the rows `ids`, of which `j` were asked for.
    Asking for more than there are takes none. -/
def Invocation.Pending (i : Invocation) (table : Int32) (ids : List Int32) (j : Nat) : Prop :=
  ∃ cursor : UInt64, i.query = ⟨table, ids, cursor⟩ ∧ cursor.toNat = min j ids.length

namespace Invocation.Pending

variable {i : Invocation} {table : Int32} {ids : List Int32} {j : Nat}

theorem congr {i' : Invocation} (h : i.Pending table ids j) (same : i'.query = i.query) :
    i'.Pending table ids j := by
  unfold Pending
  rw [same]
  exact h

theorem answer (h : i.Pending table ids j) : i.query.answer = (ids[j]?).getD (-1) := by
  obtain ⟨cursor, query, taken⟩ := h
  unfold DbQuery.answer
  rw [query, taken]
  by_cases inside : j < ids.length
  · rw [Nat.min_eq_left (Nat.le_of_lt inside)]
  · have past : ids.length ≤ j := Nat.le_of_not_lt inside
    rw [Nat.min_eq_right past, List.getElem?_eq_none (Nat.le_refl _), List.getElem?_eq_none past]

theorem next (h : i.Pending table ids j) (short : ids.length ≤ 4294967296) {i' : Invocation}
    (moved : i'.query = i.query.next) : i'.Pending table ids (j + 1) := by
  obtain ⟨cursor, query, taken⟩ := h
  rw [query] at moved
  unfold DbQuery.next at moved
  dsimp only at moved
  split at moved
  next inside =>
    refine ⟨cursor + 1, moved, ?_⟩
    rw [UInt64.toNat_add]
    show (cursor.toNat + 1) % 2 ^ 64 = _
    omega
  next past => exact ⟨cursor, moved, by omega⟩

end Invocation.Pending

/-- There are no more ids in strictly ascending order than there are ints. -/
theorem length_le_of_ascending {ids : List Int32} (ascending : ids.Pairwise (· < ·)) :
    ids.length ≤ 4294967296 := by
  have apart : (ids.map fun id => id.toBitVec.toFin).Nodup := by
    refine List.pairwise_map.2 (ascending.imp fun {a b} below same => ?_)
    have equal : a = b := Int32.toBitVec_inj.1 (BitVec.toFin_inj.1 same)
    exact Int32.lt_irrefl (equal ▸ below)
  have bounded := apart.length_le_card
  rwa [List.length_map, Fintype.card_fin] at bounded

/-! ## Answers -/

namespace Runner

/-- `r.Answers ids j us`: when `j` rows were asked for before the instructions of `us`, then every one of these
    that asks for the next row succeeds, and pushes the one whose turn it is, or -1 if there are no more.
    What comes after another search is not spoken of. -/
def Answers (r : Runner) (ids : List Int32) (j : Nat) (us : List Scene) : Prop :=
  ∀ k u, us[k]? = some u → u.asksNext → (∀ v ∈ us.take k, ¬ v.Searches) →
    ∃ t, r.Calls u t ∧ t.invocation.ints =
      (ids[j + (us.take k).countP Scene.asksNext]?).getD (-1) :: u.invocation.ints

section Lists

variable {r : Runner} {ids : List Int32} {j : Nat} {u : Scene} {us vs : List Scene}

theorem countP_asksNext_cons : (u :: us).countP Scene.asksNext =
    [u].countP Scene.asksNext + us.countP Scene.asksNext := by
  rw [← List.countP_append, List.singleton_append]

theorem answers_nil : r.Answers ids j [] := fun _ _ there => nomatch there

/-- The first instruction, if it asks, is answered first, and unless it is another search the others
    follow. -/
theorem answers_cons (here : u.asksNext → ∃ t, r.Calls u t ∧
      t.invocation.ints = (ids[j]?).getD (-1) :: u.invocation.ints)
    (there : ¬ u.Searches → r.Answers ids (j + [u].countP Scene.asksNext) us) :
    r.Answers ids j (u :: us) := by
  intro k v found asks quiet
  cases k with
  | zero =>
    cases found
    exact here asks
  | succ k =>
    rw [List.take_succ_cons] at quiet ⊢
    obtain ⟨first, rest⟩ := List.forall_mem_cons.1 quiet
    have answered := there first k v found asks rest
    rw [countP_asksNext_cons, ← Nat.add_assoc]
    exact answered

theorem answers_append (first : r.Answers ids j us)
    (later : (∀ v ∈ us, ¬ v.Searches) → r.Answers ids (j + us.countP Scene.asksNext) vs) :
    r.Answers ids j (us ++ vs) := by
  intro k v found asks quiet
  by_cases inside : k < us.length
  · rw [List.take_append_of_le_length (Nat.le_of_lt inside)] at quiet ⊢
    rw [List.getElem?_append_left inside] at found
    exact first k v found asks quiet
  · have past : us.length ≤ k := Nat.le_of_not_lt inside
    rw [List.getElem?_append_right past] at found
    rw [List.take_append, List.take_of_length_le past] at quiet ⊢
    obtain ⟨before, after⟩ := List.forall_mem_append.1 quiet
    rw [List.countP_append, ← Nat.add_assoc]
    exact later before (k - us.length) v found asks after

end Lists

/-! ## One instruction -/

variable {r : Runner} {s t u : Scene} {table : Int32} {ids : List Int32} {j : Nat}

/-- Asking for a row is answered. -/
theorem calls_of_asksNext (standard : r.registry = Op.standard) (searched : table ≠ -1)
    (pending : u.invocation.Pending table ids j) (asks : u.asksNext) :
    ∃ t, r.Calls u t ∧ t.invocation.ints = (ids[j]?).getD (-1) :: u.invocation.ints ∧
      t.invocation.query = u.invocation.query.next := by
  have under : u.invocation.query.table ≠ -1 := by
    obtain ⟨_, query, -⟩ := pending
    rw [query]
    exact searched
  have done : Op.Database.dbFindnext r.env u = .ok () _ := Op.Database.dbFindnext_eq_ok under
  rw [pending.answer] at done
  exact ⟨_, calls_of_listed standard Op.Database.table_listed (Op.mem_of_lookup .dbFindnext rfl)
    (of_decide_eq_true asks) done, rfl, rfl⟩

/-- An instruction other than a search keeps the search that is under way, and takes a row from it if it asks
    for one. -/
theorem Calls.pending (standard : r.registry = Op.standard) (searched : table ≠ -1)
    (short : ids.length ≤ 4294967296) (calls : r.Calls u t)
    (pending : u.invocation.Pending table ids j) (quiet : ¬ u.Searches) :
    t.invocation.Pending table ids (j + [u].countP Scene.asksNext) := by
  by_cases asks : u.asksNext
  · obtain ⟨t', calls', -, moved⟩ := calls_of_asksNext standard searched pending asks
    cases calls.unique calls'
    rw [List.countP_cons_of_pos asks]
    exact pending.next short moved
  · rw [List.countP_cons_of_neg asks]
    refine pending.congr ?_
    obtain ⟨opcode, there, done⟩ := calls
    obtain ⟨o, rfl, effect⟩ := (r.dispatch_ends standard opcode u).of_ok done
    rcases effect.query with same | rfl | rfl | rfl
    · exact same
    · exact absurd (.inl there) quiet
    · exact absurd (.inr there) quiet
    · exact absurd (decide_eq_true there) asks

/-! ## The rest of a run -/

/-- A loop answers, and leaves the search with as many more rows taken as were asked for. -/
theorem Loops.answers (standard : r.registry = Op.standard) (searched : table ≠ -1)
    (short : ids.length ≤ 4294967296) {us : List Scene} {e : EStateM.Result Fault Scene Unit}
    (h : r.Loops s us e) : ∀ {j : Nat}, s.invocation.Pending table ids j →
      r.Answers ids j us ∧ ((∀ u ∈ us, ¬ u.Searches) →
        (settled e).invocation.Pending table ids (j + us.countP Scene.asksNext)) := by
  have answered : ∀ {u : Scene} {j : Nat}, u.invocation.Pending table ids j → u.asksNext →
      ∃ t, r.Calls u t ∧ t.invocation.ints = (ids[j]?).getD (-1) :: u.invocation.ints := by
    intro u j pending asks
    obtain ⟨t, calls, answer, -⟩ := calls_of_asksNext standard searched pending asks
    exact ⟨t, calls, answer⟩
  induction h with
  | stopped => exact fun pending => ⟨answers_nil, fun _ => pending⟩
  | @unfetched s t f _ still =>
    intro j pending
    refine ⟨answers_nil, fun _ => pending.congr ?_⟩
    show (abort t f).invocation.query = s.invocation.query
    rw [abort_invocation]
    rcases still with rfl | rfl <;> rfl
  | @failed s t opcode f _ there failed =>
    intro j pending
    have pending : (advance s).invocation.Pending table ids j := pending
    refine ⟨answers_cons (answered pending) fun _ => answers_nil, fun _ => ?_⟩
    have restacked := ((r.dispatch_ends standard opcode (advance s)).of_error failed).restacked
    -- asking for a row does not fail, so none was taken
    have other : ¬ (advance s).asksNext := fun asks => by
      obtain ⟨t', ⟨opcode', there', done⟩, -⟩ := answered pending asks
      cases there.symm.trans there'
      nomatch failed.symm.trans done
    rw [List.countP_cons_of_neg other]
    refine pending.congr ?_
    show (abort t f).invocation.query = _
    rw [abort_invocation]
    exact restacked.query
  | @next s t us e _ calls _ ih =>
    intro j pending
    have pending : (advance s).invocation.Pending table ids j := pending
    have after := calls.pending standard searched short pending
    refine ⟨answers_cons (answered pending) fun quiet => (ih (after quiet)).1, fun quiet => ?_⟩
    obtain ⟨here, there⟩ := List.forall_mem_cons.1 quiet
    have left := (ih (after here)).2 there
    rw [countP_asksNext_cons, ← Nat.add_assoc]
    exact left

/-- So does an entry that does not reset. -/
theorem answers_visits (standard : r.registry = Op.standard) (searched : table ≠ -1)
    (short : ids.length ≤ 4294967296) {e : Entry} (keep : e.reset = false) {i : Invocation}
    (pending : i.Pending table ids j) :
    r.Answers ids j (r.visits e i) ∧ ((∀ u ∈ r.visits e i, ¬ u.Searches) →
      (r.execute e.reset e.benchmark (e.scene i)).invocation.Pending table ids
        (j + (r.visits e i).countP Scene.asksNext)) := by
  by_cases admits : Admits e.reset i
  · obtain ⟨result, loops, left⟩ := r.loops_visits admits
    rw [left]
    refine loops.answers standard searched short ?_
    rw [keep]
    exact pending
  · have none : r.visits e i = [] := if_neg admits
    rw [none]
    refine ⟨answers_nil, fun _ => pending.congr ?_⟩
    have refused : ¬ Admits e.reset (e.scene i).invocation := admits
    rcases refused_of_not_admits refused with unnamed | ⟨named, keep, terminal⟩
    · rw [r.execute_unnamed unnamed]
      rfl
    · rw [keep, r.execute_terminal named terminal]
      rfl

/-- A search is stored and restored. -/
theorem pending_restore {i i' : Invocation} {saved : Snapshot} {library : Library}
    (taken : Snapshot.capture i = .ok saved) (restored : saved.restore library = .ok i')
    (pending : i.Pending table ids j) : i'.Pending table ids j := by
  rw [Snapshot.restore_of_capture taken restored]
  exact pending

theorem Afterwards.answers (standard : r.registry = Op.standard) (searched : table ≠ -1)
    (short : ids.length ≤ 4294967296) {i : Invocation} {us : List Scene} (h : r.Afterwards i us) :
    ∀ {j : Nat}, i.Pending table ids j → r.Answers ids j us := by
  induction h with
  | nothing => exact fun _ => answers_nil
  | enter e keep _ ih =>
    intro j pending
    obtain ⟨first, left⟩ := answers_visits standard searched short keep pending
    exact answers_append first fun quiet => ih (left quiet)
  | @stored i i' us saved read library taken written restored _ ih =>
    intro j pending
    have same : read = saved := by
      rw [ofText?_toText (by decide)] at written
      exact (Option.some.inj written).symm
    exact ih (pending_restore taken (same ▸ restored) pending)

theorem Continues.answers (standard : r.registry = Op.standard) (searched : table ≠ -1)
    (short : ids.length ≤ 4294967296) {us : List Scene} (h : r.Continues t us)
    (pending : t.invocation.Pending table ids j) : r.Answers ids j us := by
  obtain ⟨left, later, rfl, afterwards⟩ := h
  obtain ⟨first, left⟩ := (r.loops left t).answers standard searched short pending
  exact answers_append first fun quiet => afterwards.answers standard searched short (left quiet)

/-! ## Searches -/

/-- `r.Enumerates t table wanted`: there is a list of row ids in strictly ascending order, and it has the ids of
    those rows of the table that are wanted.  However `t` goes on, until there is another search those who
    ask for rows are answered with the list, one id after the other, and then with -1. -/
def Enumerates (r : Runner) (t : Scene) (table : Int32) (wanted : DbRow → Prop) : Prop :=
  ∃ ids : List Int32, ids.Pairwise (· < ·) ∧
    (∀ id, id ∈ ids ↔ ∃ row, r.config.dbRow id = .ok row ∧ row.table = table ∧ wanted row) ∧
    ∀ us, r.Continues t us → r.Answers ids 0 us

/-- What a search has found is enumerated. -/
theorem enumerates_searched (standard : r.registry = Op.standard) (keeps : r.config.KeepsRowIds)
    {ints : List Int32} {strings : List String} (searched : table ≠ -1) {test : DbRow → Bool}
    {wanted : DbRow → Prop} (decides : ∀ row, test row ↔ wanted row) :
    r.Enumerates (u.searched ints strings table (r.config.rowIds table test)) table wanted := by
  have ascending := Config.pairwise_rowIds keeps table test
  refine ⟨r.config.rowIds table test, ascending, fun id => ?_, fun us continues => ?_⟩
  · refine (Config.mem_rowIds keeps).trans (exists_congr fun row => ?_)
    rw [decides row]
    exact and_congr_left' Config.entry_eq_ok.symm
  · refine continues.answers standard searched (length_le_of_ascending ascending) ?_
    exact ⟨0, rfl, (Nat.zero_min _).symm⟩

end Runner

namespace Runner

variable {r : Runner} {u t : Scene}

/-- So has a search for all rows of a table, unless the table is called -1. -/
theorem enumerates_dbListall (standard : r.registry = Op.standard) (keeps : r.config.KeepsRowIds)
    (here : u.opcode? = some Opcode.dbListall.id) (calls : r.Calls u t) :
    ∃ table ints, u.invocation.ints = table :: ints ∧
      (table ≠ -1 → r.Enumerates t table fun _ => True) := by
  have done :=
    calls.eq_ok_of_listed standard Op.Database.table_listed (Op.mem_of_lookup .dbListall rfl) here
  obtain ⟨table, ints, entry, stack, -, rfl⟩ := Op.Database.dbListall_eq_ok.1 done
  refine ⟨table, ints, stack, fun searched => ?_⟩
  exact enumerates_searched standard keeps searched fun _ => ⟨fun _ => trivial, fun _ => rfl⟩

/-- The database of a pack that was read from files keeps its rows under their ids, so with such a pack every
    search for all rows of a table is enumerated. -/
theorem enumerates_dbListall_of_ofFiles {files : SortedMap String String} {p : Pack}
    (loaded : Pack.ofFiles files = .ok p) (budget : Option UInt32)
    (here : u.opcode? = some Opcode.dbListall.id) (calls : (p.runner budget).Calls u t) :
    ∃ table ints, u.invocation.ints = table :: ints ∧
      (table ≠ -1 → (p.runner budget).Enumerates t table fun _ => True) :=
  enumerates_dbListall (Session.runner_standard p budget) (Pack.keepsRowIds_ofFiles loaded) here calls

end Runner

end TickScript
