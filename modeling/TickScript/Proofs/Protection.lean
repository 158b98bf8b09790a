import TickScript.Proofs.Run

/-
  Protected access can neither be obtained nor be bypassed by a script.

  What a player owns is changed only through protected access, and protected access is a matter of the
  permissions and of the bound players that an invocation starts with: no instruction grants it, and none
  binds another player.  So the players whom a run may change are known before it starts.

    pointers           at most the two permissions for npcs come and go
    bindings           only npcs are rebound
    entries            a player without protection is left as it was
    waits              a run that waits with a player has protected access

  `Guarded s t` collects the first three for a run from `s` to `t`.  It is reflexive and transitive, each
  change has it, and so have all runs.
-/

namespace TickScript

/-! ## Permissions beyond those for npcs -/

namespace Pointers

/-- The permissions for npcs. -/
def npcs : Pointers := activeNpc.union activeNpc2

theorem without_union (p q m : Pointers) (h : q.bits &&& ~~~m.bits = 0) :
    (p.union q).without m = p.without m := by
  have apart : (p.bits ||| q.bits) &&& ~~~m.bits = p.bits &&& ~~~m.bits ||| q.bits &&& ~~~m.bits :=
    UInt32.toBitVec_inj.1 BitVec.and_or_distrib_right
  unfold union without
  rw [apart, h, UInt32.or_zero]

theorem without_without (p q m : Pointers) (h : ~~~q.bits &&& ~~~m.bits = ~~~m.bits) :
    (p.without q).without m = p.without m := by
  unfold without
  rw [UInt32.and_assoc, h]

/-- Granting a permission for an npc changes nothing beyond those. -/
theorem without_npcs_grant (p : Pointers) (slot : Slot) :
    (p.union (.npc slot)).without npcs = p.without npcs := by
  cases slot with
  | primary => exact p.without_union _ _ (by decide)
  | secondary => exact p.without_union _ _ (by decide)

theorem without_npcs_revoke (p : Pointers) (slot : Slot) :
    (p.without (.npc slot)).without npcs = p.without npcs := by
  cases slot with
  | primary => exact p.without_without _ _ (by decide)
  | secondary => exact p.without_without _ _ (by decide)

/-- Protected access is among what is beyond the permissions for npcs. -/
theorem includes_protectedAccess (p : Pointers) (slot : Slot) :
    (p.without npcs).includes (.protectedAccess slot) = p.includes (.protectedAccess slot) := by
  have h : ~~~npcs.bits &&& (protectedAccess slot).bits = (protectedAccess slot).bits := by
    cases slot <;> decide
  unfold includes without
  rw [UInt32.and_assoc, h]

end Pointers

/-! ## Players in the world -/

theorem World.Writes.players {w v : World} {whom : Option Int32} (h : w.Writes whom v) :
    (whom = none ∧ v.players = w.players) ∨
    ∃ pid p p', whom = some pid ∧ w.players.get? pid = some p ∧
      v.players = w.players.insert pid p' := by
  cases h with
  | player there p' => exact .inr ⟨_, _, p', rfl, there, rfl⟩
  | others npcs locs objs => exact .inl ⟨rfl, rfl⟩

/-- A change of the world leaves the players as they are, or replaces the entry of the one whom it is
    about. -/
theorem WorldCall.perform_players {call : WorldCall} {w w' : World} (h : call.perform w = .ok w') :
    (call.changedPlayer? = none ∧ w'.players = w.players) ∨
    ∃ pid p p', call.changedPlayer? = some pid ∧ w.players.get? pid = some p ∧
      w'.players = w.players.insert pid p' := by
  obtain ⟨v, written, rfl | ⟨e, rfl⟩⟩ := WorldCall.perform_writes h
  · exact written.players
  · exact written.players

/-! ## From one scene to a later one -/

/-- `Guarded s t`: a run could lead from `s` to `t` as far as permissions, bindings and the entries of
    players are concerned. -/
structure Guarded (s t : Scene) : Prop where
  pointers : t.invocation.pointers.without .npcs = s.invocation.pointers.without .npcs
  self : t.invocation.self = s.invocation.self
  players : t.invocation.players = s.invocation.players
  locs : t.invocation.locs = s.invocation.locs
  objs : t.invocation.objs = s.invocation.objs
  entries : ∀ pid, ¬ s.invocation.Protects pid → t.world.players.get? pid = s.world.players.get? pid
  present : ∀ pid, t.world.players.contains pid = s.world.players.contains pid
  untouched : (∀ pid, ¬ s.invocation.Protects pid) → t.world.players = s.world.players

namespace Guarded

variable {s t u : Scene}

/-- Who is protected does not change. -/
theorem protects (h : Guarded s t) (pid : Int32) :
    t.invocation.Protects pid ↔ s.invocation.Protects pid := by
  have granted : ∀ slot, t.invocation.pointers.includes (.protectedAccess slot) =
      s.invocation.pointers.includes (.protectedAccess slot) := fun slot => by
    rw [← Pointers.includes_protectedAccess, h.pointers, Pointers.includes_protectedAccess]
  unfold Invocation.Protects
  rw [h.players]
  simp only [granted]

theorem refl (s : Scene) : Guarded s s :=
  ⟨rfl, rfl, rfl, rfl, rfl, fun _ _ => rfl, fun _ => rfl, fun _ => rfl⟩

theorem trans (h : Guarded s t) (h' : Guarded t u) : Guarded s u where
  pointers := h'.pointers.trans h.pointers
  self := h'.self.trans h.self
  players := h'.players.trans h.players
  locs := h'.locs.trans h.locs
  objs := h'.objs.trans h.objs
  entries pid free :=
    (h'.entries pid fun p => free ((h.protects pid).1 p)).trans (h.entries pid free)
  present pid := (h'.present pid).trans (h.present pid)
  untouched free :=
    (h'.untouched fun pid p => free pid ((h.protects pid).1 p)).trans (h.untouched free)

/-- Whatever leaves permissions, bindings and players alone. -/
theorem of_eq (pointers : t.invocation.pointers.without .npcs = s.invocation.pointers.without .npcs)
    (self : t.invocation.self = s.invocation.self)
    (players : t.invocation.players = s.invocation.players)
    (locs : t.invocation.locs = s.invocation.locs) (objs : t.invocation.objs = s.invocation.objs)
    (world : t.world.players = s.world.players) : Guarded s t where
  pointers := pointers
  self := self
  players := players
  locs := locs
  objs := objs
  entries _ _ := by rw [world]
  present _ := by rw [world]
  untouched _ := world

theorem of_restacked (h : s.Restacked t) : Guarded s t := by
  obtain ⟨_, _, _, rfl⟩ := h
  exact of_eq rfl rfl rfl rfl rfl rfl

/-- The change of the one player whom protected access allows to change. -/
theorem of_insert {pid : Int32} {p p' : Player} {world : World}
    (protects : s.invocation.Protects pid) (there : s.world.players.get? pid = some p)
    (changed : world.players = s.world.players.insert pid p') :
    Guarded s { s with world } where
  pointers := rfl
  self := rfl
  players := rfl
  locs := rfl
  objs := rfl
  entries q free := by
    have other : q ≠ pid := fun same => free (same ▸ protects)
    rw [changed, SortedMap.get?_insert_of_ne _ _ other]
  present q := by
    unfold SortedMap.contains
    rw [changed]
    by_cases same : q = pid
    · rw [same, SortedMap.get?_insert_self, there]
      rfl
    · rw [SortedMap.get?_insert_of_ne _ _ same]
  untouched free := absurd protects (free pid)

end Guarded

/-- No single change obtains protected access or does without. -/
theorem Change.guarded {env : Env} {o : Opcode} {s t : Scene} (c : Change env o s t) :
    Guarded s t := by
  cases c with
  | nothing => exact .refl s
  | branch sum => exact .of_eq rfl rfl rfl rfl rfl rfl
  | intLocal index value => exact .of_eq rfl rfl rfl rfl rfl rfl
  | stringLocal index value => exact .of_eq rfl rfl rfl rfl rfl rfl
  | call args _ _ entered =>
    obtain ⟨-, rfl⟩ := Invocation.call_eq_ok entered
    exact .of_eq rfl rfl rfl rfl rfl rfl
  | jump args _ _ => exact .of_eq rfl rfl rfl rfl rfl rfl
  | leave _ back =>
    obtain ⟨_, _, -, rfl⟩ := Invocation.leave?_eq_some back
    exact .of_eq rfl rfl rfl rfl rfl rfl
  | finish _ _ => exact .of_eq rfl rfl rfl rfl rfl rfl
  | wait execution delay _ _ _ => exact .of_eq rfl rfl rfl rfl rfl rfl
  | search query => exact .of_eq rfl rfl rfl rfl rfl rfl
  | found slot npc _ => exact .of_eq (Pointers.without_npcs_grant _ slot) rfl rfl rfl rfl rfl
  | lost slot _ => exact .of_eq (Pointers.without_npcs_revoke _ slot) rfl rfl rfl rfl rfl
  | world call done protects =>
    rcases WorldCall.perform_players done with ⟨_, same⟩ | ⟨pid, p, p', whom, there, changed⟩
    · exact .of_eq rfl rfl rfl rfl rfl same
    · exact .of_insert (protects pid whom) there changed
  | random bound => exact .of_eq rfl rfl rfl rfl rfl rfl

/-- A change that makes a running invocation wait with a player has protected access to one. -/
theorem Change.protects_of_playerWait {env : Env} {o : Opcode} {s t : Scene} (c : Change env o s t)
    (running : s.invocation.execution = .running) (waits : t.invocation.execution.isPlayerWait) :
    ∃ pid, s.invocation.Protects pid := by
  have still : t.invocation.execution = s.invocation.execution → False := fun same => by
    rw [same, running] at waits
    nomatch waits
  cases c with
  | call args _ _ entered =>
    obtain ⟨-, rfl⟩ := Invocation.call_eq_ok entered
    exact (still rfl).elim
  | leave _ back =>
    obtain ⟨_, _, -, rfl⟩ := Invocation.leave?_eq_some back
    exact (still rfl).elim
  | finish _ _ => nomatch waits
  | wait execution delay _ _ protects => exact protects waits
  | nothing | branch | intLocal | stringLocal | jump | search | found | lost | world | random =>
    exact (still rfl).elim

theorem Effect.guarded {env : Env} {o : Opcode} {s t : Scene} (h : Effect env o s t) :
    Guarded s t := by
  obtain ⟨_, _, before, change, after⟩ := h
  exact (Guarded.of_restacked before).trans (change.guarded.trans (.of_restacked after))

/-! ## Runs -/

namespace Runner

variable {r : Runner} {s t : Scene} {f : Fault}

theorem guarded_advance (s : Scene) : Guarded s (advance s) := .of_eq rfl rfl rfl rfl rfl rfl

theorem Next.guarded (standard : r.registry = Op.standard) (next : r.Next s t) : Guarded s t := by
  obtain ⟨_, _, effect⟩ := step_ok standard next.step
  exact (guarded_advance s).trans effect.guarded

theorem Fails.guarded (standard : r.registry = Op.standard) (fails : r.Fails s f t) : Guarded s t :=
  (guarded_advance s).trans (.of_restacked (step_error standard fails.step).1)

/-- Reports are messages, which change no player. -/
theorem deliver_players (s : Scene) (line : String) :
    (deliver s line).world.players = s.world.players := by
  unfold deliver
  split
  · split
    next sent => rw [World.playerEvent_eq_ok sent]; rfl
    next => rfl
  · rfl

theorem foldl_deliver_players : ∀ (lines : List String) (s : Scene),
    (lines.foldl deliver s).world.players = s.world.players
  | [], _ => rfl
  | line :: lines, s => by
    rw [List.foldl_cons, foldl_deliver_players lines, deliver_players]

theorem guarded_abort (s : Scene) (f : Fault) : Guarded s (abort s f) := by
  have same := abort_invocation s f
  refine .of_eq (by rw [same]) (by rw [same]) (by rw [same]) (by rw [same]) (by rw [same]) ?_
  exact foldl_deliver_players _ (s.note .error f.headline)

theorem guarded_started (reset benchmark : Bool) (s : Scene) :
    Guarded s (started reset benchmark s) := by
  cases reset <;> exact .of_eq rfl rfl rfl rfl rfl rfl

/-- What is protected at some time stays so over every part of an entry. -/
theorem keeps_guarded (standard : r.registry = Op.standard) (s : Scene) : r.Keeps (Guarded s) where
  started benchmark _ _ h := h.trans (guarded_started _ benchmark _)
  next next h := h.trans (next.guarded standard)
  fails fails h := h.trans (fails.guarded standard)
  reported f h := h.trans (guarded_abort _ f)
  unnamed h := h.trans (.of_eq rfl rfl rfl rfl rfl rfl)
  refused _ h := h.trans (.of_eq rfl rfl rfl rfl rfl rfl)

theorem Passes.guarded (standard : r.registry = Op.standard) (passes : r.Passes s t) :
    Guarded s t :=
  (keeps_guarded standard s).passes passes (.refl s)

theorem guarded_executeAll (standard : r.registry = Op.standard) (flags : List (Bool × Bool))
    (s : Scene) : Guarded s (r.executeAll flags s) :=
  (keeps_guarded standard s).executeAll flags (.refl s)

/-! ## Waits with a player -/

/-- A step to a wait with a player is made under protected access to one. -/
theorem Next.protects_of_playerWait (standard : r.registry = Op.standard) (next : r.Next s t)
    (waits : t.invocation.execution.isPlayerWait) : ∃ pid, s.invocation.Protects pid := by
  obtain ⟨o, _, u, v, before, change, after⟩ := step_ok standard next.step
  obtain ⟨_, _, _, rfl⟩ := before
  obtain ⟨_, _, _, rfl⟩ := after
  exact change.protects_of_playerWait next.running waits

theorem Passes.protects_of_playerWait (standard : r.registry = Op.standard) (passes : r.Passes s t)
    (running : s.invocation.execution = .running) (waits : t.invocation.execution.isPlayerWait) :
    ∃ pid, s.invocation.Protects pid := by
  cases passes with
  | refl =>
    rw [running] at waits
    nomatch waits
  | tail earlier next =>
    obtain ⟨pid, protects⟩ := next.protects_of_playerWait standard waits
    exact ⟨pid, ((Passes.guarded standard earlier).protects pid).1 protects⟩

/-- An entry that ends in a wait with a player started under protected access to one. -/
theorem Outcome.protects_of_playerWait (standard : r.registry = Op.standard) {reset benchmark : Bool}
    (outcome : r.Outcome reset benchmark s t) (waits : t.invocation.execution.isPlayerWait) :
    ∃ pid, s.invocation.Protects pid := by
  cases outcome with
  | unnamed => nomatch waits
  | refused text ended =>
    change s.invocation.execution.isPlayerWait at waits
    cases execution : s.invocation.execution <;> rw [execution] at waits ended <;> contradiction
  | stopped _ passes _ =>
    obtain ⟨pid, protects⟩ := passes.protects_of_playerWait standard rfl waits
    exact ⟨pid, ((guarded_started reset benchmark s).protects pid).1 protects⟩
  | aborted =>
    rw [abort_invocation] at waits
    nomatch waits

theorem protects_of_executeAll_playerWait (standard : r.registry = Op.standard)
    {flags : List (Bool × Bool)} (entered : flags ≠ [])
    (waits : (r.executeAll flags s).invocation.execution.isPlayerWait) :
    ∃ pid, s.invocation.Protects pid := by
  -- Only the last entry counts; those before it leave protection as it was.
  obtain none | ⟨earlier, last, rfl⟩ := List.eq_nil_or_concat flags
  · exact absurd none entered
  unfold executeAll at waits
  rw [List.concat_eq_append, List.foldl_append] at waits
  obtain ⟨pid, protects⟩ := (r.execute_outcome _ _ _).protects_of_playerWait standard waits
  exact ⟨pid, ((guarded_executeAll standard earlier s).protects pid).1 protects⟩

/-! ## Protected access -/

/-- Over any entries, permissions change at most for npcs, players, locs, objs and the entity that the
    script is about stay bound as they are, and a player is changed only if protected access to that player
    was granted at the start.  Without any protected access no player is changed, and no entry ends in a
    wait with a player. -/
theorem protectedAccess_neither_obtained_nor_bypassed (library : Library) (config : Config)
    (budget : Option UInt32) (flags : List (Bool × Bool)) (s : Scene) :
    let r := Runner.standard library config budget
    let t := r.executeAll flags s
    t.invocation.pointers.without .npcs = s.invocation.pointers.without .npcs ∧
    t.invocation.self = s.invocation.self ∧
    t.invocation.players = s.invocation.players ∧
    t.invocation.locs = s.invocation.locs ∧
    t.invocation.objs = s.invocation.objs ∧
    (∀ pid, (∀ slot p, s.invocation.pointers.includes (.protectedAccess slot) →
        s.invocation.players.get slot = some p → p.pid ≠ pid) →
      t.world.players.get? pid = s.world.players.get? pid) ∧
    (∀ pid, t.world.players.contains pid = s.world.players.contains pid) ∧
    ((∀ slot, s.invocation.pointers.includes (.protectedAccess slot) = false) →
      t.world.players = s.world.players ∧
      (flags ≠ [] → t.invocation.execution.isPlayerWait = false)) := by
  intro r t
  have standard := standard_registry library config budget
  have guarded : Guarded s t := guarded_executeAll standard flags s
  refine ⟨guarded.pointers, guarded.self, guarded.players, guarded.locs, guarded.objs, ?_,
    guarded.present, ?_⟩
  · intro pid free
    refine guarded.entries pid ?_
    rintro ⟨slot, p, granted, bound, same⟩
    exact free slot p granted bound same
  · intro none
    have free : ∀ pid, ¬ s.invocation.Protects pid := by
      rintro pid ⟨slot, _, granted, _⟩
      rw [none slot] at granted
      nomatch granted
    refine ⟨guarded.untouched free, fun entered => ?_⟩
    cases waits : t.invocation.execution.isPlayerWait with
    | false => rfl
    | true =>
      obtain ⟨pid, protects⟩ := protects_of_executeAll_playerWait standard entered waits
      exact absurd protects (free pid)

end Runner

end TickScript
