import TickScript.Proofs.Protection

/-
  A fault leaves the world as it was, and an instruction leaves at most one event.

  A handler stops at its first failure before it has changed the world, and a change of the world that can
  be made records at most one event.  Both are read off the shape of instructions: a failure only
  restacks, and a success is one change with restacking around it.

    one change         at most one more event            WorldCall.perform_adds, Change.adds
    a run              the old log is a prefix           Next.events, keeps_events
    a report           a message for each of its lines   foldl_deliver_present, foldl_deliver_absent

  `faults_atomic` puts them together: the world that a failed run leaves is that of the last instruction
  that succeeded, with the report behind it for the player whom the script is about.
-/

namespace TickScript

/-! ## One more event at most -/

/-- `w.Adds n w'`: the log of `w'` is that of `w` with at most `n` events behind it. -/
def World.Adds (w : World) (n : Nat) (w' : World) : Prop :=
  ∃ new : List WorldEvent, new.length ≤ n ∧ w'.events = w.events ++ new

namespace World.Adds

variable {w w' : World}

theorem of_eq (h : w'.events = w.events) : w.Adds 1 w' := by
  refine ⟨[], Nat.zero_le 1, ?_⟩
  rw [h, Array.appendList_nil]

/-- Recording an event after a change that leaves the log alone. -/
theorem record (e : WorldEvent) (h : w'.events = w.events) : w.Adds 1 (w'.record e) := by
  refine ⟨[e], Nat.le_refl 1, ?_⟩
  show w'.events.push e = _
  rw [h]
  rfl

/-- However many events there are, the old log is the first part of the new one. -/
theorem isPrefix {n : Nat} (h : w.Adds n w') : w.events.toList <+: w'.events.toList := by
  obtain ⟨new, -, appended⟩ := h
  refine ⟨new, ?_⟩
  rw [appended, Array.toList_appendList]

end World.Adds

namespace World

/-- The world with more events behind its log. -/
def withEvents (w : World) (new : List WorldEvent) : World := { w with events := w.events ++ new }

variable {w w' : World}

theorem withEvents_nil (w : World) : w.withEvents [] = w := by
  unfold withEvents
  rw [Array.appendList_nil]

theorem record_withEvents (w : World) (e : WorldEvent) (new : List WorldEvent) :
    (w.record e).withEvents new = w.withEvents (e :: new) := rfl

theorem Writes.events {v : World} {whom : Option Int32} (h : w.Writes whom v) : v.events = w.events := by
  cases h <;> rfl

theorem updatePlayer_events {pid : Int32} {f : Player → Except Fault Player}
    (h : w.updatePlayer pid f = .ok w') : w'.events = w.events := (updatePlayer_writes h).events

theorem updateNpc_events {nid : Int32} {f : Npc → Npc} (h : w.updateNpc nid f = .ok w') :
    w'.events = w.events := (updateNpc_writes h).events

end World

/-- A change of the world that is made adds at most one event. -/
theorem WorldCall.perform_adds {call : WorldCall} {w w' : World} (h : call.perform w = .ok w') :
    w.Adds 1 w' := by
  obtain ⟨v, written, rfl | ⟨e, rfl⟩⟩ := WorldCall.perform_writes h
  · exact .of_eq written.events
  · exact .record e written.events

theorem Change.adds {env : Env} {o : Opcode} {s t : Scene} (c : Change env o s t) :
    s.world.Adds 1 t.world := by
  cases c with
  | world call done _ => exact WorldCall.perform_adds done
  | nothing | branch | intLocal | stringLocal | call | jump | leave | finish | wait | search | found
    | lost | random => exact .of_eq rfl

theorem Effect.adds {env : Env} {o : Opcode} {s t : Scene} (h : Effect env o s t) :
    s.world.Adds 1 t.world := by
  obtain ⟨u, v, before, change, after⟩ := h
  rw [after.world, ← before.world]
  exact change.adds

/-! ## Runs and their reports -/

namespace Runner

variable {r : Runner} {s t : Scene} {f : Fault}

/-- An instruction that fails has not touched the world. -/
theorem Fails.world (standard : r.registry = Op.standard) (fails : r.Fails s f t) :
    t.world = s.world :=
  (step_error standard fails.step).1.world

theorem Next.events (standard : r.registry = Op.standard) (next : r.Next s t) :
    s.world.events.toList <+: t.world.events.toList := by
  obtain ⟨_, _, effect⟩ := step_ok standard next.step
  exact effect.adds.isPrefix

/-- Where the scene's player is in the world, every line becomes a message. -/
theorem foldl_deliver_present {p : PlayerRef} : ∀ (lines : List String) (s : Scene),
    s.invocation.self = some (.player p) → s.world.players.contains p.pid →
    (lines.foldl deliver s).world = s.world.withEvents (lines.map (.message p.pid)) := by
  intro lines
  induction lines with
  | nil =>
    intro s _ _
    exact s.world.withEvents_nil.symm
  | cons line lines ih =>
    intro s self there
    have sent : s.world.message p.pid line = .ok (s.world.record (.message p.pid line)) := by
      unfold World.message World.playerEvent World.findPlayer
      unfold SortedMap.contains at there
      cases found : s.world.players.get? p.pid with
      | some q => rfl
      | none =>
        rw [found] at there
        nomatch there
    have delivered :
        deliver s line = { s with world := s.world.record (.message p.pid line) } := by
      unfold deliver
      rw [self]
      dsimp only
      rw [sent]
    have after := ih { s with world := s.world.record (.message p.pid line) } self there
    rw [List.foldl_cons, delivered, after]
    exact s.world.record_withEvents _ _

/-- Where there is no player in the world to send them to, the lines leave the world alone. -/
theorem foldl_deliver_absent : ∀ (lines : List String) (s : Scene),
    (∀ p, s.invocation.self = some (.player p) → s.world.players.contains p.pid = false) →
    (lines.foldl deliver s).world = s.world := by
  intro lines
  induction lines with
  | nil => intro s _; rfl
  | cons line lines ih =>
    intro s absent
    have undelivered : (deliver s line).world = s.world := by
      unfold deliver
      split
      next p self =>
        have gone := absent p self
        split
        next world sent =>
          obtain ⟨q, found, _⟩ := Except.bind_eq_ok.1 sent
          unfold World.findPlayer at found
          unfold SortedMap.contains at gone
          split at found
          next there =>
            rw [there] at gone
            nomatch gone
          next => nomatch found
        next => rfl
      next => rfl
    rw [List.foldl_cons, ih (deliver s line), undelivered]
    intro p self
    rw [deliver_invocation] at self
    rw [undelivered]
    exact absent p self

/-- What the report of a fault does to the world, for a player who is there and otherwise. -/
theorem abort_world (s : Scene) (f : Fault) :
    (∀ p, s.invocation.self = some (.player p) → s.world.players.contains p.pid →
      (abort s f).world =
        s.world.withEvents ((report s.invocation f).lines.map (.message p.pid))) ∧
    ((∀ p, s.invocation.self = some (.player p) → s.world.players.contains p.pid = false) →
      (abort s f).world = s.world) := by
  constructor
  · intro p self there
    exact foldl_deliver_present _ (s.note .error f.headline) self there
  · intro absent
    exact foldl_deliver_absent _ (s.note .error f.headline) absent

theorem deliver_events (s : Scene) (line : String) :
    s.world.events.toList <+: (deliver s line).world.events.toList := by
  unfold deliver
  split
  · split
    next sent =>
      rw [World.playerEvent_eq_ok sent]
      exact (World.Adds.record _ rfl).isPrefix
    next => exact List.prefix_refl _
  · exact List.prefix_refl _

theorem foldl_deliver_events : ∀ (lines : List String) (s : Scene),
    s.world.events.toList <+: (lines.foldl deliver s).world.events.toList
  | [], _ => List.prefix_refl _
  | line :: lines, s =>
    (deliver_events s line).trans (foldl_deliver_events lines (deliver s line))

/-- No part of an entry takes events back. -/
theorem keeps_events (standard : r.registry = Op.standard) (w : World) :
    r.Keeps fun s => w.events.toList <+: s.world.events.toList where
  started _ _ _ h := h
  next next h := h.trans (next.events standard)
  fails fails h := by
    rw [fails.world standard]
    exact h
  reported f h := h.trans (foldl_deliver_events _ (Scene.note _ .error f.headline))
  unnamed h := h
  refused _ h := h

/-- However an entry goes, the log that it found is the first part of the one that it leaves. -/
theorem Outcome.events (standard : r.registry = Op.standard) {reset benchmark : Bool}
    (outcome : r.Outcome reset benchmark s t) :
    s.world.events.toList <+: t.world.events.toList :=
  (keeps_events standard s.world).outcome outcome (List.prefix_refl _)

/-- A loop that fails has passed to a last scene, and failed there or by the next instruction. -/
theorem passes_of_loop_error {left : Nat} (failed : r.loop left s = .error f t) :
    ∃ last, r.Passes s last ∧ (last = t ∨ r.Fails last f t) := by
  rcases r.loop_passes left s with ⟨u, stopped, -, -⟩ | ⟨last, g, u, ended, passes, -, found⟩
  · nomatch stopped.symm.trans failed
  · cases ended.symm.trans failed
    exact ⟨last, passes, found⟩

/-- An instruction that fails leaves the world as it was, and one that succeeds leaves at most one event
    more.  So no entry changes what is in the log already.  And where the loop of an entry fails, the world
    in the end is that of the last instruction that succeeded, with a message for each line of the report
    if the script is about a player who is there, and nothing more. -/
theorem faults_atomic (library : Library) (config : Config) (budget : Option UInt32) :
    let r := Runner.standard library config budget
    (∀ opcode s f t, r.dispatch opcode r.env s = .error f t → t.world = s.world) ∧
    (∀ opcode s t, r.dispatch opcode r.env s = .ok () t →
      ∃ new : List WorldEvent, new.length ≤ 1 ∧ t.world.events = s.world.events ++ new) ∧
    (∀ reset benchmark s,
      s.world.events.toList <+: (r.execute reset benchmark s).world.events.toList) ∧
    ∀ reset benchmark s f t, Admits reset s.invocation →
      r.loop (r.allowance benchmark (started reset benchmark s).invocation)
        (started reset benchmark s) = .error f t →
      ∃ last report, r.Passes (started reset benchmark s) last ∧ (last = t ∨ r.Fails last f t) ∧
        (r.execute reset benchmark s).invocation.abort = some report ∧
        (∀ p, s.invocation.self = some (.player p) → last.world.players.contains p.pid →
          (r.execute reset benchmark s).world =
            last.world.withEvents (report.lines.map (.message p.pid))) ∧
        ((∀ p, s.invocation.self = some (.player p) →
            last.world.players.contains p.pid = false) →
          (r.execute reset benchmark s).world = last.world) := by
  intro r
  have standard : r.registry = Op.standard := standard_registry library config budget
  refine ⟨?_, ?_, ?_, ?_⟩
  · intro opcode s f t failed
    have ends := r.dispatch_ends standard opcode s
    unfold Op.Ends at ends
    rw [failed] at ends
    exact ends.1.world
  · intro opcode s t done
    have ends := r.dispatch_ends standard opcode s
    unfold Op.Ends at ends
    rw [done] at ends
    obtain ⟨_, -, effect⟩ := ends
    exact effect.adds
  · intro reset benchmark s
    exact (r.execute_outcome reset benchmark s).events standard
  · intro reset benchmark s f t admits failed
    obtain ⟨last, passes, found⟩ := passes_of_loop_error failed
    have ended : r.execute reset benchmark s = abort t f := by
      rw [r.execute_eq admits, failed]
      rfl
    have world : t.world = last.world := by
      rcases found with rfl | fails
      · rfl
      · exact fails.world standard
    have self : t.invocation.self = s.invocation.self := by
      have before := (guarded_started reset benchmark s).trans (Passes.guarded standard passes)
      rcases found with rfl | fails
      · exact before.self
      · exact (before.trans (fails.guarded standard)).self
    obtain ⟨present, absent⟩ := abort_world t f
    rw [self, world] at present absent
    refine ⟨last, report t.invocation f, passes, found, ?_, ?_, ?_⟩
    · rw [ended, abort_invocation]
    · rw [ended]
      exact present
    · rw [ended]
      exact absent

end Runner

end TickScript
