import TickScript.Proofs.Run

/-
  What holds of an invocation wherever it goes.

  An invocation that was started on a script of the library never loses touch with it: `Sound` says where
  its scripts come from, how its frames hang together, which locals there are, what the report of a failed
  run says and where a wait can stand.

    depth, linked      each frame stands on the call that entered the script above it
    locals             every script has the locals that it declares
    report             only an aborted invocation has a report, and it shows where the invocation is
    waiting            a waiting invocation stands on an instruction

  The invariant is proved in three steps: a start has it, one change keeps it (`Change.sound`, one case for
  each kind of change), and so does everything that an entry does around its changes (`keeps_sound`).
-/

namespace TickScript

/-! ## Calls and locals -/

/-- The instruction at that position of the script is a call of the callee. -/
structure Script.CallsAt (s : Script) (pc : Int32) (callee : Script) : Prop where
  opcode : s.opcode? pc = some Opcode.gosub.id ∨ s.opcode? pc = some Opcode.gosubWithParams.id
  operand : s.intOperand pc = callee.id

/-- The frames, innermost first, are the calls that led to the callee. -/
def Linked : Script → List Frame → Prop
  | _, [] => True
  | callee, f :: frames => f.script.CallsAt f.pc callee ∧ Linked f.script frames

/-- The locals include those that the script declares. -/
structure Script.HasLocals (s : Script) (ints : List Int32) (strings : List String) : Prop where
  ints : s.intLocalCount.toNat ≤ ints.length
  strings : s.stringLocalCount.toNat ≤ strings.length

theorem le_length_filled {α : Type} (n : Nat) (a : α) (as : List α) :
    n ≤ (Invocation.filled n a as).length := by
  unfold Invocation.filled
  rw [List.length_append, List.length_replicate]
  omega

theorem Script.hasLocals_start (s : Script) (args : List Value) :
    s.HasLocals (Invocation.startInts s args) (Invocation.startStrings s args) :=
  ⟨le_length_filled _ _ _, le_length_filled _ _ _⟩

/-! ## The invariant -/

namespace Invocation

/-- The positions of an invocation, innermost first: where it is, and where its callers wait. -/
def positions (i : Invocation) : List (Script × Int32) :=
  (i.script, i.pc) :: i.frames.map fun f => (f.script, f.pc)

/-- `i.Sound l`: the invocation is one that runs over the library can lead to. -/
structure Sound (l : Library) (i : Invocation) : Prop where
  script : l.get? i.script.id = some i.script
  root : l.get? i.root.id = some i.root
  frames : ∀ f ∈ i.frames, l.get? f.script.id = some f.script
  depth : i.frames.length ≤ maxFrames
  linked : Linked i.script i.frames
  locals : i.script.HasLocals i.intLocals i.stringLocals
  frameLocals : ∀ f ∈ i.frames, f.script.HasLocals f.intLocals f.stringLocals
  report : ∀ r, i.abort = some r → i.execution = .aborted ∧
    r.backtrace = i.positions.map fun p => Runner.traceEntry p.1 p.2
  waiting : i.execution.isSuspended → (i.script.opcode? i.pc).isSome

variable {l : Library} {i : Invocation}

/-- The invariant says nothing about an invocation's bindings, permissions and stacks, nor about its
    counter, its history and its search. -/
theorem Sound.congr {j : Invocation} (h : i.Sound l)
    (same : j = { i with
      history := j.history, opcount := j.opcount, ints := j.ints, strings := j.strings,
      pointers := j.pointers, self := j.self, players := j.players, npcs := j.npcs, locs := j.locs,
      objs := j.objs, lastInt := j.lastInt, delay := j.delay, query := j.query, args := j.args }) :
    j.Sound l := by
  rw [same]
  exact ⟨h.script, h.root, h.frames, h.depth, h.linked, h.locals, h.frameLocals, h.report, h.waiting⟩

/-- Before it is aborted there is no report. -/
theorem Sound.abort_eq_none (h : i.Sound l) (live : i.execution ≠ .aborted) : i.abort = none := by
  cases report : i.abort with
  | none => rfl
  | some r => exact absurd (h.report r report).1 live

/-! ## The start -/

/-- Binding an entity changes nothing but the slots. -/
theorem bind_eq_ok {e : Entity} {b : Slot × Invocation} (h : i.bind e = .ok b) :
    b.2 = { i with
      players := b.2.players, npcs := b.2.npcs, locs := b.2.locs, objs := b.2.objs } := by
  cases e with
  | player p =>
    obtain ⟨_, _, rfl⟩ := Except.map_eq_ok.1 h
    rfl
  | npc n =>
    obtain ⟨_, _, rfl⟩ := Except.map_eq_ok.1 h
    rfl
  | loc o =>
    obtain ⟨_, _, rfl⟩ := Except.map_eq_ok.1 h
    rfl
  | obj o =>
    obtain ⟨_, _, rfl⟩ := Except.map_eq_ok.1 h
    rfl

/-- A fresh invocation is a new one but for what it is about, what it may touch and what it is bound to. -/
theorem start_eq_ok {s : Script} {self : Option Entity} {active : List Entity} {pointers : Pointers}
    {args : List Value} (h : start s self active pointers args = .ok i) :
    i = { new s args with
      self, pointers := Pointers.none.union pointers, players := i.players, npcs := i.npcs,
      locs := i.locs, objs := i.objs } := by
  refine foldlM_invariant (P := fun j => j = { new s args with
    self, pointers := Pointers.none.union pointers, players := j.players, npcs := j.npcs,
    locs := j.locs, objs := j.objs }) ?_ rfl h
  intro e _ j k hj hk
  obtain ⟨b, bound, rfl⟩ := Except.map_eq_ok.1 hk
  rw [bind_eq_ok bound, hj]

theorem sound_new {s : Script} (args : List Value) (found : l.get? s.id = some s) :
    (new s args).Sound l where
  script := found
  root := found
  frames := nofun
  depth := Nat.zero_le _
  linked := trivial
  locals := s.hasLocals_start args
  frameLocals := nofun
  report := nofun
  waiting := nofun

theorem sound_start {s : Script} {self : Option Entity} {active : List Entity} {pointers : Pointers}
    {args : List Value} (found : l.get? s.id = some s)
    (h : start s self active pointers args = .ok i) : i.Sound l := by
  rw [start_eq_ok h]
  exact (sound_new args found).congr rfl

end Invocation

/-! ## One instruction -/

open Invocation (Sound)

variable {l : Library}

theorem Scene.Restacked.sound {s t : Scene} (h : s.Restacked t) (hs : s.invocation.Sound l) :
    t.invocation.Sound l := by
  obtain ⟨_, _, _, rfl⟩ := h
  exact hs.congr rfl

/-- A running invocation can take up another script, with the locals that it declares and with frames
    that lead to it. -/
theorem Invocation.Sound.entered {i : Invocation} (h : i.Sound l) (running : i.execution = .running)
    {script : Script} {pc : Int32} {ints : List Int32} {strings : List String} {frames : List Frame}
    (found : l.get? script.id = some script) (locals : script.HasLocals ints strings)
    (known : ∀ f ∈ frames, l.get? f.script.id = some f.script) (depth : frames.length ≤ maxFrames)
    (linked : Linked script frames)
    (frameLocals : ∀ f ∈ frames, f.script.HasLocals f.intLocals f.stringLocals) :
    Sound l { i with script, pc, intLocals := ints, stringLocals := strings, frames } where
  script := found
  root := h.root
  frames := known
  depth := depth
  linked := linked
  locals := locals
  frameLocals := frameLocals
  report r hr := by
    have none := h.abort_eq_none (by rw [running]; nofun)
    nomatch none.symm.trans hr
  waiting suspended := by
    change i.execution.isSuspended at suspended
    rw [running] at suspended
    nomatch suspended

/-- The invariant of a running invocation does not depend on its position. -/
theorem Invocation.Sound.moved {i : Invocation} (h : i.Sound l) (running : i.execution = .running)
    (pc : Int32) : Sound l { i with pc } :=
  h.entered running h.script h.locals h.frames h.depth h.linked h.frameLocals

/-- One change keeps the invariant, if it is made by the instruction at the position. -/
theorem Change.sound {env : Env} {o : Opcode} {s t : Scene} (c : Change env o s t)
    (ids : env.library.KeepsIds) (running : s.invocation.execution = .running)
    (there : s.invocation.script.opcode? s.invocation.pc = some o.id)
    (hs : s.invocation.Sound env.library) : t.invocation.Sound env.library := by
  cases c with
  | nothing => exact hs
  | branch sum => exact hs.moved running _
  | intLocal index value =>
    refine { hs with locals := ⟨?_, hs.locals.strings⟩ }
    rw [List.length_set]
    exact hs.locals.ints
  | stringLocal index value =>
    refine { hs with locals := ⟨hs.locals.ints, ?_⟩ }
    rw [List.length_set]
    exact hs.locals.strings
  | @call callee args i ho found entered =>
    obtain ⟨room, rfl⟩ := Invocation.call_eq_ok entered
    have id : callee.id = s.invocation.intOperand := ids _ _ found
    have linked : Linked callee (⟨s.invocation.script, s.invocation.pc, s.invocation.intLocals,
        s.invocation.stringLocals⟩ :: s.invocation.frames) := by
      refine ⟨⟨?_, id.symm⟩, hs.linked⟩
      rcases ho with rfl | rfl
      · exact .inl there
      · exact .inr there
    exact hs.entered running (id ▸ found) (callee.hasLocals_start args)
      (List.forall_mem_cons.2 ⟨hs.script, hs.frames⟩) room linked
      (List.forall_mem_cons.2 ⟨hs.locals, hs.frameLocals⟩)
  | @jump target args _ found =>
    have id : target.id = s.invocation.intOperand := ids _ _ found
    exact hs.entered running (id ▸ found) (target.hasLocals_start args) nofun (Nat.zero_le _) trivial
      nofun
  | @leave i _ back =>
    obtain ⟨f, frames, stack, rfl⟩ := Invocation.leave?_eq_some back
    have known := hs.frames
    have depth := hs.depth
    have linked := hs.linked
    have frameLocals := hs.frameLocals
    rw [stack] at known depth linked frameLocals
    exact hs.entered running (known f List.mem_cons_self) (frameLocals f List.mem_cons_self)
      (fun g hg => known g (List.mem_cons_of_mem f hg)) (Nat.le_of_succ_le depth) linked.2
      fun g hg => frameLocals g (List.mem_cons_of_mem f hg)
  | finish _ bottom =>
    have none := hs.abort_eq_none (by rw [running]; nofun)
    exact { hs with report := fun r hr => (nomatch none.symm.trans hr), waiting := nofun }
  | wait execution delay =>
    have none := hs.abort_eq_none (by rw [running]; nofun)
    refine { hs with report := fun r hr => (nomatch none.symm.trans hr), waiting := fun _ => ?_ }
    exact Option.isSome_of_eq_some there
  | search query => exact hs.congr rfl
  | found slot npc => exact hs.congr rfl
  | lost slot => exact hs.congr rfl
  | world => exact hs
  | random => exact hs

/-! ## Runs and entries -/

namespace Runner

variable {r : Runner} {s t : Scene}

theorem sound_advance (running : s.invocation.execution = .running) (hs : s.invocation.Sound l) :
    (advance s).invocation.Sound l :=
  (hs.moved running (s.invocation.pc + 1)).congr rfl

theorem Next.sound (standard : r.registry = Op.standard) (ids : r.library.KeepsIds)
    (next : r.Next s t) (hs : s.invocation.Sound r.library) : t.invocation.Sound r.library := by
  obtain ⟨o, there, u, v, before, change, after⟩ := step_ok standard next.step
  have hu := before.sound (sound_advance next.running hs)
  obtain ⟨ints, strings, log, rfl⟩ := before
  exact after.sound (change.sound ids next.running there hu)

/-- An entry that is not refused starts its loop on a sound invocation: a live one, or one that starts
    anew. -/
theorem sound_started {reset benchmark : Bool} (hs : s.invocation.Sound l)
    (admits : Admits reset s.invocation) : (started reset benchmark s).invocation.Sound l := by
  cases reset with
  | false =>
    have none := hs.abort_eq_none fun h => by
      have live := admits.2 rfl
      rw [h] at live
      nomatch live
    exact { hs with report := fun r hr => (nomatch none.symm.trans hr), waiting := nofun }
  | true => exact {
      script := hs.root
      root := hs.root
      frames := nofun
      depth := Nat.zero_le _
      linked := trivial
      locals := Script.hasLocals_start _ _
      frameLocals := nofun
      report := nofun
      waiting := nofun }

/-- The report of a fault shows the invocation as it is left. -/
theorem sound_abort (f : Fault) (hs : s.invocation.Sound l) : (abort s f).invocation.Sound l := by
  rw [abort_invocation]
  refine { hs with report := fun r hr => ?_, waiting := nofun }
  cases hr
  refine ⟨rfl, ?_⟩
  show _ :: _ = _ :: _
  rw [List.map_map]
  rfl

/-- A scene in which an instruction has failed is as sound as the one before. -/
theorem Fails.sound (standard : r.registry = Op.standard) {f : Fault} (fails : r.Fails s f t)
    (hs : s.invocation.Sound l) : t.invocation.Sound l :=
  (step_error standard fails.step).1.sound (sound_advance fails.running hs)

/-- Every part of an entry keeps an invocation sound. -/
theorem keeps_sound (standard : r.registry = Op.standard) (ids : r.library.KeepsIds) :
    r.Keeps fun s => s.invocation.Sound r.library where
  started _ _ admits hs := sound_started hs admits
  next next hs := next.sound standard ids hs
  fails fails hs := fails.sound standard hs
  reported f hs := sound_abort f hs
  unnamed hs := { hs with report := fun r hr => ⟨rfl, (hs.report r hr).2⟩, waiting := nofun }
  refused _ hs := hs

theorem Passes.sound (standard : r.registry = Op.standard) (ids : r.library.KeepsIds)
    (passes : r.Passes s t) (hs : s.invocation.Sound r.library) : t.invocation.Sound r.library :=
  (keeps_sound standard ids).passes passes hs

/-- Whatever is reached from a start on a script of the library is sound. -/
theorem Reached.sound (standard : r.registry = Op.standard) (ids : r.library.KeepsIds)
    {i : Invocation} (reached : r.Reached i) : i.Sound r.library := by
  induction reached with
  | @start id script _ _ _ _ _ found started =>
    have same : script.id = id := ids id script found
    exact Invocation.sound_start (same ▸ found) started
  | execute reset benchmark world log _ ih =>
    exact (keeps_sound standard ids).execute (s := ⟨_, world, log⟩) reset benchmark ih

end Runner

end TickScript
