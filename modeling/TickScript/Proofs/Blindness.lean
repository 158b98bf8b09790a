import TickScript.Proofs.Run

/-
  What no instruction looks at.

  An entry counts its instructions and notes in the history which state it comes from, and the world logs
  its events.  All three are for those who look at a script from outside: no instruction reads any of
  them.  Nor does an instruction look at the stacks below its operands.  With another count, another history
  and an earlier past in place of its own, and with more under its stacks, a script computes the same
  values, fails with the same faults and adds the same events.

    Disguise                 such a change of a scene: a mark for count and history, and what else is put
                             under the stacks and before the log
    Op.Oblivious             the operation goes the same way in every disguise and leaves its scene in the
                             disguise, unless it runs out of operands
    Instruction.oblivious    every instruction is: the parts of handlers are, and sequencing keeps it
    loop_alike               so is the loop, as long as it does not complain of the budget
    abort_disguised          the report of a fault is the same, too
-/

namespace TickScript

/-! ## Worlds with an earlier past -/

namespace World

variable {past : Array WorldEvent} {w : World}

/-- The world with some events before those of its log. -/
def after (past : Array WorldEvent) (w : World) : World := { w with events := past ++ w.events }

theorem after_empty (w : World) : w.after #[] = w := by
  unfold after
  rw [Array.empty_append]

theorem record_after (past : Array WorldEvent) (w : World) (e : WorldEvent) :
    (w.after past).record e = (w.record e).after past := by
  unfold record after
  dsimp only
  rw [Array.append_push]

theorem playerEvent_after (past : Array WorldEvent) (w : World) (pid : Int32) (e : WorldEvent) :
    (w.after past).playerEvent pid e = (w.playerEvent pid e).map (after past) := by
  unfold playerEvent
  show (w.findPlayer pid >>= fun _ => pure ((w.after past).record e)) = _
  cases w.findPlayer pid with
  | error f => rfl
  | ok p => exact congrArg Except.ok (record_after past w e)

theorem npcEvent_after (past : Array WorldEvent) (w : World) (nid : Int32) (e : WorldEvent) :
    (w.after past).npcEvent nid e = (w.npcEvent nid e).map (after past) := by
  unfold npcEvent
  show (w.findNpc nid >>= fun _ => pure ((w.after past).record e)) = _
  cases w.findNpc nid with
  | error f => rfl
  | ok n => exact congrArg Except.ok (record_after past w e)

theorem updatePlayer_after (past : Array WorldEvent) (w : World) (pid : Int32)
    (f : Player → Except Fault Player) :
    (w.after past).updatePlayer pid f = (w.updatePlayer pid f).map (after past) := by
  unfold updatePlayer
  have same : (w.after past).findPlayer pid = w.findPlayer pid := rfl
  rw [same]
  cases w.findPlayer pid with
  | error e => rfl
  | ok p =>
    show (f p >>= _) = (f p >>= _).map _
    cases f p with
    | error e => rfl
    | ok p => rfl

theorem updateNpc_after (past : Array WorldEvent) (w : World) (nid : Int32) (f : Npc → Npc) :
    (w.after past).updateNpc nid f = (w.updateNpc nid f).map (after past) := by
  unfold updateNpc
  have same : (w.after past).findNpc nid = w.findNpc nid := rfl
  rw [same]
  cases w.findNpc nid with
  | error e => rfl
  | ok n => rfl

/-- Recording an event at the end of a change. -/
theorem bind_record_after (past : Array WorldEvent) (x : Except Fault World) (e : WorldEvent) :
    (x.map (after past) >>= fun w => pure (w.record e)) =
      (x >>= fun w => pure (w.record e)).map (after past) := by
  cases x with
  | error f => rfl
  | ok w => exact congrArg Except.ok (record_after past w e)

theorem updatePlayer_record_after (past : Array WorldEvent) (w : World) (pid : Int32)
    (f : Player → Except Fault Player) (e : WorldEvent) :
    ((w.after past).updatePlayer pid f >>= fun w => pure (w.record e)) =
      (w.updatePlayer pid f >>= fun w => pure (w.record e)).map (after past) := by
  rw [updatePlayer_after, bind_record_after]

theorem updateNpc_record_after (past : Array WorldEvent) (w : World) (nid : Int32) (f : Npc → Npc)
    (e : WorldEvent) :
    ((w.after past).updateNpc nid f >>= fun w => pure (w.record e)) =
      (w.updateNpc nid f >>= fun w => pure (w.record e)).map (after past) := by
  rw [updateNpc_after, bind_record_after]

end World

/-- What a change of the world does, and whether it can be made, does not depend on an earlier past. -/
theorem WorldCall.perform_after (past : Array WorldEvent) (call : WorldCall) (w : World) :
    call.perform (w.after past) = (call.perform w).map (World.after past) := by
  cases call with
  | message pid | playerAnim pid | playerSay pid | queuePlayerScript pid =>
    exact World.playerEvent_after past w pid _
  | npcAnim nid | npcSay nid | npcSpotanim nid | queueNpcScript nid =>
    exact World.npcEvent_after past w nid _
  | setVarp pid | setItemSlots pid => exact World.updatePlayer_after past w pid _
  | setVarn nid => exact World.updateNpc_after past w nid _
  | giveXp pid | teleport pid => exact World.updatePlayer_record_after past w pid _ _
  | npcDamage nid | npcSetTimer nid => exact World.updateNpc_record_after past w nid _ _
  | npcRemove nid =>
    show (w.findNpc nid >>= _) = (w.findNpc nid >>= _).map _
    cases w.findNpc nid with
    | error e => rfl
    | ok n => exact congrArg Except.ok (World.record_after past { w with npcs := w.npcs.erase nid } _)
  | addLoc loc duration =>
    exact congrArg Except.ok (World.record_after past { w with locs := w.locs ++ [loc] } _)
  | removeLoc loc duration =>
    show (if loc ∈ w.locs then _ else _) = (if loc ∈ w.locs then _ else _ : Except Fault World).map _
    split
    · exact congrArg Except.ok (World.record_after past { w with locs := w.locs.erase loc } _)
    · rfl
  | addObj obj receiver duration =>
    exact congrArg Except.ok (World.record_after past { w with objs := w.objs ++ [obj] } _)
  | removeObj obj duration =>
    show (if obj ∈ w.objs then _ else _) = (if obj ∈ w.objs then _ else _ : Except Fault World).map _
    split
    · exact congrArg Except.ok (World.record_after past { w with objs := w.objs.erase obj } _)
    · rfl

/-! ## Disguises -/

/-- How much more is counted, and the history that is put in place of the invocation's own, if any. -/
structure Mark where
  shift : UInt32
  history : Option (List Execution)

/-- Nothing is changed. -/
def Mark.keep : Mark := ⟨0, none⟩

/-- The invocation with the count and the history of the mark. -/
def Invocation.marked (m : Mark) (i : Invocation) : Invocation :=
  { i with opcount := i.opcount + m.shift, history := m.history.getD i.history }

theorem Invocation.marked_keep (i : Invocation) : i.marked .keep = i := by
  unfold marked
  show { i with opcount := i.opcount + 0, history := i.history } = i
  rw [UInt32.add_zero]

/-- A mark, what is put under the two stacks, and an earlier past of the world. -/
structure Disguise extends Mark where
  ints : List Int32
  strings : List String
  past : Array WorldEvent

/-- Nothing is put under the stacks. -/
def Disguise.Flat (d : Disguise) : Prop := d.ints = [] ∧ d.strings = []

/-- The invocation in the disguise. -/
def Invocation.disguised (d : Disguise) (i : Invocation) : Invocation :=
  { i.marked d.toMark with ints := i.ints ++ d.ints, strings := i.strings ++ d.strings }

/-- `s.Disguised d t`: `t` is `s` in the disguise; the remarks may be any. -/
structure Scene.Disguised (d : Disguise) (s t : Scene) : Prop where
  invocation : t.invocation = s.invocation.disguised d
  world : t.world = s.world.after d.past

namespace Scene.Disguised

variable {d : Disguise} {s t : Scene}

theorem execution (same : s.Disguised d t) : t.invocation.execution = s.invocation.execution := by
  rw [same.invocation]
  rfl

theorem script (same : s.Disguised d t) : t.invocation.script = s.invocation.script := by
  rw [same.invocation]
  rfl

theorem pc (same : s.Disguised d t) : t.invocation.pc = s.invocation.pc := by
  rw [same.invocation]
  rfl

theorem opcount (same : s.Disguised d t) :
    t.invocation.opcount = s.invocation.opcount + d.shift := by
  rw [same.invocation]
  rfl

end Scene.Disguised

/-- Two runs end alike: with the same result or the same fault, in scenes of which one is the other in the
    disguise.  Where the first one runs out of operands, nothing is said of one with more under its
    stacks. -/
inductive EndsAlike {α : Type} (d : Disguise) :
    EStateM.Result Fault Scene α → EStateM.Result Fault Scene α → Prop where
  | ok {a : α} {s t : Scene} : s.Disguised d t → EndsAlike d (.ok a s) (.ok a t)
  | error {f : Fault} {s t : Scene} : s.Disguised d t → EndsAlike d (.error f s) (.error f t)
  | underflow {f : Fault} {s : Scene} {e : EStateM.Result Fault Scene α} :
      f.kind = .stackUnderflow → ¬ d.Flat → EndsAlike d (.error f s) e

/-- What is taken from the top of a stack does not depend on what is below. -/
def Op.TakesTop {α β : Type} (take : List β → Option (α × List β)) : Prop :=
  ∀ {stack : List β} {a : α} {rest : List β} (below : List β),
    take stack = some (a, rest) → take (stack ++ below) = some (a, rest ++ below)

namespace Op

variable {α β : Type} {x : Op α}

/-- The operation goes the same way in every disguise, and leaves its scene in the disguise. -/
def Oblivious (x : Op α) : Prop :=
  ∀ (d : Disguise) (env : Env) (s t : Scene), s.Disguised d t → EndsAlike d (x env s) (x env t)

/-! ## The parts of handlers -/

theorem splitTop?_takesTop (n : Nat) : TakesTop (splitTop? n : List β → _) := by
  have go : ∀ (n : Nat) (taken stack : List β) {top rest : List β} (below : List β),
      splitTop?.go taken n stack = some (top, rest) →
      splitTop?.go taken n (stack ++ below) = some (top, rest ++ below) := by
    intro n
    induction n with
    | zero =>
      intro taken stack top rest below found
      rw [splitTop?.go] at found ⊢
      cases found
      rfl
    | succ n ih =>
      intro taken stack top rest below found
      cases stack with
      | nil => nomatch found
      | cons a stack => exact ih (a :: taken) stack below found
  intro stack top rest below found
  exact go n [] stack below found

namespace Oblivious

theorem pure (a : α) : Oblivious (Pure.pure a : Op α) := fun _ _ _ _ same => .ok same

theorem fail (f : Fault) : Oblivious (Op.fail f : Op α) := fun _ _ _ _ same => .error same

theorem bind {k : α → Op β} (hx : Oblivious x) (hk : ∀ a, Oblivious (k a)) :
    Oblivious (x >>= k) := by
  intro d env s t same
  have first := hx d env s t same
  rw [bind_apply, bind_apply]
  generalize x env s = left, x env t = right at first
  cases first with
  | ok after => exact hk _ d env _ _ after
  | error after => exact .error after
  | underflow kind deep => exact .underflow kind deep

theorem ask {f : Invocation → α} (hf : ∀ d i, f (i.disguised d) = f i) : Oblivious (Op.ask f) := by
  intro d env s t same
  unfold Op.ask
  rw [same.invocation, hf]
  exact .ok same

theorem update {f : Invocation → Invocation}
    (hf : ∀ d i, f (i.disguised d) = (f i).disguised d) : Oblivious (Op.update f) := by
  intro d env s t same
  refine .ok ⟨?_, same.world⟩
  show f t.invocation = _
  rw [same.invocation, hf]

theorem tryUpdate {f : Invocation → Except Fault Invocation}
    (hf : ∀ d i, f (i.disguised d) = (f i).map (Invocation.disguised d)) :
    Oblivious (Op.tryUpdate f) := by
  intro d env s t same
  unfold Op.tryUpdate
  rw [same.invocation, hf]
  cases f s.invocation with
  | ok i => exact .ok ⟨rfl, same.world⟩
  | error e => exact .error same

theorem takeInts {take : List Int32 → Option (α × List Int32)} (top : TakesTop take) :
    Oblivious (Op.takeInts take) := by
  intro d env s t same
  have stack : t.invocation.ints = s.invocation.ints ++ d.ints := by rw [same.invocation]; rfl
  unfold Op.takeInts
  rw [stack]
  cases found : take s.invocation.ints with
  | none =>
    by_cases flat : d.Flat
    · rw [flat.1, List.append_nil, found]
      exact .error same
    · exact .underflow rfl flat
  | some taken =>
    rw [top d.ints found]
    refine .ok ⟨?_, same.world⟩
    dsimp only
    rw [same.invocation]
    rfl

theorem takeStrings {take : List String → Option (α × List String)} (top : TakesTop take) :
    Oblivious (Op.takeStrings take) := by
  intro d env s t same
  have stack : t.invocation.strings = s.invocation.strings ++ d.strings := by
    rw [same.invocation]
    rfl
  unfold Op.takeStrings
  rw [stack]
  cases found : take s.invocation.strings with
  | none =>
    by_cases flat : d.Flat
    · rw [flat.2, List.append_nil, found]
      exact .error same
    · exact .underflow rfl flat
  | some taken =>
    rw [top d.strings found]
    refine .ok ⟨?_, same.world⟩
    dsimp only
    rw [same.invocation]
    rfl

theorem observe {f : World → Except Fault α} (blind : ∀ w events, f { w with events } = f w) :
    Oblivious (Op.observe f) := by
  intro d env s t same
  have told : f t.world = f s.world := by
    rw [same.world]
    exact blind s.world _
  unfold Op.observe
  rw [told]
  cases f s.world with
  | error e => exact .error same
  | ok a => exact .ok same

theorem fromLibrary (f : Library → Except Fault α) : Oblivious (Op.fromLibrary f) := by
  intro d env s t same
  unfold Op.fromLibrary
  cases f env.library with
  | error e => exact .error same
  | ok a => exact .ok same

theorem fromConfig (f : Config → Except Fault α) : Oblivious (Op.fromConfig f) := by
  intro d env s t same
  unfold Op.fromConfig
  cases f env.config with
  | error e => exact .error same
  | ok a => exact .ok same

theorem note (level : LogLevel) (text : String) : Oblivious (Op.note level text) :=
  fun _ _ _ _ same => .ok ⟨same.invocation, same.world⟩

theorem random (bound : Int32) : Oblivious (Op.random bound) := by
  intro d env s t same
  have drawn : t.world.random bound =
      ((s.world.random bound).1, (s.world.random bound).2.after d.past) := by
    rw [same.world]
    rfl
  unfold Op.random
  rw [drawn]
  exact .ok ⟨same.invocation, rfl⟩

theorem effect (call : WorldCall) : Oblivious (Op.effect call.perform) := by
  intro d env s t same
  unfold Op.effect
  rw [same.world, call.perform_after]
  cases call.perform s.world with
  | error e => exact .error same
  | ok w => exact .ok ⟨same.invocation, rfl⟩

theorem orFail (f : Fault) : ∀ a : Option α, Oblivious (Op.orFail f a)
  | some a => .pure a
  | none => .fail f

theorem require {pointer : Pointers} {slot : Invocation → Option α}
    (hs : ∀ d i, slot (i.disguised d) = slot i) : Oblivious (Op.require pointer slot) := by
  refine .bind (.ask fun _ _ => rfl) fun granted => ?_
  split
  · exact .bind (.ask hs) fun a => .orFail _ a
  · exact .fail _

theorem pushInt (n : Int32) : Oblivious (Op.pushInt n) := .update fun _ _ => rfl

theorem pushString (t : String) : Oblivious (Op.pushString t) := .update fun _ _ => rfl

theorem popInt : Oblivious Op.popInt := .takeInts fun {stack} _ _ below found => by
  rcases stack with - | ⟨a, rest⟩ <;> cases found
  rfl

theorem popInt2 : Oblivious Op.popInt2 := .takeInts fun {stack} _ _ below found => by
  rcases stack with - | ⟨b, - | ⟨a, rest⟩⟩ <;> cases found
  rfl

theorem popInt3 : Oblivious Op.popInt3 := .takeInts fun {stack} _ _ below found => by
  rcases stack with - | ⟨c, - | ⟨b, - | ⟨a, rest⟩⟩⟩ <;> cases found
  rfl

theorem popInt4 : Oblivious Op.popInt4 := .takeInts fun {stack} _ _ below found => by
  rcases stack with - | ⟨d, - | ⟨c, - | ⟨b, - | ⟨a, rest⟩⟩⟩⟩ <;> cases found
  rfl

theorem popInt5 : Oblivious Op.popInt5 := .takeInts fun {stack} _ _ below found => by
  rcases stack with - | ⟨e, - | ⟨d, - | ⟨c, - | ⟨b, - | ⟨a, rest⟩⟩⟩⟩⟩ <;> cases found
  rfl

theorem popString : Oblivious Op.popString := .takeStrings fun {stack} _ _ below found => by
  rcases stack with - | ⟨a, rest⟩ <;> cases found
  rfl

end Oblivious

/-! ## Handlers -/

theorem Quiet.oblivious (quiet : Quiet x) : Oblivious x := by
  induction quiet with
  | pure a => exact .pure a
  | bind _ _ ihx ihk => exact .bind ihx ihk
  | fail _ => exact .fail _
  | ask h => exact .ask fun d i => h (i.disguised d) i rfl
  | player slot => exact .require fun _ _ => rfl
  | protectedPlayer slot => exact .require fun _ _ => rfl
  | npc slot => exact .require fun _ _ => rfl
  | loc slot => exact .require fun _ _ => rfl
  | obj slot => exact .require fun _ _ => rfl
  | observe _ blind => exact .observe blind
  | fromLibrary _ => exact .fromLibrary _
  | fromConfig _ => exact .fromConfig _
  | note level text => exact .note level text
  | popInt => exact .popInt
  | popInt2 => exact .popInt2
  | popInt3 => exact .popInt3
  | popInt4 => exact .popInt4
  | popInt5 => exact .popInt5
  | popInts n => exact .takeInts (splitTop?_takesTop n)
  | popString => exact .popString
  | popStrings n => exact .takeStrings (splitTop?_takesTop n)
  | pushInt n => exact .pushInt n
  | pushString t => exact .pushString t

theorem callee_oblivious : Oblivious Language.callee :=
  .bind (.ask fun _ _ => rfl) fun _ => .fromLibrary _

theorem call_oblivious (callee : Script) (args : List Value) : Oblivious (call callee args) := by
  refine .bind (.tryUpdate fun d i => ?_) fun _ => .bind (.ask fun _ _ => rfl) fun _ => .note _ _
  show (if Invocation.maxFrames ≤ i.frames.length then _ else _) = Except.map _ (ite _ _ _)
  split <;> rfl

theorem branchBy_oblivious (offset : Int32) : Oblivious (branchBy offset) := by
  refine .tryUpdate fun d i => ?_
  have pc : (i.disguised d).pc = i.pc := rfl
  rw [pc]
  cases Arithmetic.checkedAdd? i.pc offset <;> rfl

theorem popIntLocal_oblivious : Oblivious Language.popIntLocal := by
  refine .bind Language.index_quiet.oblivious fun index => .bind .popInt fun value => ?_
  refine .tryUpdate fun d i => ?_
  show (if index < i.intLocals.length then _ else _) = Except.map _ (ite _ _ _)
  split <;> rfl

theorem popStringLocal_oblivious : Oblivious Language.popStringLocal := by
  refine .bind Language.index_quiet.oblivious fun index => .bind .popString fun value => ?_
  refine .tryUpdate fun d i => ?_
  show (if index < i.stringLocals.length then _ else _) = Except.map _ (ite _ _ _)
  split <;> rfl

theorem leave_oblivious : Oblivious Language.leave := by
  refine .update fun d i => ?_
  have same : (i.disguised d).leave? = i.leave?.map (Invocation.disguised d) := by
    have frames : (i.disguised d).frames = i.frames := rfl
    unfold Invocation.leave?
    rw [frames]
    cases i.frames <;> rfl
  rw [same]
  cases i.leave? <;> rfl

theorem dbFindnext_oblivious : Oblivious Database.dbFindnext := by
  refine .bind (.ask fun _ _ => rfl) fun query => ?_
  split
  · exact .fail _
  · split
    · exact .bind (.update fun _ _ => rfl) fun _ => .pushInt _
    · exact .pushInt _

theorem npcFinduid_oblivious : Oblivious Npc.npcFinduid := by
  refine .bind .popInt fun uid => ?_
  refine .bind Quiet.selectedSlot.oblivious fun slot => ?_
  refine .bind (resolve_quiet uid).oblivious fun found => ?_
  refine .bind (.update fun _ _ => rfl) fun _ => ?_
  split
  · exact .bind (.update fun _ _ => rfl) fun _ => .pushInt _
  · exact .bind (.note _ _) fun _ => .bind (.update fun _ _ => rfl) fun _ => .pushInt _

theorem Instruction.oblivious {o : Opcode} {g : Int32 → Prop} {h : Handler}
    (instruction : Instruction o g h) : Oblivious h := by
  induction instruction with
  | quiet quiet => exact quiet.oblivious
  | bind quiet _ ih => exact .bind quiet.oblivious ih
  | withProtected slot _ ih => exact .bind (.require fun _ _ => rfl) ih
  | credited _ _ ih => exact .bind (.ask fun _ _ => rfl) ih
  | isBound slots bound _ =>
    refine .bind Quiet.selectedSlot.oblivious fun slot =>
      .bind (.ask fun d i => ?_) fun _ => .pushInt _
    rw [bound (i.disguised d) i rfl]
  | branchBy offset => exact branchBy_oblivious offset
  | popIntLocal => exact popIntLocal_oblivious
  | popStringLocal => exact popStringLocal_oblivious
  | gosub => exact .bind callee_oblivious fun c => call_oblivious c []
  | gosubWithParams =>
    refine .bind callee_oblivious fun c => ?_
    exact .bind (popArguments_quiet c).oblivious fun args => call_oblivious c args
  | jump => exact .bind callee_oblivious fun _ => .update fun _ _ => rfl
  | jumpWithParams =>
    refine .bind callee_oblivious fun c => ?_
    exact .bind (popArguments_quiet c).oblivious fun _ => .update fun _ _ => rfl
  | leave => exact leave_oblivious
  | suspend execution delay _ _ _ _ => exact .update fun _ _ => rfl
  | search query => exact .update fun _ _ => rfl
  | dbFindnext => exact dbFindnext_oblivious
  | npcFinduid => exact npcFinduid_oblivious
  | random bound => exact .bind (.random bound) fun _ => .pushInt _
  | effect call _ _ => exact .effect call

end Op

/-! ## Instructions and reports -/

namespace Runner

variable {r : Runner} {d : Disguise} {s t : Scene}

theorem dispatch_oblivious (standard : r.registry = Op.standard) (id : Int32) :
    Op.Oblivious (r.dispatch id) := by
  unfold dispatch
  rw [standard]
  cases found : Op.standard.handler? id with
  | none => exact .fail _
  | some h =>
    obtain ⟨o, -, shape⟩ := Op.handler?_standard found
    exact (shape fun _ => False).oblivious

theorem advance_disguised (same : s.Disguised d t) : (advance s).Disguised d (advance t) := by
  refine ⟨?_, same.world⟩
  have counted : s.invocation.opcount + d.shift + 1 = s.invocation.opcount + 1 + d.shift := by
    rw [UInt32.add_assoc, UInt32.add_comm d.shift, UInt32.add_assoc]
  unfold advance
  rw [same.invocation]
  unfold Invocation.disguised Invocation.marked
  dsimp only
  rw [counted]

theorem step_alike (standard : r.registry = Op.standard) (same : s.Disguised d t) :
    EndsAlike d (r.step s) (r.step t) := by
  have moved := advance_disguised same
  unfold step
  dsimp only
  rw [moved.script, moved.pc]
  split
  · exact dispatch_oblivious standard _ d r.env _ _ moved
  · exact .error moved

/-- The loop was ended by the budget. -/
def Spent : EStateM.Result Fault Scene Unit → Prop
  | .ok _ _ => False
  | .error f _ => f.kind = .instructionBudgetExceeded

/-- The loop goes the same way in a disguise, unless it is ended by the budget: only then is the count
    read. -/
theorem loop_alike (standard : r.registry = Op.standard) : ∀ (left : Nat) {s t : Scene},
    s.Disguised d t → d.shift = 0 ∨ ¬ Spent (r.loop left s) →
      EndsAlike d (r.loop left s) (r.loop left t) := by
  intro left
  induction left with
  | zero =>
    intro s t same unread
    unfold loop at unread ⊢
    dsimp only at unread ⊢
    rw [same.execution, same.pc, same.script]
    split
    · exact .ok same
    next running =>
      split
      · exact .error same
      next inside =>
        rw [if_neg running, if_neg inside] at unread
        rcases unread with none | unspent
        · rw [same.opcount, none, UInt32.add_zero]
          exact .error same
        · exact absurd rfl unspent
  | succ left ih =>
    intro s t same unread
    unfold loop at unread ⊢
    dsimp only at unread ⊢
    rw [same.execution, same.pc, same.script]
    split
    · exact .ok same
    next running =>
      split
      · exact .error same
      next inside =>
        rw [if_neg running, if_neg inside] at unread
        have once := step_alike standard same
        generalize r.step s = there, r.step t = here at once unread ⊢
        cases once with
        | ok after => exact ih after unread
        | error after => exact .error after
        | underflow kind deep => exact .underflow kind deep

theorem note_disguised (same : s.Disguised d t) (level : LogLevel) (text : String) :
    (s.note level text).Disguised d (t.note level text) := ⟨same.invocation, same.world⟩

theorem deliver_disguised (same : s.Disguised d t) (line : String) :
    (deliver s line).Disguised d (deliver t line) := by
  refine ⟨by rw [deliver_invocation, deliver_invocation, same.invocation], ?_⟩
  have self : t.invocation.self = s.invocation.self := by rw [same.invocation]; rfl
  unfold deliver
  rw [self]
  split
  next p _ =>
    have sent : (s.world.after d.past).message p.pid line =
        (s.world.message p.pid line).map (World.after d.past) :=
      (WorldCall.message p.pid line).perform_after d.past s.world
    rw [same.world, sent]
    cases s.world.message p.pid line with
    | ok world => rfl
    | error f => exact same.world
  next => exact same.world

theorem foldl_deliver_disguised : ∀ (lines : List String) {s t : Scene}, s.Disguised d t →
    (lines.foldl deliver s).Disguised d (lines.foldl deliver t)
  | [], _, _, same => same
  | line :: lines, _, _, same => foldl_deliver_disguised lines (deliver_disguised same line)

theorem abort_disguised (same : s.Disguised d t) (f : Fault) :
    (abort s f).Disguised d (abort t f) := by
  have told : report t.invocation f = report s.invocation f := by
    rw [same.invocation]
    rfl
  refine ⟨?_, ?_⟩
  · rw [abort_invocation, abort_invocation, told, same.invocation]
    rfl
  · have delivered :=
      foldl_deliver_disguised (report s.invocation f).lines (note_disguised same .error f.headline)
    unfold abort
    dsimp only
    rw [told]
    exact delivered.world

end Runner

end TickScript
