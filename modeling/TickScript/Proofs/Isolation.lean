import TickScript.Proofs.Course

/-
  Calls are isolated: a return finds the caller as the call left it.

  A call puts the script, the position and the locals of the caller on the stack of frames and starts the
  callee on locals of its own.  As long as the stack stays higher than at the call, no instruction reaches
  the caller's frame or what lies under it, however many calls, jumps, returns and waits there are in
  between.  The return that comes down to the height of the call takes up this very frame.

    popArguments_ends       the arguments are the tops of the stacks, in the order in which they were pushed
    Entered                 what a call does
    Change.suffix           no change reaches below a height that it stays above
    calls_isolated          both ends of a call, over any entries without a reset
-/

namespace TickScript

/-! ## Arguments -/

namespace Op

/-- Taking from the top of a stack splits it. -/
theorem splitTop?_go {α : Type} : ∀ (n : Nat) (taken stack : List α) {out rest : List α},
    splitTop?.go taken n stack = some (out, rest) →
      ∃ top, top.length = n ∧ out = top.reverse ++ taken ∧ stack = top ++ rest := by
  intro n
  induction n with
  | zero =>
    intro taken stack out rest h
    simp only [splitTop?.go, Option.some.injEq, Prod.mk.injEq] at h
    obtain ⟨rfl, rfl⟩ := h
    exact ⟨[], rfl, rfl, rfl⟩
  | succ n ih =>
    intro taken stack out rest h
    cases stack with
    | nil => nomatch h
    | cons a stack =>
      obtain ⟨top, length, rfl, rfl⟩ := ih (a :: taken) stack h
      refine ⟨a :: top, ?_, ?_, rfl⟩
      · rw [List.length_cons, length]
      · simp

theorem splitTop?_eq_some {α : Type} {n : Nat} {stack out rest : List α}
    (h : splitTop? n stack = some (out, rest)) : out.length = n ∧ stack = out.reverse ++ rest := by
  obtain ⟨top, length, rfl, rfl⟩ := splitTop?_go n [] stack h
  constructor
  · simp [length]
  · simp

/-- The arguments that a script declares are taken from the tops of the stacks. -/
theorem popArguments_ends (c : Script) (env : Env) (s : Scene) :
    Ends (Language.popArguments c) env s
      (fun args t => ∃ (ints : List Int32) (strings : List String),
        args = ints.map Value.int ++ strings.map Value.text ∧
        ints.length = c.intArgCount.toNat ∧ strings.length = c.stringArgCount.toNat ∧
        s.invocation.ints = ints.reverse ++ t.invocation.ints ∧
        s.invocation.strings = strings.reverse ++ t.invocation.strings ∧
        t = { s with invocation := { s.invocation with
          ints := t.invocation.ints, strings := t.invocation.strings } })
      fun _ _ => True := by
  have strings : Ends (popStrings c.stringArgCount.toNat) env s
      (fun strings t => strings.length = c.stringArgCount.toNat ∧
        s.invocation.strings = strings.reverse ++ t.invocation.strings ∧
        t = { s with invocation := { s.invocation with strings := t.invocation.strings } })
      fun _ _ => True := by
    unfold Ends popStrings takeStrings
    cases split : splitTop? c.stringArgCount.toNat s.invocation.strings with
    | none => trivial
    | some taken =>
      obtain ⟨length, stack⟩ := splitTop?_eq_some split
      exact ⟨length, stack, rfl⟩
  refine strings.bind ?_
  rintro strings t ⟨stringCount, stringStack, same⟩
  have ints : Ends (popInts c.intArgCount.toNat) env t
      (fun ints u => ints.length = c.intArgCount.toNat ∧
        t.invocation.ints = ints.reverse ++ u.invocation.ints ∧
        u = { t with invocation := { t.invocation with ints := u.invocation.ints } })
      fun _ _ => True := by
    unfold Ends popInts takeInts
    cases split : splitTop? c.intArgCount.toNat t.invocation.ints with
    | none => trivial
    | some taken =>
      obtain ⟨length, stack⟩ := splitTop?_eq_some split
      exact ⟨length, stack, rfl⟩
  refine ints.bind ?_
  rintro ints u ⟨intCount, intStack, same'⟩
  rw [same] at intStack same'
  rw [same'] at intStack ⊢
  exact ⟨ints, strings, rfl, intCount, stringCount, intStack, stringStack, rfl⟩

end Op

/-! ## Entering a script -/

/-- What a call puts on the stack of frames. -/
def Invocation.frame (i : Invocation) : Frame := ⟨i.script, i.pc, i.intLocals, i.stringLocals⟩

/-- `Entered s t callee ints strings`: a call of the callee with these arguments leads from `s` to `t`.  The
    arguments are gone from the stacks, the callee has them and zeros or empty strings behind them as its
    locals, and the caller is on the stack of frames. -/
structure Entered (s t : Scene) (callee : Script) (ints : List Int32) (strings : List String) :
    Prop where
  script : t.invocation.script = callee
  pc : t.invocation.pc = -1
  intLocals : t.invocation.intLocals =
    ints ++ List.replicate (callee.intLocalCount.toNat - ints.length) 0
  stringLocals : t.invocation.stringLocals =
    strings ++ List.replicate (callee.stringLocalCount.toNat - strings.length) ""
  ints : s.invocation.ints = ints.reverse ++ t.invocation.ints
  strings : s.invocation.strings = strings.reverse ++ t.invocation.strings
  frames : t.invocation.frames = s.invocation.frame :: s.invocation.frames

namespace Invocation

/-- The locals with which a script starts, from separate arguments. -/
theorem startInts_append (c : Script) (ints : List Int32) (strings : List String) :
    startInts c (ints.map Value.int ++ strings.map Value.text) =
      ints ++ List.replicate (c.intLocalCount.toNat - ints.length) 0 := by
  have kept : (ints.map Value.int ++ strings.map Value.text).filterMap Value.asInt? = ints := by
    simp [List.filterMap_map, Function.comp_def, Value.asInt?]
  unfold startInts filled
  rw [kept]

theorem startStrings_append (c : Script) (ints : List Int32) (strings : List String) :
    startStrings c (ints.map Value.int ++ strings.map Value.text) =
      strings ++ List.replicate (c.stringLocalCount.toNat - strings.length) "" := by
  have kept : (ints.map Value.int ++ strings.map Value.text).filterMap Value.asText? = strings := by
    simp [List.filterMap_map, Function.comp_def, Value.asText?]
  unfold startStrings filled
  rw [kept]

end Invocation

/-- How many ints and strings a call instruction hands over. -/
def Script.argCounts (callee : Script) (o : Opcode) : Nat × Nat :=
  if o = .gosubWithParams then (callee.intArgCount.toNat, callee.stringArgCount.toNat) else (0, 0)

/-- A call with arguments that have been taken from the stacks enters the callee with them. -/
theorem Entered.of_call {s t u : Scene} {callee : Script} {ints : List Int32} {strings : List String}
    (takenInts : s.invocation.ints = ints.reverse ++ t.invocation.ints)
    (takenStrings : s.invocation.strings = strings.reverse ++ t.invocation.strings)
    (same : t = { s with invocation := { s.invocation with
      ints := t.invocation.ints, strings := t.invocation.strings } })
    (called : t.invocation.call callee (ints.map Value.int ++ strings.map Value.text) =
      .ok u.invocation) : Entered s u callee ints strings := by
  obtain ⟨-, entered⟩ := Invocation.call_eq_ok called
  rw [Invocation.startInts_append, Invocation.startStrings_append] at entered
  refine ⟨?_, ?_, ?_, ?_, ?_, ?_, ?_⟩
  · rw [entered]
  · rw [entered]
  · rw [entered]
  · rw [entered]
  · rw [entered]
    exact takenInts
  · rw [entered]
    exact takenStrings
  · rw [entered, same]
    rfl

namespace Op

variable {env : Env} {s t : Scene}

/-- A change that succeeds leaves the invocation that it computes. -/
theorem tryUpdate_invocation_ends (f : Invocation → Except Fault Invocation) (env : Env) (s : Scene) :
    Ends (tryUpdate f) env s (fun _ t => f s.invocation = .ok t.invocation) fun _ _ => True := by
  unfold Ends tryUpdate
  cases run : f s.invocation with
  | ok i => rfl
  | error e => trivial

theorem call_invocation_ends (callee : Script) (args : List Value) (env : Env) (s : Scene) :
    Ends (call callee args) env s
      (fun _ t => s.invocation.call callee args = .ok t.invocation) fun _ _ => True := by
  have entering : Ends (tryUpdate (·.call callee args)) env s
      (fun _ t => s.invocation.call callee args = .ok t.invocation) fun _ _ => True :=
    tryUpdate_invocation_ends _ env s
  -- The remark on the depth leaves the invocation.
  exact entering.bind fun _ t called => called

namespace Language

/-- A call without parameters hands over nothing. -/
theorem gosub_ends (env : Env) (s : Scene) :
    Ends gosub env s
      (fun _ t => ∃ callee, env.library.get? s.invocation.intOperand = some callee ∧
        Entered s t callee [] []) fun _ _ => True := by
  refine ((callee_ends env s).mono (fun _ _ h => h) fun _ _ _ => trivial).bind ?_
  rintro callee t ⟨rfl, found⟩
  refine (call_invocation_ends callee [] env t).mono (fun _ u called => ?_) fun _ _ h => h
  exact ⟨callee, found, .of_call rfl rfl rfl called⟩

/-- A call with parameters hands over as many as the callee declares. -/
theorem gosubWithParams_ends (env : Env) (s : Scene) :
    Ends gosubWithParams env s
      (fun _ t => ∃ callee ints strings, env.library.get? s.invocation.intOperand = some callee ∧
        ints.length = callee.intArgCount.toNat ∧ strings.length = callee.stringArgCount.toNat ∧
        Entered s t callee ints strings) fun _ _ => True := by
  refine ((callee_ends env s).mono (fun _ _ h => h) fun _ _ _ => trivial).bind ?_
  rintro callee t ⟨rfl, found⟩
  refine (popArguments_ends callee env t).bind ?_
  rintro _ u ⟨ints, strings, rfl, intCount, stringCount, takenInts, takenStrings, same⟩
  refine (call_invocation_ends callee _ env u).mono (fun _ v called => ?_) fun _ _ h => h
  exact ⟨callee, ints, strings, found, intCount, stringCount,
    .of_call takenInts takenStrings same called⟩

end Language

end Op

/-! ## Frames that nothing reaches -/

/-- A change that stays above a height leaves the frames below it. -/
theorem Change.suffix {env : Env} {o : Opcode} {s t : Scene} (c : Change env o s t)
    {base : List Frame} (below : base <:+ s.invocation.frames) (above : base.length ≤ t.depth) :
    base <:+ t.invocation.frames := by
  cases c with
  | call args _ _ entered =>
    obtain ⟨-, rfl⟩ := Invocation.call_eq_ok entered
    exact below.trans (List.suffix_cons _ _)
  | jump args _ _ =>
    have empty : base = [] := List.eq_nil_of_length_eq_zero (Nat.le_zero.1 above)
    rw [empty]
    exact List.nil_suffix
  | leave _ back =>
    obtain ⟨f, frames, stack, rfl⟩ := Invocation.leave?_eq_some back
    rw [stack] at below
    rcases List.suffix_cons_iff.1 below with whole | rest
    · have height : base.length = frames.length + 1 := by rw [whole, List.length_cons]
      have above : base.length ≤ frames.length := above
      omega
    · exact rest
  | nothing | branch | intLocal | stringLocal | finish | wait | search | found | lost | world
    | random => exact below

theorem Scene.Restacked.frames {s t : Scene} (h : s.Restacked t) :
    t.invocation.frames = s.invocation.frames := by
  obtain ⟨_, _, _, rfl⟩ := h
  rfl

theorem Effect.suffix {env : Env} {o : Opcode} {s t : Scene} (h : Effect env o s t)
    {base : List Frame} (below : base <:+ s.invocation.frames) (above : base.length ≤ t.depth) :
    base <:+ t.invocation.frames := by
  obtain ⟨u, v, before, change, after⟩ := h
  unfold Scene.depth at above
  rw [after.frames] at above ⊢
  rw [← before.frames] at below
  exact change.suffix below above

namespace Runner

variable {r : Runner} {s t u v : Scene} {base : List Frame}

theorem Calls.suffix (standard : r.registry = Op.standard) (calls : r.Calls u t)
    (below : base <:+ u.invocation.frames) (above : base.length ≤ t.depth) :
    base <:+ t.invocation.frames := by
  obtain ⟨opcode, -, done⟩ := calls
  obtain ⟨_, -, effect⟩ := (r.dispatch_ends standard opcode u).of_ok done
  exact effect.suffix below above

/-- Where the first instruction leaves frames at the bottom and all the others are called above them, they
    stay at the bottom. -/
theorem suffix_of_isChain (standard : r.registry = Op.standard) :
    ∀ (us : List Scene) (u : Scene), (u :: us).IsChain r.Follows →
      (∀ t, r.Calls u t → base.length ≤ t.depth → base <:+ t.invocation.frames) →
      (∀ v ∈ us, base.length ≤ v.depth) → ∀ v ∈ us, base <:+ v.invocation.frames := by
  intro us
  induction us with
  | nil =>
    intro u _ _ _
    exact List.forall_mem_nil _
  | cons v us ih =>
    intro u chain left above
    obtain ⟨⟨t, calls, resumes⟩, rest⟩ := List.isChain_cons_cons.1 chain
    have frames : v.invocation.frames = t.invocation.frames := by rw [resumes]
    have height : base.length ≤ v.depth := above v List.mem_cons_self
    have there : base <:+ v.invocation.frames := by
      rw [frames]
      refine left t calls ?_
      unfold Scene.depth at height ⊢
      rwa [frames] at height
    have others := ih v rest (fun w calls high => calls.suffix standard there high) fun w mem =>
      above w (List.mem_cons_of_mem v mem)
    exact List.forall_mem_cons.2 ⟨there, others⟩

/-! ## Calls and their returns -/

/-- A call instruction that is executed enters the script that its operand names. -/
theorem Calls.entered (standard : r.registry = Op.standard) (calls : r.Calls s t) {o : Opcode}
    (isCall : o = .gosub ∨ o = .gosubWithParams) (there : s.opcode? = some o.id) :
    ∃ callee ints strings, r.library.get? s.invocation.intOperand = some callee ∧
      (ints.length, strings.length) = callee.argCounts o ∧ Entered s t callee ints strings := by
  obtain ⟨opcode, there', done⟩ := calls
  cases there.symm.trans there'
  rcases isCall with rfl | rfl
  · rw [dispatch_of_listed standard Op.Language.table_listed (Op.mem_of_lookup .gosub rfl)] at done
    obtain ⟨callee, found, entered⟩ := (Op.Language.gosub_ends r.env s).of_ok done
    exact ⟨callee, [], [], found, rfl, entered⟩
  · rw [dispatch_of_listed standard Op.Language.table_listed
      (Op.mem_of_lookup .gosubWithParams rfl)] at done
    obtain ⟨callee, ints, strings, found, intCount, stringCount, entered⟩ :=
      (Op.Language.gosubWithParams_ends r.env s).of_ok done
    refine ⟨callee, ints, strings, found, ?_, entered⟩
    rw [intCount, stringCount]
    rfl

/-- A return that is executed takes up the innermost frame. -/
theorem Calls.left (standard : r.registry = Op.standard) (calls : r.Calls s t)
    (there : s.opcode? = some Opcode.leave.id) {f : Frame} {frames : List Frame}
    (stack : s.invocation.frames = f :: frames) :
    t.invocation = { s.invocation with
      script := f.script, pc := f.pc, intLocals := f.intLocals, stringLocals := f.stringLocals,
      frames } := by
  obtain ⟨opcode, there', done⟩ := calls
  cases there.symm.trans there'
  rw [dispatch_of_listed standard Op.Language.table_listed (Op.mem_of_lookup .leave rfl)] at done
  cases done
  have back : s.invocation.leave? = some { s.invocation with
      script := f.script, pc := f.pc, intLocals := f.intLocals, stringLocals := f.stringLocals,
      frames } := by
    unfold Invocation.leave?
    rw [stack]
  show s.invocation.leave?.getD _ = _
  rw [back]
  rfl

/-- However long a call takes, and whatever the callee calls and waits for: the return that comes back to
    the depth of the call finds the script, the position, the locals and the frames that the call left, and
    goes on behind it.  The callee has started on its own locals, the arguments first. -/
theorem calls_isolated (library : Library) (config : Config) (budget : Option UInt32)
    {entries : List Entry} (keep : ∀ e ∈ entries, e.reset = false) {i : Invocation}
    {before rest : List Scene} {call : Scene}
    (course : (Runner.standard library config budget).course entries i = before ++ call :: rest)
    {o : Opcode} (isCall : o = .gosub ∨ o = .gosubWithParams) (there : call.opcode? = some o.id) :
    let r := Runner.standard library config budget
    (∀ t, r.Calls call t → ∃ callee ints strings,
      library.get? call.invocation.intOperand = some callee ∧
      (ints.length, strings.length) = callee.argCounts o ∧ Entered call t callee ints strings) ∧
    (∀ n ∈ rest.head?, ∃ t, r.Calls call t ∧ t.invocation.Resumes n.invocation) ∧
    ∀ inner ret after t, rest = inner ++ ret :: after → (∀ u ∈ inner, call.depth < u.depth) →
      call.depth < ret.depth → ret.opcode? = some Opcode.leave.id → r.Calls ret t →
      t.depth = call.depth →
      t.invocation.script = call.invocation.script ∧
      t.invocation.pc = call.invocation.pc ∧
      t.invocation.intLocals = call.invocation.intLocals ∧
      t.invocation.stringLocals = call.invocation.stringLocals ∧
      t.invocation.frames = call.invocation.frames ∧
      ∀ n ∈ after.head?, n.invocation.script = call.invocation.script ∧
        n.invocation.pc = call.invocation.pc + 1 := by
  intro r
  have standard : r.registry = Op.standard := standard_registry library config budget
  have chain : (before ++ call :: rest).IsChain r.Follows := course ▸ course_isChain entries i keep
  have fromCall : (call :: rest).IsChain r.Follows := (List.isChain_append.1 chain).2.1
  refine ⟨?_, ?_, ?_⟩
  · intro t calls
    exact calls.entered standard isCall there
  · intro n first
    exact (List.isChain_cons.1 fromCall).1 n first
  · intro inner ret after t split inside deeper isReturn calls back
    -- The frame that the call pushes stays on the frames below it until the return.
    have whole : call :: rest = (call :: (inner ++ [ret])) ++ after :=
      congrArg (call :: ·) (split.trans (List.append_cons inner ret after))
    rw [whole] at fromCall
    obtain ⟨toReturn, -, next⟩ := List.isChain_append.1 fromCall
    have entering : ∀ u, r.Calls call u → call.invocation.frame :: call.invocation.frames <:+
        u.invocation.frames := by
      intro u calls
      obtain ⟨callee, ints, strings, -, -, entered⟩ := calls.entered standard isCall there
      exact ⟨[], entered.frames.symm⟩
    have above : ∀ u ∈ inner ++ [ret],
        (call.invocation.frame :: call.invocation.frames).length ≤ u.depth := by
      intro u mem
      rcases List.mem_append.1 mem with within | last
      · exact inside u within
      · rw [List.mem_singleton.1 last]
        exact deeper
    have kept := suffix_of_isChain standard (inner ++ [ret]) call toReturn
      (fun u calls _ => entering u calls) above ret (by simp)
    obtain ⟨top, stack⟩ := kept
    cases top with
    | cons g top =>
      -- There would still be a frame above that of the call.
      have left := calls.left standard isReturn stack.symm
      have frames : t.invocation.frames = top ++ call.invocation.frame :: call.invocation.frames := by
        rw [left]
        rfl
      unfold Scene.depth at back
      rw [frames, List.length_append, List.length_cons] at back
      omega
    | nil =>
      have left := calls.left standard isReturn stack.symm
      rw [left]
      refine ⟨rfl, rfl, rfl, rfl, rfl, ?_⟩
      intro n first
      have last : ret ∈ (call :: (inner ++ [ret])).getLast? := by simp [List.getLast?_cons]
      obtain ⟨t', calls', resumes⟩ := next ret last n first
      cases calls.unique calls'
      rw [resumes, left]
      exact ⟨rfl, rfl⟩

/-! ## A call with a wait in it -/

/-- A script that calls another one and is finished. -/
def patientScript : Script :=
  ⟨1, some ⟨"patient", "patient.rs2", -1, [], #[], #[]⟩, 1, 0, 1, 0,
    #[Opcode.gosub.id, Opcode.leave.id], #[2], #[], #[]⟩

/-- The script that is called waits for a tick before it returns. -/
def slowScript : Script :=
  ⟨2, some ⟨"slow", "slow.rs2", -1, [], #[], #[]⟩, 0, 0, 0, 0,
    #[Opcode.pushConstantInt.id, Opcode.worldDelay.id, Opcode.leave.id], #[], #[], #[]⟩

def patientLibrary : Library := (Library.ofScripts [patientScript, slowScript]).toOption.getD .empty

def patientStart : Invocation := Invocation.new patientScript [.int 7]

/-- Both entries are made in an empty world. -/
def patientEntry : Entry := ⟨false, false, .empty, [], none⟩

/-- The scene in which the first entry starts its loop. -/
def patientEntered : Scene := started false false (patientEntry.scene patientStart)

/-- A scene of the first entry inside the call. -/
def slowScene (pc : Int32) (opcount : UInt32) (ints : List Int32) : Scene :=
  ⟨{ patientEntered.invocation with
      script := slowScript, pc, opcount, ints, intLocals := [],
      frames := [⟨patientScript, 0, [7], []⟩] },
    .empty, [⟨.trace, "gosub slow (fp=1)"⟩]⟩

/-- The scene in which the first entry ends. -/
def slowWaiting : Scene :=
  ⟨(slowScene 1 3 []).invocation.suspend .worldSuspended (some 1), .empty, (slowScene 1 3 []).log⟩

/-- The scene in which the second entry starts its loop. -/
def slowResumed : Scene := started false false (patientEntry.scene slowWaiting.invocation)

/-- The scene of the second entry after the return. -/
def patientReturned : Scene :=
  ⟨{ slowResumed.invocation with
      script := patientScript, pc := 0, opcount := 1, intLocals := [7], frames := [] }, .empty, []⟩

/-- The scene in which the second entry ends. -/
def patientFinished : Scene :=
  ⟨{ patientReturned.invocation with pc := 1, opcount := 2, execution := .finished }, .empty, []⟩

section

variable {r : Runner} (patient : r = standard patientLibrary .empty none)

include patient

theorem next_slowScene_call : r.Next patientEntered (slowScene (-1) 1 []) := by
  subst patient
  exact next_of_listed (standard_registry _ _ _) Op.Language.table_listed (Op.mem_of_lookup .gosub rfl)
    rfl rfl rfl rfl

theorem next_slowScene_push : r.Next (slowScene (-1) 1 []) (slowScene 0 2 [0]) := by
  subst patient
  exact next_of_listed (standard_registry _ _ _) Op.Language.table_listed
    (Op.mem_of_lookup .pushConstantInt rfl) rfl rfl rfl rfl

theorem next_slowWaiting : r.Next (slowScene 0 2 [0]) slowWaiting := by
  subst patient
  exact next_of_listed (standard_registry _ _ _) Op.Surroundings.table_listed
    (Op.mem_of_lookup .worldDelay rfl) rfl rfl rfl rfl

theorem next_patientReturned : r.Next slowResumed patientReturned := by
  subst patient
  exact next_of_listed (standard_registry _ _ _) Op.Language.table_listed (Op.mem_of_lookup .leave rfl)
    rfl rfl rfl rfl

theorem next_patientFinished : r.Next patientReturned patientFinished := by
  subst patient
  exact next_of_listed (standard_registry _ _ _) Op.Language.table_listed (Op.mem_of_lookup .leave rfl)
    rfl rfl rfl rfl

theorem execute_patientStart :
    r.execute false false (patientEntry.scene patientStart) = slowWaiting := by
  rw [execute_eq r ⟨rfl, fun _ => rfl⟩]
  have budget : r.allowance false patientEntered.invocation = 499997 + 1 + 1 + 1 := by
    subst patient
    rfl
  show settled (r.loop (r.allowance false patientEntered.invocation) patientEntered) = _
  rw [budget, loop_next (next_slowScene_call patient), loop_next (next_slowScene_push patient),
    loop_next (next_slowWaiting patient), loop_stopped (by decide)]
  rfl

theorem visits_patientStart : r.visits patientEntry patientStart =
    [advance patientEntered, advance (slowScene (-1) 1 []), advance (slowScene 0 2 [0])] := by
  have budget : r.allowance false patientEntered.invocation = 499997 + 1 + 1 + 1 := by
    subst patient
    rfl
  show r.dispatched (r.allowance false patientEntered.invocation) patientEntered = _
  rw [budget, dispatched_next (next_slowScene_call patient),
    dispatched_next (next_slowScene_push patient), dispatched_next (next_slowWaiting patient),
    dispatched_stopped (by decide)]

theorem visits_slowWaiting : r.visits patientEntry slowWaiting.invocation =
    [advance slowResumed, advance patientReturned] := by
  have budget : r.allowance false slowResumed.invocation = 499998 + 1 + 1 := by
    subst patient
    rfl
  show r.dispatched (r.allowance false slowResumed.invocation) slowResumed = _
  rw [budget, dispatched_next (next_patientReturned patient),
    dispatched_next (next_patientFinished patient), dispatched_stopped (by decide)]

end

/-- The course of the two entries: a call, two instructions of the callee, its return after the wait, and
    the instruction behind the call. -/
theorem course_patientStart :
    (standard patientLibrary .empty none).course [patientEntry, patientEntry] patientStart =
      [advance patientEntered, advance (slowScene (-1) 1 []), advance (slowScene 0 2 [0]),
        advance slowResumed, advance patientReturned] := by
  have left : (standard patientLibrary .empty none).execute patientEntry.reset patientEntry.benchmark
      (patientEntry.scene patientStart) = slowWaiting := execute_patientStart rfl
  rw [course, visits_patientStart rfl, left, course, visits_slowWaiting rfl, course]
  rfl

/-- The caller has its local back after the wait and goes on at its second instruction. -/
theorem calls_isolated_patientStart :
    ∃ call inner ret n t,
      (standard patientLibrary .empty none).course [patientEntry, patientEntry] patientStart =
        call :: (inner ++ [ret, n]) ∧
      call.opcode? = some Opcode.gosub.id ∧ inner.length = 2 ∧
      ret.opcode? = some Opcode.leave.id ∧ (standard patientLibrary .empty none).Calls ret t ∧
      t.invocation.intLocals = [7] ∧ n.invocation.script = patientScript ∧ n.invocation.pc = 1 := by
  have keep : ∀ e ∈ [patientEntry, patientEntry], e.reset = false := by simp [patientEntry]
  have course : (standard patientLibrary .empty none).course [patientEntry, patientEntry]
      patientStart = [] ++ advance patientEntered :: [advance (slowScene (-1) 1 []),
        advance (slowScene 0 2 [0]), advance slowResumed, advance patientReturned] :=
    course_patientStart
  obtain ⟨-, -, back⟩ := calls_isolated patientLibrary .empty none keep course (.inl rfl) rfl
  have calls : (standard patientLibrary .empty none).Calls (advance slowResumed) patientReturned :=
    (next_patientReturned rfl).calls
  have inside : ∀ u ∈ [advance (slowScene (-1) 1 []), advance (slowScene 0 2 [0])],
      (advance patientEntered).depth < u.depth := by
    simp only [List.forall_mem_cons]
    exact ⟨by decide, by decide, List.forall_mem_nil _⟩
  obtain ⟨-, -, ints, -, -, next⟩ :=
    back _ _ _ patientReturned rfl inside (by decide) rfl calls rfl
  obtain ⟨script, pc⟩ := next (advance patientReturned) rfl
  exact ⟨advance patientEntered, [advance (slowScene (-1) 1 []), advance (slowScene 0 2 [0])],
    advance slowResumed, advance patientReturned, patientReturned, course_patientStart, rfl, rfl, rfl,
    calls, ints, script, pc⟩

end Runner

end TickScript
