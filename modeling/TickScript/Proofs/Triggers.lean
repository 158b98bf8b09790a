import TickScript.Proofs.Course
import TickScript.Proofs.Packing
import TickScript.Proofs.Success

/-
  Which script a trigger finds.

  A library keeps one script for each id, and for each lookup key the id of the script that was loaded last
  under it.  What it keeps is described by the list of scripts that were loaded, so that loading one more
  is putting it at the end of the list.  A lookup tries the keys for the type, for its category and for
  everything in this order, and what it finds first is the answer.

    lastUnder?              the script of a list that was loaded last under a key
    Library.Represents      a library and the scripts that were loaded into it
    Represents.load         loading fails at an id that is there already, and only there
    Represents.byTrigger?   a lookup in terms of the list
    triggers_dispatch       what is found, also by the instruction that puts off a script of a queue
-/

namespace TickScript

/-! ## Lists of scripts -/

/-- The script is to be found under the key. -/
def Script.isUnder (s : Script) (key : Int32) : Bool := s.info.any (·.lookupKey = key)

/-- The last script of the list that is to be found under the key. -/
def lastUnder? (scripts : List Script) (key : Int32) : Option Script :=
  (scripts.filter (·.isUnder key)).getLast?

/-- The most specific script of the list: the last one for the type, else the last one for the category,
    else the last one for everything. -/
def mostSpecific? (scripts : List Script) (t : Trigger) (type category : Int32) : Option Script :=
  (lastUnder? scripts (t.key (.type type))).or
    ((lastUnder? scripts (t.key (.category category))).or (lastUnder? scripts (t.key .everything)))

theorem lastUnder?_append (scripts : List Script) (s : Script) (key : Int32) :
    lastUnder? (scripts ++ [s]) key = if s.isUnder key then some s else lastUnder? scripts key := by
  unfold lastUnder?
  rw [List.filter_append]
  split
  next under =>
    have last : [s].filter (·.isUnder key) = [s] := List.filter_cons_of_pos under
    rw [last, List.getLast?_append]
    rfl
  next other =>
    have none : [s].filter (·.isUnder key) = [] := List.filter_cons_of_neg other
    rw [none, List.append_nil]

theorem mem_of_lastUnder? {scripts : List Script} {key : Int32} {s : Script}
    (h : lastUnder? scripts key = some s) : s ∈ scripts ∧ s.isUnder key :=
  List.mem_filter.1 (List.mem_of_getLast? h)

/-- What is found is under one of the three keys. -/
theorem isUnder_of_mostSpecific? {scripts : List Script} {t : Trigger} {type category : Int32}
    {s : Script} (found : mostSpecific? scripts t type category = some s) :
    ∃ g ∈ [Registration.type type, .category category, .everything], s.isUnder (t.key g) := by
  rcases Option.or_eq_some_iff.1 found with first | ⟨-, found⟩
  · exact ⟨_, .head _, (mem_of_lastUnder? first).2⟩
  rcases Option.or_eq_some_iff.1 found with second | ⟨-, third⟩
  · exact ⟨_, .tail _ (.head _), (mem_of_lastUnder? second).2⟩
  · exact ⟨_, .tail _ (.tail _ (.head _)), (mem_of_lastUnder? third).2⟩

/-- A script has at most one key. -/
theorem Script.isUnder_unique {s : Script} {key key' : Int32} (h : s.isUnder key)
    (h' : s.isUnder key') : key = key' := by
  obtain ⟨info, there, same⟩ := (Option.any_eq_true ..).1 h
  obtain ⟨info', there', same'⟩ := (Option.any_eq_true ..).1 h'
  cases there.symm.trans there'
  exact (of_decide_eq_true same).symm.trans (of_decide_eq_true same')

/-! ## What a library keeps -/

namespace Library

/-- `l.Represents scripts`: the library is what loading the scripts in this order leads to. -/
structure Represents (l : Library) (scripts : List Script) : Prop where
  nodup : (scripts.map (·.id)).Nodup
  found : ∀ id s, l.get? id = some s ↔ s ∈ scripts ∧ s.id = id
  keys : ∀ key, key ≠ -1 → l.idOfKey.get? key = (lastUnder? scripts key).map (·.id)

theorem represents_empty : empty.Represents [] where
  nodup := .nil
  found _ _ := ⟨nofun, fun h => nomatch h.1⟩
  keys _ _ := rfl

variable {l l' : Library} {scripts : List Script}

theorem Represents.contains_iff (h : l.Represents scripts) {id : Int32} :
    l.byId.contains id ↔ id ∈ scripts.map (·.id) := by
  rw [List.mem_map]
  refine Option.isSome_iff_exists.trans (exists_congr fun s => ?_)
  exact h.found id s

/-- One more script, with an id that is new. -/
theorem Represents.add (h : l.Represents scripts) {s : Script} (fresh : s.id ∉ scripts.map (·.id)) :
    ∃ l', l.add s = .ok l' ∧ l'.Represents (scripts ++ [s]) := by
  refine ⟨_, if_neg (mt h.contains_iff.1 fresh), ?_, ?_, ?_⟩
  · rw [List.map_append]
    refine List.nodup_append.2 ⟨h.nodup, List.nodup_singleton _, fun id there id' here => ?_⟩
    rintro rfl
    rw [List.map_singleton, List.mem_singleton] at here
    exact fresh (here ▸ there)
  · intro id s'
    show (l.byId.insert s.id s).get? id = some s' ↔ _
    rw [List.mem_append, List.mem_singleton]
    by_cases same : id = s.id
    · subst same
      rw [SortedMap.get?_insert_self]
      constructor
      · rintro ⟨⟩
        exact ⟨.inr rfl, rfl⟩
      · rintro ⟨there | rfl, id⟩
        · exact absurd (id ▸ List.mem_map_of_mem there) fresh
        · rfl
    · rw [SortedMap.get?_insert_of_ne l.byId s same]
      refine (h.found id s').trans (and_congr_left fun id => ?_)
      exact ⟨.inl, fun there => there.resolve_right fun last => same (id ▸ last ▸ rfl)⟩
  · intro key some
    rw [lastUnder?_append]
    dsimp only
    cases named : s.info with
    | none =>
      have other : ¬ s.isUnder key := by
        unfold Script.isUnder
        rw [named]
        exact nofun
      rw [if_neg other]
      exact h.keys key some
    | some info =>
      dsimp only
      have under : s.isUnder key ↔ info.lookupKey = key := by
        unfold Script.isUnder
        rw [named]
        exact decide_eq_true_iff
      by_cases same : info.lookupKey = key
      · rw [if_pos (under.2 same), if_neg (same ▸ some), same, SortedMap.get?_insert_self]
        rfl
      · rw [if_neg (mt under.1 same)]
        split
        · exact h.keys key some
        · rw [SortedMap.get?_insert_of_ne _ _ (Ne.symm same)]
          exact h.keys key some

/-- Loading more scripts fails at an id that is there already, and only there. -/
theorem Represents.load : ∀ {scripts : List Script} (more : List Script) {l : Library},
    l.Represents scripts →
    (∃ l', more.foldlM Library.add l = .ok l' ∧ l'.Represents (scripts ++ more)) ∨
      (∃ f, more.foldlM Library.add l = .error f) ∧ ¬ ((scripts ++ more).map (·.id)).Nodup := by
  intro scripts more
  induction more generalizing scripts with
  | nil =>
    intro l h
    rw [List.append_nil]
    exact .inl ⟨l, rfl, h⟩
  | cons s more ih =>
    intro l h
    rw [List.foldlM_cons]
    by_cases fresh : s.id ∉ scripts.map (·.id)
    · obtain ⟨l', added, h'⟩ := h.add fresh
      rw [added, List.append_cons]
      exact ih h'
    · have repeated := not_not.1 fresh
      have refused : l.add s = .error (.sameScriptId s.id) := if_pos (h.contains_iff.2 repeated)
      rw [refused]
      refine .inr ⟨⟨_, rfl⟩, fun nodup => ?_⟩
      rw [List.map_append] at nodup
      exact (List.nodup_append.1 nodup).2.2 s.id repeated s.id (List.mem_map_of_mem (.head _)) rfl

theorem represents_ofScripts (h : ofScripts scripts = .ok l) : l.Represents scripts := by
  rcases represents_empty.load scripts with ⟨l', loaded, represents⟩ | ⟨⟨f, failed⟩, -⟩
  · cases loaded.symm.trans h
    exact represents
  · cases failed.symm.trans h

theorem ofScripts_eq_error :
    (∃ f, ofScripts scripts = .error f) ↔ ¬ (scripts.map (·.id)).Nodup := by
  constructor
  · rintro ⟨f, failed⟩
    rcases represents_empty.load scripts with ⟨l', loaded, -⟩ | ⟨-, repeated⟩
    · cases loaded.symm.trans failed
    · exact repeated
  · intro repeated
    rcases represents_empty.load scripts with ⟨l', -, represents⟩ | ⟨failed, -⟩
    · exact absurd represents.nodup repeated
    · exact failed

/-- The first key under which a script was loaded decides. -/
theorem Represents.findSome? (h : l.Represents scripts) (keys : List Int32) (some : -1 ∉ keys) :
    (keys.findSome? l.idOfKey.get?).bind l.get? = keys.findSome? (lastUnder? scripts) := by
  induction keys with
  | nil => rfl
  | cons key keys ih =>
    obtain ⟨here, there⟩ := not_or.1 (mt List.mem_cons.2 some)
    rw [List.findSome?_cons, List.findSome?_cons, h.keys key (Ne.symm here)]
    cases last : lastUnder? scripts key with
    | none => exact ih there
    | some s => exact (h.found s.id s).2 ⟨(mem_of_lastUnder? last).1, rfl⟩

theorem Represents.byTrigger? (h : l.Represents scripts) (t : Trigger) (type category : Int32) :
    l.byTrigger? t type category = mostSpecific? scripts t type category := by
  have found := h.findSome? (t.keys type category) fun none => by
    obtain ⟨g, same⟩ : ∃ g, t.key g = -1 := by
      rcases List.mem_cons.1 none with first | none
      · exact ⟨.type type, first.symm⟩
      rcases List.mem_cons.1 none with second | none
      · exact ⟨.category category, second.symm⟩
      · exact ⟨.everything, (List.mem_singleton.1 none).symm⟩
    exact t.key_ne_neg_one g same
  refine Eq.trans found ?_
  unfold Trigger.keys mostSpecific?
  rw [List.findSome?_cons, List.findSome?_cons, List.findSome?_cons, List.findSome?_nil]
  show _ = (lastUnder? scripts (t.typeKey type)).or
    ((lastUnder? scripts (t.categoryKey category)).or (lastUnder? scripts t.defaultKey))
  cases lastUnder? scripts (t.typeKey type) with
  | some s => rfl
  | none =>
    cases lastUnder? scripts (t.categoryKey category) with
    | some s => rfl
    | none => cases lastUnder? scripts t.defaultKey <;> rfl

end Library

/-! ## Queues of npcs -/

/-- Where the subtraction wraps around, the difference is far above the last queue. -/
theorem sub_one_lt_twenty_iff {queue : Int32} :
    (0 ≤ queue - 1 ∧ queue - 1 < 20) ↔ 1 ≤ queue ∧ queue ≤ 20 := by
  have lower := queue.le_toInt
  have upper := queue.toInt_lt
  have literals : (0 : Int32).toInt = 0 ∧ (1 : Int32).toInt = 1 ∧ (20 : Int32).toInt = 20 :=
    ⟨rfl, rfl, rfl⟩
  rw [Int32.le_iff_toInt_le, Int32.lt_iff_toInt_lt, Int32.le_iff_toInt_le, Int32.le_iff_toInt_le,
    Int32.toInt_sub, Int.bmod_def]
  split <;> omega

theorem toInt_sub_one {queue : Int32} (first : 1 ≤ queue) : (queue - 1).toInt = queue.toInt - 1 := by
  have first : 1 ≤ queue.toInt := Int32.le_iff_toInt_le.1 first
  have bounded := queue.toInt_lt
  have one : (1 : Int32).toInt = 1 := rfl
  rw [Int32.toInt_sub, one]
  exact Int.bmod_eq_of_le (by omega) (by omega)

/-- The queues are numbered from one to twenty, and their triggers follow one after the other. -/
theorem Trigger.exists_queue? {queue : Int32} (numbered : 1 ≤ queue ∧ queue ≤ 20) :
    ∃ t, queue? (queue - 1) = some t ∧ (t.code.toNat : Int) = 19 + queue.toInt := by
  have inside := sub_one_lt_twenty_iff.2 numbered
  have last : queue.toInt ≤ 20 := Int32.le_iff_toInt_le.1 numbered.2
  have index := toInt_sub_one numbered.1
  have nonneg : 0 ≤ (queue - 1).toInt := Int32.le_iff_toInt_le.1 inside.1
  refine ⟨⟨firstQueue.code + UInt8.ofNat (queue - 1).toNatClampNeg⟩, ?_, ?_⟩
  · exact if_pos (Bool.and_eq_true_iff.2 ⟨decide_eq_true inside.1, decide_eq_true inside.2⟩)
  · rw [UInt8.toNat_add, UInt8.toNat_ofNat']
    show (((20 + (queue - 1).toInt.toNat % 2 ^ 8) % 2 ^ 8 : Nat) : Int) = _
    omega

theorem Trigger.queue?_eq_none {queue : Int32} (outside : ¬ (1 ≤ queue ∧ queue ≤ 20)) :
    queue? (queue - 1) = none := by
  refine if_neg fun inside => outside (sub_one_lt_twenty_iff.1 ?_)
  exact ((Bool.and_eq_true ..).mp inside).imp of_decide_eq_true of_decide_eq_true

/-- The scene with two operands taken, and the script put off if there is one. -/
def Scene.queued (s : Scene) (rest : List Int32) (nid : Int32) (script : Option Script)
    (delay : Int32) : Scene :=
  { s with
    invocation := { s.invocation with ints := rest }
    world := match script with
      | some c => s.world.record (.npcQueue nid c.id delay)
      | none => s.world }

namespace Op.Npc

variable (env : Env) {s : Scene} {queue delay : Int32} {rest : List Int32}

theorem npcQueue_of_queue? {trigger : Trigger} {npc : NpcRef} {n : TickScript.Npc}
    {type : EntityType} (ints : s.invocation.ints = delay :: queue :: rest)
    (number : Trigger.queue? (queue - 1) = some trigger)
    (permitted : s.invocation.pointers.includes (.npc s.invocation.selectedSlot))
    (bound : s.invocation.npcs.get s.invocation.selectedSlot = some npc)
    (held : s.world.npcs.get? npc.nid = some n)
    (listed : env.config.npcs.get? npc.typeId = some type) :
    npcQueue env s = .ok () (s.queued rest npc.nid
      (env.library.byTrigger? trigger type.id type.category) delay) := by
  unfold npcQueue
  let popped : Scene := { s with invocation := { s.invocation with ints := rest } }
  have found : requireNpc env popped = .ok npc popped :=
    requireNpc_eq_ok.2 ⟨rfl, permitted, bound⟩
  have chosen : fromLibrary (fun l => .ok (l.byTrigger? trigger type.id type.category)) env popped =
    .ok (env.library.byTrigger? trigger type.id type.category) popped := rfl
  refine (bind_of_ok (popInt2_eq_ok.2 ⟨rest, ints, rfl⟩)).trans ?_
  refine (bind_of_ok (orFail_eq_ok.2 ⟨rfl, number⟩)).trans ?_
  refine (bind_of_ok found).trans ?_
  refine (bind_of_ok (fromConfig_eq_ok.2 ⟨rfl, Config.entry_eq_ok.2 listed⟩)).trans ?_
  refine (bind_of_ok chosen).trans ?_
  cases env.library.byTrigger? trigger type.id type.category with
  | none => rfl
  | some script =>
    have records : s.world.queueNpcScript npc.nid script.id delay =
        .ok (s.world.record (.npcQueue npc.nid script.id delay)) :=
      Except.bind_eq_ok.2 ⟨n, World.findNpc_eq_ok.2 held, rfl⟩
    exact effect_eq_ok.2 ⟨_, records, rfl⟩

theorem npcQueue_of_none (ints : s.invocation.ints = delay :: queue :: rest)
    (number : Trigger.queue? (queue - 1) = none) :
    npcQueue env s = .error (.badQueue queue)
      { s with invocation := { s.invocation with ints := rest } } := by
  unfold npcQueue
  refine (bind_of_ok (popInt2_eq_ok.2 ⟨rest, ints, rfl⟩)).trans ?_
  dsimp only
  rw [number, bind_apply]
  rfl

end Op.Npc

/-! ## Dispatch -/

namespace Runner

/-- Loading a list of scripts fails if and only if two of them have the same id.  Otherwise a trigger finds
    the script that was loaded last for the type, else the one that was loaded last for its category, else
    the one that was loaded last for everything, if there is one.

    The keys of different registrations for different triggers are different, as long as the ids keep their
    value when they are shifted, and none of them is the -1 that stands for no registration.  So what is
    found is registered for that trigger, and for that type, that category or everything.

    An npc's queue is a number from one to twenty, and any other one is refused.  The script that the
    queue's trigger finds for the npc is put off, or nothing is if there is none. -/
theorem triggers_dispatch (scripts : List Script) :
    ((∃ f, Library.ofScripts scripts = .error f) ↔ ¬ (scripts.map (·.id)).Nodup) ∧
    (∀ (t u : Trigger) (g h : Registration), g.InRange → h.InRange → t.key g = u.key h →
      t = u ∧ g = h) ∧
    (∀ (t : Trigger) (g : Registration), t.key g ≠ -1) ∧
    ∀ library, Library.ofScripts scripts = .ok library →
      (∀ t type category,
        library.byTrigger? t type category = mostSpecific? scripts t type category) ∧
      (∀ t type category s, library.byTrigger? t type category = some s →
        (Registration.type type).InRange → (Registration.category category).InRange →
        ∀ (u : Trigger) (g : Registration), g.InRange → s.isUnder (u.key g) →
          u = t ∧ g ∈ [.type type, .category category, .everything]) ∧
      ∀ config budget,
        let r := Runner.standard library config budget
        ∀ s delay queue rest npc n type, s.opcode? = some Opcode.npcQueue.id →
          s.invocation.ints = delay :: queue :: rest →
          s.invocation.pointers.includes (.npc s.invocation.selectedSlot) →
          s.invocation.npcs.get s.invocation.selectedSlot = some npc →
          s.world.npcs.get? npc.nid = some n → config.npcs.get? npc.typeId = some type →
          (1 ≤ queue ∧ queue ≤ 20 → ∃ t : Trigger, (t.code.toNat : Int) = 19 + queue.toInt ∧
            r.Calls s
              (s.queued rest npc.nid (mostSpecific? scripts t type.id type.category) delay)) ∧
          (¬ (1 ≤ queue ∧ queue ≤ 20) →
            ∃ t, r.dispatch Opcode.npcQueue.id r.env s = .error (.badQueue queue) t) := by
  refine ⟨Library.ofScripts_eq_error, fun t u g h => Trigger.key_inj, Trigger.key_ne_neg_one, ?_⟩
  intro library loaded
  have represents := Library.represents_ofScripts loaded
  refine ⟨represents.byTrigger?, ?_, ?_⟩
  · intro t type category s found typeInRange categoryInRange u g inRange under
    rw [represents.byTrigger?] at found
    obtain ⟨h, mem, under'⟩ := isUnder_of_mostSpecific? found
    have inRange' : h.InRange := by
      rcases List.mem_cons.1 mem with rfl | mem
      · exact typeInRange
      rcases List.mem_cons.1 mem with rfl | mem
      · exact categoryInRange
      · rw [List.mem_singleton.1 mem]
        decide
    obtain ⟨rfl, rfl⟩ := Trigger.key_inj inRange inRange' (Script.isUnder_unique under under')
    exact ⟨rfl, mem⟩
  · intro config budget r s delay queue rest npc n type here ints permitted bound held listed
    have standard : r.registry = Op.standard := standard_registry library config budget
    refine ⟨fun numbered => ?_, fun outside => ?_⟩
    · obtain ⟨t, number, code⟩ := Trigger.exists_queue? numbered
      have done := Op.Npc.npcQueue_of_queue? r.env ints number permitted bound held listed
      have chosen : r.env.library.byTrigger? t type.id type.category =
          mostSpecific? scripts t type.id type.category := represents.byTrigger? t _ _
      rw [chosen] at done
      exact ⟨t, code,
        calls_of_listed standard Op.Npc.table_listed (Op.mem_of_lookup .npcQueue rfl) here done⟩
    · have number := Trigger.queue?_eq_none outside
      rw [dispatch_of_listed standard Op.Npc.table_listed (Op.mem_of_lookup .npcQueue rfl)]
      exact ⟨_, Op.Npc.npcQueue_of_none r.env ints number⟩

/-! ## The scripts of a queue -/

/-- A script that puts off what the second queue has for an npc, and is itself registered under a key. -/
def queueScript (id key : Int32) : Script :=
  ⟨id, some ⟨"queue", "queue.rs2", key, [], #[], #[]⟩, 0, 0, 0, 0,
    #[Opcode.npcQueue.id], #[0], #[], #[]⟩

/-- Scripts for the second queue: two for the category 3, one for the type 7 and one for everything. -/
def queueScripts : List Script :=
  [queueScript 1 (Trigger.key ⟨21⟩ (.category 3)), queueScript 2 (Trigger.key ⟨21⟩ (.category 3)),
    queueScript 3 (Trigger.key ⟨21⟩ (.type 7)), queueScript 4 (Trigger.key ⟨21⟩ .everything)]

/-- Types 7 and 8, both of the category 3. -/
def queueConfig : Config :=
  { Config.empty with npcs := .ofList [(7, ⟨7, "a", none, none, 3, .empty⟩),
    (8, ⟨8, "b", none, none, 3, .empty⟩)] }

/-- An npc of type 8 is bound, and a delay of 2 is asked for. -/
def queueScene (queue : Int32) : Scene :=
  ⟨{ Invocation.new (queueScript 1 (-1)) [] with
      execution := .running, pc := 0, ints := [2, queue], pointers := .activeNpc,
      npcs := ⟨some ⟨5, 8⟩, none⟩ },
    { World.empty with npcs := .ofList [(5, .new 5 8 .origin)] }, []⟩

/-- The least id that keeps its value has a key of its own.  The last script for the category is put off,
    since there is none for the type 8, and the queue after the last one is refused. -/
theorem triggers_dispatch_queueScene : ∃ library, Library.ofScripts queueScripts = .ok library ∧
    let r := Runner.standard library queueConfig none
    (Trigger.key ⟨21⟩ (.type (-2097152)) ≠ Trigger.key ⟨21⟩ (.type 0)) ∧
    (∃ t, r.Calls (queueScene 2) t ∧ t.world.events = #[.npcQueue 5 2 2]) ∧
    ∃ t, r.dispatch Opcode.npcQueue.id r.env (queueScene 21) = .error (.badQueue 21) t := by
  obtain ⟨library, loaded⟩ : ∃ library, Library.ofScripts queueScripts = .ok library := ⟨_, rfl⟩
  have queues := ((triggers_dispatch queueScripts).2.2.2 library loaded).2.2 queueConfig none
  refine ⟨library, loaded, fun same => ?_, ?_, ?_⟩
  · obtain ⟨-, apart⟩ :=
      (triggers_dispatch queueScripts).2.1 ⟨21⟩ ⟨21⟩ _ _ (by decide) (by decide) same
    exact absurd apart (by decide)
  · obtain ⟨t, code, calls⟩ := (queues (queueScene 2) 2 2 [] ⟨5, 8⟩ _ _ rfl rfl (by decide) rfl rfl
      rfl).1 (by decide)
    have second : t = ⟨21⟩ := congrArg Trigger.mk (UInt8.toNat_inj.1 (Int.ofNat_inj.1 code))
    refine ⟨_, calls, ?_⟩
    rw [second]
    rfl
  · exact (queues (queueScene 21) 2 21 [] ⟨5, 8⟩ _ _ rfl rfl (by decide) rfl rfl rfl).2 (by decide)

end Runner

end TickScript
