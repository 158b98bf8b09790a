import Mathlib.Algebra.Ring.Int.Defs
import TickScript.Proofs.Course
import TickScript.Proofs.Replay

/-
  Who is the hero of an npc.

  What a script learns about an npc has a place for the player who dealt the most damage.  Nothing in the
  world adds damage up, though: every hit that names a player makes this player the hero.  So the hero is
  the player of the last such hit, and he has dealt the most damage only if the hits before happen to
  leave him ahead.

    Hit, hitsOn           the hits on an npc, and where the log has them
    TopDealer             what a hero who dealt the most damage would have to satisfy
    World.Struck          a change of the world appends events, and their hits tell the new heroes
    hero_topDealer_iff    the hero is the last player named, so when does he satisfy it?
-/

namespace TickScript

/-! ## Hits -/

/-- A hit: its kind, how much damage it does, and the player who is named for it. -/
structure Hit where
  damageType : Int32
  amount : Int32
  source : Option Int32

/-- The hit on the npc that an event tells of. -/
def WorldEvent.hitOn? (nid : Int32) : WorldEvent → Option Hit
  | npcDamage nid' damageType amount source =>
    if nid' = nid then some ⟨damageType, amount, source⟩ else none
  | _ => none

/-- The hits on the npc that are told in a log. -/
def hitsOn (nid : Int32) (events : List WorldEvent) : List Hit := events.filterMap (·.hitOn? nid)

/-- The last player named. -/
def lastSource (hits : List Hit) : Option Int32 := (hits.filterMap Hit.source).getLast?

/-- The damage of all hits for which the player is named. -/
def dealt (hits : List Hit) (pid : Int32) : Int :=
  ((hits.filter fun hit => hit.source = some pid).map fun hit => hit.amount.toInt).sum

/-- What is expected of the hero: -1 if no hit names a player, and otherwise nobody has dealt more. -/
structure TopDealer (hits : List Hit) (hero : Int32) : Prop where
  nobody : (∀ hit ∈ hits, hit.source = none) → hero = -1
  ahead : (∃ hit ∈ hits, hit.source.isSome) → ∀ pid, dealt hits pid ≤ dealt hits hero

theorem hitsOn_append (nid : Int32) (es fs : List WorldEvent) :
    hitsOn nid (es ++ fs) = hitsOn nid es ++ hitsOn nid fs := List.filterMap_append

theorem hitsOn_singleton (nid : Int32) (e : WorldEvent) : hitsOn nid [e] = (e.hitOn? nid).toList := by
  unfold hitsOn
  cases hit : e.hitOn? nid with
  | none => rw [List.filterMap_cons_none hit]; rfl
  | some _ => rw [List.filterMap_cons_some hit]; rfl

theorem lastSource_append (hits later : List Hit) :
    lastSource (hits ++ later) = (lastSource later).or (lastSource hits) := by
  unfold lastSource
  rw [List.filterMap_append, List.getLast?_append]

theorem lastSource_singleton (hit : Hit) : lastSource [hit] = hit.source := by
  unfold lastSource
  cases named : hit.source with
  | none => rw [List.filterMap_cons_none named]; rfl
  | some pid => rw [List.filterMap_cons_some named]; rfl

theorem lastSource_eq_none {hits : List Hit} :
    lastSource hits = none ↔ ∀ hit ∈ hits, hit.source = none :=
  List.getLast?_eq_none_iff.trans List.filterMap_eq_nil_iff

/-- The last player named is a hero as expected exactly if nobody has dealt more than he. -/
theorem topDealer_lastSource_iff (hits : List Hit) : TopDealer hits ((lastSource hits).getD (-1)) ↔
    ∀ hero ∈ lastSource hits, ∀ pid, dealt hits pid ≤ dealt hits hero := by
  constructor
  · intro top hero last
    have named : ∃ hit ∈ hits, hit.source.isSome := by
      by_contra unnamed
      have none : ∀ hit ∈ hits, hit.source = none := fun hit mem =>
        Option.not_isSome_iff_eq_none.1 fun some => unnamed ⟨hit, mem, some⟩
      nomatch (lastSource_eq_none.2 none).symm.trans last
    have ahead := top.ahead named
    rwa [show lastSource hits = some hero from last] at ahead
  · intro ahead
    refine ⟨fun none => ?_, fun ⟨hit, mem, named⟩ => ?_⟩
    · rw [lastSource_eq_none.2 none]
      rfl
    · cases last : lastSource hits with
      | none =>
        rw [lastSource_eq_none.1 last hit mem] at named
        nomatch named
      | some hero => exact ahead hero last

/-! ## Hits and heroes -/

namespace World

variable {w w' v : World} {nid : Int32} {new : List WorldEvent}

/-- `w.Struck new w'`: the log of `w'` is that of `w` with `new` behind it, and an npc that is still there
    has the hero that the hits in `new` make. -/
structure Struck (w : World) (new : List WorldEvent) (w' : World) : Prop where
  events : w'.events = w.events ++ new
  hero : ∀ nid n', w'.npcs.get? nid = some n' → ∃ n, w.npcs.get? nid = some n ∧
    n'.hero = (lastSource (hitsOn nid new)).getD n.hero

namespace Struck

theorem trans {later : List WorldEvent} (h : w.Struck new v) (h' : v.Struck later w') :
    w.Struck (new ++ later) w' where
  events := by
    rw [h'.events, h.events, ← Array.toList_inj]
    simp only [Array.toList_appendList, List.append_assoc]
  hero := by
    intro nid n' there'
    -- nothing brings an npc into a world, so one that is there last was there all the time
    obtain ⟨m, there, now⟩ := h'.hero nid n' there'
    obtain ⟨n, before, earlier⟩ := h.hero nid m there
    refine ⟨n, before, ?_⟩
    rw [now, earlier, hitsOn_append, lastSource_append, Option.getD_or]

/-- Without an event, and with all heroes as they are. -/
theorem silent (events : w'.events = w.events)
    (same : ∀ nid n', w'.npcs.get? nid = some n' → ∃ n, w.npcs.get? nid = some n ∧ n'.hero = n.hero) :
    w.Struck [] w' where
  events := by rw [events, Array.appendList_nil]
  hero := same

/-- With an event that is no hit, and with all heroes as they are. -/
theorem record (e : WorldEvent) (noHit : ∀ nid, e.hitOn? nid = none) (h : w.Struck [] v) :
    w.Struck [e] (v.record e) where
  events := by
    show v.events.push e = _
    rw [h.events, Array.appendList_nil]
    rfl
  hero := by
    intro nid n' there
    obtain ⟨n, before, same⟩ := h.hero nid n' there
    rw [hitsOn_singleton, noHit nid]
    exact ⟨n, before, same⟩

theorem refl (w : World) : w.Struck [] w := silent rfl fun _ n there => ⟨n, there, rfl⟩

theorem of_npcs (events : w'.events = w.events) (npcs : w'.npcs = w.npcs) : w.Struck [] w' :=
  silent events fun _ n' there => ⟨n', npcs ▸ there, rfl⟩

/-- A change of one npc that has nothing to do with its hero. -/
theorem of_updateNpc {f : Npc → Npc} (h : w.updateNpc nid f = .ok w')
    (same : ∀ n, (f n).hero = n.hero) : w.Struck [] w' := by
  obtain ⟨n, found, h⟩ := Except.bind_eq_ok.1 h
  cases h
  refine silent rfl fun other m there => ?_
  by_cases it : other = nid
  · subst it
    rw [SortedMap.get?_insert_self] at there
    cases there
    exact ⟨n, findNpc_eq_ok.1 found, same n⟩
  · rw [SortedMap.get?_insert_of_ne _ _ it] at there
    exact ⟨m, there, rfl⟩

end Struck

theorem updatePlayer_npcs {pid : Int32} {f : Player → Except Fault Player}
    (h : w.updatePlayer pid f = .ok w') : w'.npcs = w.npcs := by
  obtain ⟨_, _, -, -, rfl⟩ := updatePlayer_eq_ok.1 h
  rfl

theorem struck_updatePlayer {pid : Int32} {f : Player → Except Fault Player}
    (h : w.updatePlayer pid f = .ok w') : w.Struck [] w' :=
  .of_npcs (updatePlayer_events h) (updatePlayer_npcs h)

theorem struck_playerEvent {pid : Int32} {e : WorldEvent} (h : w.playerEvent pid e = .ok w')
    (noHit : ∀ nid, e.hitOn? nid = none) : w.Struck [e] w' := by
  obtain rfl := playerEvent_eq_ok h
  exact .record e noHit (.refl w)

theorem struck_npcEvent {e : WorldEvent} (h : w.npcEvent nid e = .ok w')
    (noHit : ∀ nid, e.hitOn? nid = none) : w.Struck [e] w' := by
  obtain rfl := npcEvent_eq_ok h
  exact .record e noHit (.refl w)

/-- A hit makes the player whom it names the hero of the npc, and leaves all others theirs. -/
theorem struck_npcDamage {damageType amount : Int32} {source : Option Int32}
    (h : w.npcDamage nid damageType amount source = .ok w') :
    w.Struck [.npcDamage nid damageType amount source] w' := by
  obtain ⟨v, updated, h⟩ := Except.bind_eq_ok.1 h
  obtain ⟨n, found, updated⟩ := Except.bind_eq_ok.1 updated
  cases updated
  cases h
  refine ⟨rfl, fun other m there => ?_⟩
  change (w.npcs.insert nid (damaged n amount source)).get? other = some m at there
  by_cases it : other = nid
  · subst it
    rw [SortedMap.get?_insert_self] at there
    cases there
    have hit : (WorldEvent.npcDamage other damageType amount source).hitOn? other =
        some ⟨damageType, amount, source⟩ := if_pos rfl
    refine ⟨n, findNpc_eq_ok.1 found, ?_⟩
    rw [hitsOn_singleton, hit, Option.toList_some, lastSource_singleton]
    rfl
  · rw [SortedMap.get?_insert_of_ne _ _ it] at there
    have noHit : (WorldEvent.npcDamage nid damageType amount source).hitOn? other = none :=
      if_neg (Ne.symm it)
    refine ⟨m, there, ?_⟩
    rw [hitsOn_singleton, noHit]
    rfl

end World

/-- Each change of the world that is made appends events whose hits tell the heroes. -/
theorem WorldCall.struck {call : WorldCall} {w w' : World} (h : call.perform w = .ok w') :
    ∃ new, w.Struck new w' := by
  cases call with
  | message | playerAnim | playerSay | queuePlayerScript =>
    exact ⟨_, World.struck_playerEvent h fun _ => rfl⟩
  | npcAnim | npcSay | npcSpotanim | queueNpcScript => exact ⟨_, World.struck_npcEvent h fun _ => rfl⟩
  | setVarp | setItemSlots => exact ⟨_, World.struck_updatePlayer h⟩
  | giveXp | teleport =>
    obtain ⟨v, updated, h⟩ := Except.bind_eq_ok.1 h
    cases h
    exact ⟨_, .record _ (fun _ => rfl) (World.struck_updatePlayer updated)⟩
  | setVarn => exact ⟨_, .of_updateNpc h fun _ => rfl⟩
  | npcDamage => exact ⟨_, World.struck_npcDamage h⟩
  | npcSetTimer =>
    obtain ⟨v, updated, h⟩ := Except.bind_eq_ok.1 h
    cases h
    exact ⟨_, .record _ (fun _ => rfl) (.of_updateNpc updated fun _ => rfl)⟩
  | npcRemove nid =>
    obtain ⟨_, _, h⟩ := Except.bind_eq_ok.1 h
    cases h
    have gone : w.Struck [] { w with npcs := w.npcs.erase nid } :=
      .silent rfl fun _ n there => ⟨n, SortedMap.get?_of_get?_erase there, rfl⟩
    exact ⟨_, .record _ (fun _ => rfl) gone⟩
  | addLoc loc | addObj obj =>
    cases h
    exact ⟨_, .record _ (fun _ => rfl) (.of_npcs rfl rfl)⟩
  | removeLoc | removeObj =>
    change (if _ then _ else _) = _ at h
    split at h <;> cases h
    exact ⟨_, .record _ (fun _ => rfl) (.of_npcs rfl rfl)⟩

namespace World

variable {w w' : World}

theorem Request.struck (r : Request) (w : World) : ∃ new, w.Struck new (r.apply w) := by
  cases r with
  | random bound => exact ⟨[], .of_npcs rfl rfl⟩
  | change call =>
    cases done : call.perform w with
    | ok w' =>
      rw [apply_of_ok done]
      exact call.struck done
    | error f =>
      rw [apply_of_error done]
      exact ⟨[], .refl w⟩

theorem serve_struck : ∀ (requests : List Request) (w : World),
    ∃ new, w.Struck new (w.serve requests)
  | [], w => ⟨[], .refl w⟩
  | r :: requests, w => by
    obtain ⟨new, here⟩ := r.struck w
    obtain ⟨later, there⟩ := serve_struck requests (r.apply w)
    exact ⟨new ++ later, here.trans there⟩

/-- A hit on an npc that is there succeeds, and changes this npc. -/
theorem exists_npcDamage {nid : Int32} {n : Npc} (there : w.npcs.get? nid = some n)
    (damageType amount : Int32) (source : Option Int32) :
    ∃ w', w.npcDamage nid damageType amount source = .ok w' ∧
      w'.npcs.get? nid = some (damaged n amount source) := by
  unfold npcDamage updateNpc
  rw [findNpc_eq_ok.2 there]
  exact ⟨_, rfl, w.npcs.get?_insert_self nid _⟩

/-- Hits on one npc, one after the other. -/
def hitAll (w : World) (nid : Int32) (hits : List Hit) : Except Fault World :=
  hits.foldlM (fun w hit => w.npcDamage nid hit.damageType hit.amount hit.source) w

/-- Hits on an npc that is there succeed, and leave as its hero the last player named. -/
theorem hitAll_hero {nid : Int32} : ∀ (hits : List Hit) {w : World} {n : Npc},
    w.npcs.get? nid = some n →
    ∃ w' n', w.hitAll nid hits = .ok w' ∧ w'.npcs.get? nid = some n' ∧
      n'.hero = (lastSource hits).getD n.hero
  | [], w, n, there => ⟨w, n, rfl, there, rfl⟩
  | hit :: hits, w, n, there => by
    obtain ⟨v, struck, there⟩ := exists_npcDamage there hit.damageType hit.amount hit.source
    obtain ⟨w', n', done, there', hero⟩ := hitAll_hero hits there
    refine ⟨w', n', ?_, there', ?_⟩
    · unfold hitAll
      rw [List.foldlM_cons, struck]
      exact done
    · rw [hero, ← List.singleton_append, lastSource_append, lastSource_singleton, Option.getD_or]
      rfl

/-- What is told of an npc is what the world has of it. -/
theorem npcInfo_eq_ok {nid : Int32} {info : NpcInfo} : w.npcInfo nid = .ok info ↔
    ∃ n, w.npcs.get? nid = some n ∧ info = ⟨nid, n.typeId, n.coord, n.hero⟩ := by
  unfold npcInfo
  rw [Except.bind_eq_ok]
  refine exists_congr fun n => and_congr findNpc_eq_ok ?_
  constructor
  · rintro ⟨⟩
    rfl
  · rintro rfl
    rfl

end World

/-! ## Instructions and runs -/

namespace Runner

variable {r : Runner}

/-- Asking for the hero pushes him. -/
theorem npcFindhero_calls (standard : r.registry = Op.standard) {s : Scene} {npc : NpcRef}
    {info : NpcInfo} (here : s.opcode? = some Opcode.npcFindhero.id)
    (permitted : s.invocation.pointers.includes (.npc s.invocation.selectedSlot))
    (bound : s.invocation.npcs.get s.invocation.selectedSlot = some npc)
    (known : s.world.npcInfo npc.nid = .ok info) :
    r.Calls s { s with invocation :=
      { s.invocation with ints := info.hero :: s.invocation.ints } } := by
  refine calls_of_listed standard Op.Npc.table_listed (Op.mem_of_lookup .npcFindhero rfl) here ?_
  unfold Op.Npc.npcFindhero
  rw [Op.bind_of_ok (Op.requireNpc_eq_ok.2 ⟨rfl, permitted, bound⟩),
    Op.bind_of_ok (Op.observe_eq_ok.2 ⟨rfl, known⟩)]
  rfl

/-- Hits on an npc succeed while it is there, and the hero that the world tells of afterwards is the last
    player named, or -1 if none was.  This holds of calls of the world, and of every run of scripts, with
    the hits that the run has appended to the log.  That hero is the one whom a script is given that asks
    for him.  He is one who dealt the most damage exactly if nobody's hits add up to more than those of the
    last player named. -/
theorem hero_topDealer_iff (library : Library) (config : Config) (budget : Option UInt32) :
    let r := Runner.standard library config budget
    (∀ (w : World) nid n (hits : List Hit), w.npcs.get? nid = some n → n.hero = -1 →
      ∃ w' info, w.hitAll nid hits = .ok w' ∧ w'.npcInfo nid = .ok info ∧
        info.hero = (lastSource hits).getD (-1)) ∧
    (∀ flags s nid n, s.world.npcs.get? nid = some n → n.hero = -1 →
      let t := r.executeAll flags s
      ∃ new : List WorldEvent, t.world.events = s.world.events ++ new ∧
        ∀ info, t.world.npcInfo nid = .ok info →
          info.hero = (lastSource (hitsOn nid new)).getD (-1)) ∧
    (∀ s npc info, s.opcode? = some Opcode.npcFindhero.id →
      s.invocation.pointers.includes (.npc s.invocation.selectedSlot) →
      s.invocation.npcs.get s.invocation.selectedSlot = some npc →
      s.world.npcInfo npc.nid = .ok info →
      r.Calls s { s with invocation :=
        { s.invocation with ints := info.hero :: s.invocation.ints } }) ∧
    ∀ hits : List Hit, TopDealer hits ((lastSource hits).getD (-1)) ↔
      ∀ hero ∈ lastSource hits, ∀ pid, dealt hits pid ≤ dealt hits hero := by
  intro r
  have standard : r.registry = Op.standard := standard_registry library config budget
  refine ⟨?calls, ?runs, ?asking, topDealer_lastSource_iff⟩
  case calls =>
    intro w nid n hits there none
    obtain ⟨w', n', done, there', hero⟩ := World.hitAll_hero hits there
    rw [none] at hero
    exact ⟨w', _, done, World.npcInfo_eq_ok.2 ⟨n', there', rfl⟩, hero⟩
  case runs =>
    intro flags s nid n there none t
    obtain ⟨requests, drives⟩ := executeAll_drives standard flags s
    obtain ⟨new, struck⟩ := s.world.serve_struck requests
    rw [← drives] at struck
    refine ⟨new, struck.events, fun info known => ?_⟩
    obtain ⟨n', there', rfl⟩ := World.npcInfo_eq_ok.1 known
    obtain ⟨m, before, hero⟩ := struck.hero nid n' there'
    cases before.symm.trans there
    rw [none] at hero
    exact hero
  case asking =>
    exact fun s npc info here permitted bound known =>
      npcFindhero_calls standard here permitted bound known

/-! ## Two players and an npc -/

/-- Asks for the hero. -/
def heroScript : Script :=
  ⟨1, some ⟨"hero", "hero.rs2", -1, [], #[], #[]⟩, 0, 0, 0, 0,
    #[Opcode.npcFindhero.id], #[], #[], #[]⟩

def heroScene (w : World) : Scene :=
  ⟨{ Invocation.new heroScript [] with
      execution := .running, pc := 0, pointers := .activeNpc, npcs := ⟨some ⟨7, 2⟩, none⟩ }, w, []⟩

/-- A player who has dealt all damage that names anybody is the hero, as expected. -/
theorem hero_topDealer_iff_duel :
    let r := Runner.standard .empty .empty none
    let hits : List Hit := [⟨0, 10, some 1⟩, ⟨0, 20, none⟩]
    ∃ w t, World.duel.hitAll 7 hits = .ok w ∧ r.Calls (heroScene w) t ∧ t.invocation.ints = [1] ∧
      TopDealer hits 1 := by
  intro r hits
  obtain ⟨calls, -, asking, top⟩ := hero_topDealer_iff .empty .empty none
  obtain ⟨w, info, struck, known, hero⟩ := calls World.duel 7 _ hits rfl rfl
  have granted : Pointers.activeNpc.includes (.npc .primary) := by decide
  have asked := asking (heroScene w) ⟨7, 2⟩ info rfl granted rfl known
  refine ⟨w, _, struck, asked, ?_, ?_⟩
  · show [info.hero] = [1]
    rw [hero]
    rfl
  · refine (top hits).2 ?_
    intro hero last pid
    have last : some 1 = some hero := last
    cases last
    by_cases first : pid = 1
    · rw [first]
    · have nothing : dealt hits pid = 0 := by
        simp [dealt, hits, Ne.symm first]
      rw [nothing]
      decide

/-- A player who has dealt one point of damage becomes the hero after another who has dealt ten. -/
theorem hero_outdealt_duel :
    let hits : List Hit := [⟨0, 10, some 1⟩, ⟨0, 1, some 2⟩]
    (∀ hit ∈ hits, 0 ≤ hit.amount) ∧ World.duel.npcInfo 7 = .ok ⟨7, 2, .origin, -1⟩ ∧
    ∃ w info, World.duel.hitAll 7 hits = .ok w ∧ w.npcInfo 7 = .ok info ∧ info.hero = 2 ∧
      dealt hits 1 = 10 ∧ dealt hits 2 = 1 ∧ ¬ TopDealer hits info.hero := by
  intro hits
  have there : World.duel.npcs.get? 7 = some _ := rfl
  obtain ⟨w, n, struck, there, hero⟩ := World.hitAll_hero hits there
  refine ⟨by decide, rfl, w, _, struck, World.npcInfo_eq_ok.2 ⟨n, there, rfl⟩, hero, rfl, rfl, ?_⟩
  intro top
  have ahead : dealt hits 1 ≤ dealt hits n.hero := top.ahead ⟨_, List.mem_cons_self, rfl⟩ 1
  rw [show n.hero = 2 from hero] at ahead
  exact absurd ahead (by decide)

end Runner

end TickScript
