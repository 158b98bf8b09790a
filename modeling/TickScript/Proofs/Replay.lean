import TickScript.Proofs.Atomicity
import TickScript.Proofs.SortedMap
import TickScript.Proofs.Success

/-
  The log of events tells what has become of the world.

  Whoever has an old world and the events since then can go through the events and do to the old world what
  each of them tells: put up a loc, move a player, lower the hitpoints of an npc.  The new world comes out,
  up to what no event tells, which is variables, inventories and the random numbers.

    World.bare           the world without what no event tells
    WorldEvent.replay    what one event tells; it reads nothing but the bare world, `replay_bare`
    World.Told           a request appends events, and they tell what it did
    log_faithful         so do any requests in a row, and a run of scripts is nothing else to the world

  Replaying counts hitpoints in unbounded integers, where a script int would wrap.  `World.Bears` says that
  damage keeps within a script int; it is a condition on the requests, and just as well on the log.
-/

namespace TickScript

/-! ## What no event tells -/

/-- A player without variables and inventories. -/
def Player.bare (p : Player) : Player := { p with varps := .empty, invs := .empty }

/-- An npc without variables. -/
def Npc.bare (n : Npc) : Npc := { n with varns := .empty }

namespace World

/-- The world without variables, inventories, random numbers and log. -/
def bare (w : World) : World :=
  { w with
    rng := .initial
    players := w.players.map Player.bare
    npcs := w.npcs.map Npc.bare
    events := #[] }

end World

/-- What nothing changes of a player: the number, the names and the levels. -/
def Player.fixed (p : Player) : Int32 × String × Option String × SortedMap Int32 StatLevel :=
  (p.pid, p.username, p.displayName, p.stats)

/-- The worlds agree on what nothing that is asked of a world changes. -/
structure World.Frames (w w' : World) : Prop where
  clock : w'.clock = w.clock
  members : w'.members = w.members
  players : w'.players.map Player.fixed = w.players.map Player.fixed

namespace World

/-! ## Replaying events -/

/-- Changes a player who may be there. -/
def atPlayer (w : World) (pid : Int32) (f : Player → Player) : World :=
  match w.players.get? pid with
  | some p => { w with players := w.players.insert pid (f p) }
  | none => w

/-- Changes an npc that may be there. -/
def atNpc (w : World) (nid : Int32) (f : Npc → Npc) : World :=
  match w.npcs.get? nid with
  | some n => { w with npcs := w.npcs.insert nid (f n) }
  | none => w

end World

/-- The level that is left after damage, which is not below zero. -/
def StatLevel.lowered (s : StatLevel) (amount : Int32) : StatLevel :=
  { s with level := .ofInt (max (s.level.toInt - amount.toInt) 0) }

/-- An npc that was hit: stat 3 is lowered if there is one, and a player who did it becomes the hero. -/
def Npc.hit (n : Npc) (amount : Int32) (source : Option Int32) : Npc :=
  { n with
    stats := match n.stats.get? 3 with
      | some s => n.stats.insert 3 (s.lowered amount)
      | none => n.stats
    hero := source.getD n.hero }

/-- What an event tells about the world. -/
def WorldEvent.replay : WorldEvent → World → World
  | xp pid stat amount, w => w.atPlayer pid fun p =>
    let total := Arithmetic.saturatingAdd ((p.experience.get? stat).getD 0) amount
    { p with experience := p.experience.insert stat total }
  | teleport pid coord, w => w.atPlayer pid fun p => { p with coord }
  | npcDamage nid _ amount source, w => w.atNpc nid fun n => n.hit amount source
  | npcTimer nid interval, w => w.atNpc nid fun n => { n with timer := some interval }
  | npcRemoved nid, w => { w with npcs := w.npcs.erase nid }
  | locAdded loc _, w => { w with locs := w.locs ++ [loc] }
  | locRemoved loc _, w => { w with locs := w.locs.erase loc }
  | objAdded obj _ _, w => { w with objs := w.objs ++ [obj] }
  | objRemoved obj _, w => { w with objs := w.objs.erase obj }
  | message .., w | playerAnim .., w | playerSay .., w | playerQueue .., w | npcAnim .., w
  | npcSay .., w | npcSpotanim .., w | npcQueue .., w => w

namespace World

/-- What some events tell, one after the other. -/
def replayAll (w : World) (events : List WorldEvent) : World :=
  events.foldl (fun w e => e.replay w) w

/-- The damage leaves the hitpoints of the npc within a script int. -/
def Bears (w : World) (nid amount : Int32) : Prop :=
  ∀ n ∈ w.npcs.get? nid, ∀ s ∈ n.stats.get? 3,
    -2147483648 ≤ s.level.toInt - amount.toInt ∧ s.level.toInt - amount.toInt ≤ 2147483647

end World

/-- The arithmetic of the event stays within a script int. -/
def WorldEvent.Fits : WorldEvent → World → Prop
  | npcDamage nid _ amount _, w => w.Bears nid amount
  | _, _ => True

/-- The arithmetic of the events stays within script ints, when they are replayed. -/
def World.Fitting : World → List WorldEvent → Prop
  | _, [] => True
  | w, e :: events => e.Fits w ∧ (e.replay w).Fitting events

namespace World

variable {w w' v : World}

theorem replayAll_append (w : World) (es fs : List WorldEvent) :
    w.replayAll (es ++ fs) = (w.replayAll es).replayAll fs := List.foldl_append

theorem fitting_append : ∀ (es fs : List WorldEvent) (w : World),
    w.Fitting (es ++ fs) ↔ w.Fitting es ∧ (w.replayAll es).Fitting fs
  | [], _, _ => (iff_of_eq (true_and _)).symm
  | e :: es, fs, w => by
    show e.Fits w ∧ (e.replay w).Fitting (es ++ fs) ↔ (e.Fits w ∧ (e.replay w).Fitting es) ∧ _
    rw [fitting_append es fs, and_assoc]
    rfl

/-! ## The bare world is all that replaying reads -/

theorem get?_bare_players (w : World) (pid : Int32) :
    w.bare.players.get? pid = (w.players.get? pid).map Player.bare :=
  w.players.get?_map Player.bare pid

theorem get?_bare_npcs (w : World) (nid : Int32) :
    w.bare.npcs.get? nid = (w.npcs.get? nid).map Npc.bare :=
  w.npcs.get?_map Npc.bare nid

theorem atPlayer_bare (w : World) (pid : Int32) {f : Player → Player}
    (h : ∀ p, (f p).bare = f p.bare) : (w.atPlayer pid f).bare = w.bare.atPlayer pid f := by
  unfold atPlayer
  rw [get?_bare_players]
  cases w.players.get? pid with
  | none => rfl
  | some p =>
    show bare _ = { w.bare with players := w.bare.players.insert pid (f p.bare) }
    rw [← h p]
    unfold bare
    dsimp only
    rw [SortedMap.map_insert]

theorem atNpc_bare (w : World) (nid : Int32) {f : Npc → Npc} (h : ∀ n, (f n).bare = f n.bare) :
    (w.atNpc nid f).bare = w.bare.atNpc nid f := by
  unfold atNpc
  rw [get?_bare_npcs]
  cases w.npcs.get? nid with
  | none => rfl
  | some n =>
    show bare _ = { w.bare with npcs := w.bare.npcs.insert nid (f n.bare) }
    rw [← h n]
    unfold bare
    dsimp only
    rw [SortedMap.map_insert]

end World

theorem WorldEvent.replay_bare (e : WorldEvent) (w : World) : (e.replay w).bare = e.replay w.bare := by
  cases e with
  | xp pid stat amount => exact w.atPlayer_bare pid fun _ => rfl
  | teleport pid coord => exact w.atPlayer_bare pid fun _ => rfl
  | npcDamage nid damageType amount source => exact w.atNpc_bare nid fun _ => rfl
  | npcTimer nid interval => exact w.atNpc_bare nid fun _ => rfl
  | npcRemoved nid =>
    unfold replay World.bare
    dsimp only
    rw [SortedMap.map_erase]
  | locAdded | locRemoved | objAdded | objRemoved | message | playerAnim | playerSay | playerQueue
  | npcAnim | npcSay | npcSpotanim | npcQueue => rfl

namespace World

variable {w w' v : World}

theorem replayAll_bare : ∀ (es : List WorldEvent) (w : World),
    (w.replayAll es).bare = w.bare.replayAll es
  | [], _ => rfl
  | e :: es, w => by
    show ((e.replay w).replayAll es).bare = (e.replay w.bare).replayAll es
    rw [replayAll_bare es, e.replay_bare]

theorem bears_bare (w : World) (nid amount : Int32) : w.bare.Bears nid amount ↔ w.Bears nid amount := by
  unfold Bears
  rw [get?_bare_npcs]
  cases w.npcs.get? nid with
  | none => exact ⟨nofun, nofun⟩
  | some n =>
    constructor
    · rintro h m ⟨⟩
      exact h n.bare rfl
    · rintro h m ⟨⟩
      exact h n rfl

theorem fits_bare (e : WorldEvent) (w : World) : e.Fits w.bare ↔ e.Fits w := by
  cases e with
  | npcDamage nid damageType amount source => exact w.bears_bare nid amount
  | _ => exact Iff.rfl

theorem fitting_bare : ∀ (es : List WorldEvent) (w : World), w.bare.Fitting es ↔ w.Fitting es
  | [], _ => Iff.rfl
  | e :: es, w => by
    show e.Fits w.bare ∧ (e.replay w.bare).Fitting es ↔ e.Fits w ∧ (e.replay w).Fitting es
    rw [fits_bare, ← e.replay_bare, fitting_bare es]

/-! ## Replaying leaves the rest alone -/

namespace Frames

theorem refl (w : World) : w.Frames w := ⟨rfl, rfl, rfl⟩

theorem trans (h : w.Frames v) (h' : v.Frames w') : w.Frames w' :=
  ⟨h'.clock.trans h.clock, h'.members.trans h.members, h'.players.trans h.players⟩

/-- It shows in the bare world. -/
theorem of_bare (h : w.Frames v) (same : w'.bare = v.bare) : w.Frames w' where
  clock := by
    have clock := congrArg World.clock same
    exact clock.trans h.clock
  members := by
    have members := congrArg World.members same
    exact members.trans h.members
  players := by
    have players : w'.players.map Player.bare = v.players.map Player.bare :=
      congrArg World.players same
    have fixed := congrArg (SortedMap.map Player.fixed) players
    rw [SortedMap.map_map, SortedMap.map_map] at fixed
    exact fixed.trans h.players

end Frames

theorem atPlayer_frames (w : World) (pid : Int32) {f : Player → Player}
    (h : ∀ p, (f p).fixed = p.fixed) : w.Frames (w.atPlayer pid f) := by
  unfold atPlayer
  cases there : w.players.get? pid with
  | none => exact .refl w
  | some p => exact ⟨rfl, rfl, SortedMap.map_insert_of_eq _ _ there (h p)⟩

theorem atNpc_frames (w : World) (nid : Int32) (f : Npc → Npc) : w.Frames (w.atNpc nid f) := by
  unfold atNpc
  cases w.npcs.get? nid with
  | none => exact .refl w
  | some n => exact ⟨rfl, rfl, rfl⟩

theorem replay_frames (e : WorldEvent) (w : World) : w.Frames (e.replay w) := by
  cases e with
  | xp pid stat amount => exact w.atPlayer_frames pid fun _ => rfl
  | teleport pid coord => exact w.atPlayer_frames pid fun _ => rfl
  | npcDamage nid damageType amount source => exact w.atNpc_frames nid _
  | npcTimer nid interval => exact w.atNpc_frames nid _
  | npcRemoved | locAdded | locRemoved | objAdded | objRemoved => exact ⟨rfl, rfl, rfl⟩
  | message | playerAnim | playerSay | playerQueue | npcAnim | npcSay | npcSpotanim | npcQueue =>
    exact .refl w

theorem replayAll_frames : ∀ (es : List WorldEvent) (w : World), w.Frames (w.replayAll es)
  | [], w => .refl w
  | e :: es, w => (replay_frames e w).trans (replayAll_frames es (e.replay w))

/-! ## Requests -/

/-- What can be asked of a world apart from looking at it. -/
inductive Request where
  | change (call : WorldCall)
  | random (bound : Int32)

/-- The world after a request; a change that cannot be made leaves it as it was. -/
def Request.apply : Request → World → World
  | change call, w =>
    match call.perform w with
    | .ok w' => w'
    | .error _ => w
  | random bound, w => (w.random bound).2

/-- The world after some requests, one after the other. -/
def serve (w : World) (requests : List Request) : World := requests.foldl (fun w r => r.apply w) w

/-- The arithmetic of the request stays within a script int. -/
def Request.Fits : Request → World → Prop
  | change (.npcDamage nid _ amount _), w => w.Bears nid amount
  | _, _ => True

/-- The arithmetic of the requests stays within script ints. -/
def Within : World → List Request → Prop
  | _, [] => True
  | w, r :: requests => r.Fits w ∧ (r.apply w).Within requests

/-- `w.Told new fits w'`: the log of `w'` is that of `w` with `new` behind it, and these events tell how to
    get from `w` to `w'`, provided that `fits`. -/
structure Told (w : World) (new : List WorldEvent) (fits : Prop) (w' : World) : Prop where
  events : w'.events = w.events ++ new
  fitting : fits ↔ w.Fitting new
  bare : fits → w'.bare = (w.replayAll new).bare

namespace Told

variable {new : List WorldEvent} {e : WorldEvent}

/-- Nothing is told of what is no part of the bare world. -/
theorem nothing (events : w'.events = w.events) (bare : w'.bare = w.bare) : w.Told [] True w' where
  events := by rw [events, Array.appendList_nil]
  fitting := Iff.rfl
  bare := fun _ => bare

/-- One event tells about the change that goes with it. -/
theorem record (fits : Prop) (events : v.events = w.events) (fitting : fits ↔ e.Fits w)
    (bare : fits → v.bare = (e.replay w).bare) : w.Told [e] fits (v.record e) where
  events := by
    show v.events.push e = _
    rw [events]
    rfl
  fitting := fitting.trans (iff_of_eq (and_true _)).symm
  bare := bare

theorem trans {new' : List WorldEvent} {fits fits' : Prop} (h : w.Told new fits v)
    (h' : v.Told new' fits' w') : w.Told (new ++ new') (fits ∧ fits') w' where
  events := by
    rw [h'.events, h.events, ← Array.toList_inj]
    simp only [Array.toList_appendList, List.append_assoc]
  fitting := by
    rw [fitting_append, ← h.fitting, h'.fitting]
    refine and_congr_right fun fits => ?_
    rw [← fitting_bare _ v, h.bare fits, fitting_bare]
  bare := by
    rintro ⟨fits, fits'⟩
    rw [h'.bare fits', replayAll_bare, h.bare fits, replayAll_append, replayAll_bare new']

end Told

/-- An event that tells nothing, of a player or an npc who is there. -/
theorem told_playerEvent {pid : Int32} {e : WorldEvent} (h : w.playerEvent pid e = .ok w')
    (silent : e.replay w = w) (fits : e.Fits w) : w.Told [e] True w' := by
  obtain rfl := playerEvent_eq_ok h
  exact .record True rfl ⟨fun _ => fits, fun _ => trivial⟩ fun _ => by rw [silent]

theorem told_npcEvent {nid : Int32} {e : WorldEvent} (h : w.npcEvent nid e = .ok w')
    (silent : e.replay w = w) (fits : e.Fits w) : w.Told [e] True w' := by
  obtain rfl := npcEvent_eq_ok h
  exact .record True rfl ⟨fun _ => fits, fun _ => trivial⟩ fun _ => by rw [silent]

/-! A change of what is not told of a player or an npc leaves the bare world alone. -/

theorem bare_insert_player {pid : Int32} {p q : Player} (there : w.players.get? pid = some p)
    (same : q.bare = p.bare) : { w with players := w.players.insert pid q }.bare = w.bare := by
  unfold bare
  dsimp only
  rw [SortedMap.map_insert_of_eq _ _ there same]

theorem bare_insert_npc {nid : Int32} {n m : Npc} (there : w.npcs.get? nid = some n)
    (same : m.bare = n.bare) : { w with npcs := w.npcs.insert nid m }.bare = w.bare := by
  unfold bare
  dsimp only
  rw [SortedMap.map_insert_of_eq _ _ there same]

/-! A change that goes through is the one that replaying makes. -/

theorem atPlayer_of_updatePlayer {pid : Int32} {f : Player → Player}
    (h : w.updatePlayer pid (fun p => pure (f p)) = .ok w') : w' = w.atPlayer pid f := by
  obtain ⟨p, found, h⟩ := Except.bind_eq_ok.1 h
  cases h
  unfold atPlayer
  rw [findPlayer_eq_ok.1 found]

theorem atNpc_of_updateNpc {nid : Int32} {f : Npc → Npc} (h : w.updateNpc nid f = .ok w') :
    w' = w.atNpc nid f := by
  obtain ⟨n, found, h⟩ := Except.bind_eq_ok.1 h
  cases h
  unfold atNpc
  rw [findNpc_eq_ok.1 found]

theorem atNpc_congr {nid : Int32} {f g : Npc → Npc} (h : ∀ n ∈ w.npcs.get? nid, f n = g n) :
    w.atNpc nid f = w.atNpc nid g := by
  unfold atNpc
  cases there : w.npcs.get? nid with
  | none => rfl
  | some n =>
    dsimp only
    rw [h n there]

/-- Script ints that do not leave their range sink as integers do. -/
theorem lowered_eq {level amount : Int32} (lower : -2147483648 ≤ level.toInt - amount.toInt)
    (upper : level.toInt - amount.toInt ≤ 2147483647) :
    max (level - amount) 0 = .ofInt (max (level.toInt - amount.toInt) 0) := by
  have exact : (level - amount).toInt = level.toInt - amount.toInt := by
    rw [Int32.toInt_sub, Int.bmod_eq_of_le] <;> omega
  rw [← exact]
  show (if level - amount ≤ 0 then 0 else level - amount) = _
  split
  next below =>
    rw [max_eq_right (show (level - amount).toInt ≤ 0 from Int32.le_iff_toInt_le.1 below)]
    rfl
  next above =>
    have above : ¬ (level - amount).toInt ≤ 0 := fun below => above (Int32.le_iff_toInt_le.2 below)
    rw [max_eq_left (not_le.1 above).le, Int32.ofInt_toInt]

theorem damaged_eq_hit {n : Npc} {amount : Int32} (source : Option Int32)
    (bears : ∀ s ∈ n.stats.get? 3,
      -2147483648 ≤ s.level.toInt - amount.toInt ∧ s.level.toInt - amount.toInt ≤ 2147483647) :
    damaged n amount source = n.hit amount source := by
  unfold damaged Npc.hit hitpoints
  cases found : n.stats.get? 3 with
  | none => rfl
  | some s =>
    obtain ⟨lower, upper⟩ := bears s found
    dsimp only
    rw [lowered_eq lower upper]
    rfl

end World

/-- Each change of the world that is made is told by what it appends to the log. -/
theorem WorldCall.told {call : WorldCall} {w w' : World} (h : call.perform w = .ok w') :
    ∃ new, w.Told new ((World.Request.change call).Fits w) w' := by
  cases call with
  | message | playerAnim | playerSay | queuePlayerScript =>
    exact ⟨_, World.told_playerEvent h rfl trivial⟩
  | npcAnim | npcSay | npcSpotanim | queueNpcScript =>
    exact ⟨_, World.told_npcEvent h rfl trivial⟩
  | setVarp pid var value =>
    obtain ⟨p, p', there, set, rfl⟩ := World.updatePlayer_eq_ok.1 h
    cases set
    exact ⟨[], .nothing rfl (World.bare_insert_player there rfl)⟩
  | setItemSlots pid inv slots =>
    obtain ⟨p, p', there, replaced, rfl⟩ := World.updatePlayer_eq_ok.1 h
    obtain ⟨i, -, replaced⟩ := Except.bind_eq_ok.1 replaced
    cases replaced
    exact ⟨[], .nothing rfl (World.bare_insert_player there rfl)⟩
  | setVarn nid var value =>
    obtain ⟨n, found, h⟩ := Except.bind_eq_ok.1 h
    cases h
    exact ⟨[], .nothing rfl (World.bare_insert_npc (World.findNpc_eq_ok.1 found) rfl)⟩
  | giveXp | teleport =>
    obtain ⟨v, updated, h⟩ := Except.bind_eq_ok.1 h
    cases h
    refine ⟨_, .record True (World.updatePlayer_events updated) Iff.rfl fun _ => ?_⟩
    rw [World.atPlayer_of_updatePlayer updated]
    rfl
  | npcDamage nid damageType amount source =>
    obtain ⟨v, updated, h⟩ := Except.bind_eq_ok.1 h
    cases h
    refine ⟨_, .record _ (World.updateNpc_events updated) Iff.rfl fun bears => ?_⟩
    rw [World.atNpc_of_updateNpc updated,
      World.atNpc_congr fun n there => World.damaged_eq_hit source (bears n there)]
    rfl
  | npcSetTimer nid interval =>
    obtain ⟨v, updated, h⟩ := Except.bind_eq_ok.1 h
    cases h
    refine ⟨_, .record True (World.updateNpc_events updated) Iff.rfl fun _ => ?_⟩
    rw [World.atNpc_of_updateNpc updated]
    rfl
  | npcRemove nid =>
    obtain ⟨_, _, h⟩ := Except.bind_eq_ok.1 h
    cases h
    exact ⟨_, .record True rfl Iff.rfl fun _ => rfl⟩
  | addLoc | addObj =>
    cases h
    exact ⟨_, .record True rfl Iff.rfl fun _ => rfl⟩
  | removeLoc | removeObj =>
    change (if _ then _ else _) = _ at h
    split at h <;> cases h
    exact ⟨_, .record True rfl Iff.rfl fun _ => rfl⟩

namespace World

variable {w w' v : World}

namespace Request

variable {call : WorldCall}

theorem apply_of_ok (h : call.perform w = .ok w') : (change call).apply w = w' := by
  show (match call.perform w with | .ok w' => w' | .error _ => w) = w'
  rw [h]

theorem apply_of_error {f : Fault} (h : call.perform w = .error f) : (change call).apply w = w := by
  show (match call.perform w with | .ok w' => w' | .error _ => w) = w
  rw [h]

/-- There is no arithmetic in a change that cannot be made: the npc is not there. -/
theorem fits_of_error {f : Fault} (h : call.perform w = .error f) : (change call).Fits w := by
  cases call with
  | npcDamage nid damageType amount source =>
    intro n there
    change w.updateNpc nid _ >>= _ = _ at h
    rw [updateNpc, findNpc_eq_ok.2 there] at h
    nomatch h
  | _ => exact trivial

theorem told (r : Request) (w : World) : ∃ new, w.Told new (r.Fits w) (r.apply w) := by
  cases r with
  | random bound => exact ⟨[], .nothing rfl rfl⟩
  | change call =>
    cases done : call.perform w with
    | ok w' =>
      rw [apply_of_ok done]
      exact WorldCall.told done
    | error f =>
      rw [apply_of_error done, eq_true (fits_of_error done)]
      exact ⟨[], .nothing rfl rfl⟩

end Request

/-- Requests in a row are told by what all of them append. -/
theorem serve_told : ∀ (requests : List Request) (w : World),
    ∃ new, w.Told new (w.Within requests) (w.serve requests)
  | [], w => ⟨[], .nothing rfl rfl⟩
  | r :: requests, w => by
    obtain ⟨new, here⟩ := r.told w
    obtain ⟨later, there⟩ := serve_told requests (r.apply w)
    exact ⟨new ++ later, here.trans there⟩

/-- What some requests append to the log tells what they did, and they leave the rest alone. -/
theorem serve_faithful (w : World) (requests : List Request) : ∃ new : List WorldEvent,
    (w.serve requests).events = w.events ++ new ∧
    (w.Within requests ↔ w.Fitting new) ∧
    (w.Within requests →
      (w.serve requests).bare = (w.replayAll new).bare ∧ w.Frames (w.serve requests)) := by
  obtain ⟨new, told⟩ := serve_told requests w
  refine ⟨new, told.events, told.fitting, fun within => ?_⟩
  exact ⟨told.bare within, (replayAll_frames new w).of_bare (told.bare within)⟩

/-! ## Runs -/

/-- `w.Drives w'`: `w'` comes from `w` by requests. -/
def Drives (w w' : World) : Prop := ∃ requests, w' = w.serve requests

namespace Drives

theorem of_eq (h : w' = w) : w.Drives w' := ⟨[], h⟩

theorem trans (h : w.Drives v) (h' : v.Drives w') : w.Drives w' := by
  obtain ⟨requests, rfl⟩ := h
  obtain ⟨later, rfl⟩ := h'
  exact ⟨requests ++ later, List.foldl_append.symm⟩

theorem of_perform (call : WorldCall) (h : call.perform w = .ok w') : w.Drives w' :=
  ⟨[.change call], (Request.apply_of_ok h).symm⟩

end Drives

end World

theorem Change.drives {env : Env} {o : Opcode} {s t : Scene} (c : Change env o s t) :
    s.world.Drives t.world := by
  cases c with
  | world call done => exact .of_perform call done
  | random bound => exact ⟨[.random bound], rfl⟩
  | nothing | branch | intLocal | stringLocal | call | jump | leave | finish | wait | search | found
    | lost => exact .of_eq rfl

theorem Effect.drives {env : Env} {o : Opcode} {s t : Scene} (h : Effect env o s t) :
    s.world.Drives t.world := by
  obtain ⟨u, v, before, change, after⟩ := h
  rw [after.world, ← before.world]
  exact change.drives

namespace Runner

variable {r : Runner} {s t : Scene} {f : Fault}

theorem Next.drives (standard : r.registry = Op.standard) (next : r.Next s t) :
    s.world.Drives t.world := by
  obtain ⟨_, _, effect⟩ := step_ok standard next.step
  exact effect.drives

theorem deliver_drives (s : Scene) (line : String) : s.world.Drives (deliver s line).world := by
  unfold deliver
  split
  next p _ =>
    split
    next sent => exact .of_perform (.message p.pid line) sent
    next => exact .of_eq rfl
  next => exact .of_eq rfl

theorem foldl_deliver_drives : ∀ (lines : List String) (s : Scene),
    s.world.Drives (lines.foldl deliver s).world
  | [], _ => .of_eq rfl
  | line :: lines, s => (deliver_drives s line).trans (foldl_deliver_drives lines (deliver s line))

/-- All that any part of an entry does to the world, its report included, it does by requests. -/
theorem keeps_drives (standard : r.registry = Op.standard) (w : World) :
    r.Keeps fun s => w.Drives s.world where
  started _ _ _ h := h
  next next h := h.trans (next.drives standard)
  fails fails h := h.trans (.of_eq (fails.world standard))
  reported f h := h.trans (foldl_deliver_drives _ (Scene.note _ .error f.headline))
  unnamed h := h
  refused _ h := h

theorem executeAll_drives (standard : r.registry = Op.standard) (flags : List (Bool × Bool))
    (s : Scene) : s.world.Drives (r.executeAll flags s).world :=
  (keeps_drives standard s.world).executeAll flags (.of_eq rfl)

/-- Whatever is asked of a world, the log only grows, and what is appended tells what has happened to the
    world: replaying it on the old world leads to the new one, up to variables, inventories and random
    numbers, and touches neither the clock nor anything of a player but place and experience.  No hitpoints
    must leave the range of script ints, which can be seen from the log as well.  This holds of any requests,
    whether they can be met or not, and so of every run of scripts, which does all that it does to the world
    by requests. -/
theorem log_faithful :
    (∀ (w : World) (requests : List World.Request), ∃ new : List WorldEvent,
      (w.serve requests).events = w.events ++ new ∧
      (w.Within requests ↔ w.Fitting new) ∧
      (w.Within requests →
        (w.serve requests).bare = (w.replayAll new).bare ∧ w.Frames (w.serve requests))) ∧
    ∀ (library : Library) (config : Config) (budget : Option UInt32) (flags : List (Bool × Bool))
      (s : Scene),
      let t := (Runner.standard library config budget).executeAll flags s
      ∃ (requests : List World.Request) (new : List WorldEvent),
        t.world = s.world.serve requests ∧
        t.world.events = s.world.events ++ new ∧
        (s.world.Within requests ↔ s.world.Fitting new) ∧
        (s.world.Fitting new →
          t.world.bare = (s.world.replayAll new).bare ∧ s.world.Frames t.world) := by
  refine ⟨World.serve_faithful, fun library config budget flags s => ?_⟩
  obtain ⟨asked, drives⟩ :=
    executeAll_drives (standard_registry library config budget) flags s
  obtain ⟨new, events, fitting, faithful⟩ := s.world.serve_faithful asked
  rw [← drives] at events faithful
  exact ⟨asked, new, drives, events, fitting, fun fits => faithful (fitting.2 fits)⟩

end Runner

/-- A world with one player and one npc of ten hitpoints. -/
def World.duel : World :=
  let npc := Npc.new 7 2 .origin
  (World.empty.addPlayer (.new 1 "bob" .origin)).addNpc
    { npc with stats := npc.stats.insert 3 ⟨10, 10⟩ }

/-- A hit on an npc, and one on an npc who is not there.  The one event tells that three hitpoints are lost
    and that the player is the hero. -/
theorem log_faithful_duel :
    let w := World.duel.serve [.change (.npcDamage 7 0 3 (some 1)), .change (.npcDamage 8 0 3 none)]
    w.events = #[.npcDamage 7 0 3 (some 1)] ∧ World.duel.Frames w ∧
      w.bare = (World.duel.atNpc 7 fun n =>
        { n with stats := n.stats.insert 3 ⟨7, 10⟩, hero := 1 }).bare := by
  intro w
  have within : World.duel.Within
      [.change (.npcDamage 7 0 3 (some 1)), .change (.npcDamage 8 0 3 none)] := by
    refine ⟨?_, ?_, trivial⟩
    · rintro n ⟨⟩ s ⟨⟩
      decide
    · rintro n ⟨⟩
  obtain ⟨new, events, -, faithful⟩ := Runner.log_faithful.1 World.duel
    [.change (.npcDamage 7 0 3 (some 1)), .change (.npcDamage 8 0 3 none)]
  obtain ⟨replayed, frames⟩ := faithful within
  have recorded : w.events = #[.npcDamage 7 0 3 (some 1)] := rfl
  have told : new = [.npcDamage 7 0 3 (some 1)] := by
    have appended := congrArg Array.toList (events.symm.trans recorded)
    rwa [Array.toList_appendList] at appended
  rw [told] at replayed
  exact ⟨recorded, frames, replayed⟩

end TickScript
