import TickScript.Proofs.Effect

/-
  When operations succeed.

  An operation that handlers are made of succeeds under one condition, and then its result and the scene
  that it leaves are known.  A sequence succeeds if its parts do, one after the other.  Read from left to
  right these equivalences take a handler that has succeeded apart; read from right to left they put one
  together.

    bind_eq_ok, bind_of_ok            sequences
    popInt_eq_ok, …                   what is taken from a stack was on top of it
    require_eq_ok, …                  a check finds the permission and the entity
    fromConfig_eq_ok, observe_eq_ok   a look-up finds its entry
    effect_eq_ok                      the world takes the change
-/

namespace TickScript

theorem World.findNpc_eq_ok {w : World} {nid : Int32} {n : Npc} :
    w.findNpc nid = .ok n ↔ w.npcs.get? nid = some n := by
  unfold findNpc
  cases w.npcs.get? nid with
  | none => constructor <;> intro h <;> cases h
  | some m => constructor <;> intro h <;> cases h <;> rfl

namespace Op

variable {α β : Type} {env : Env} {s t : Scene}

/-! ## Sequences -/

theorem bind_eq_ok {x : Op α} {k : α → Op β} {b : β} :
    (x >>= k) env s = .ok b t ↔ ∃ a u, x env s = .ok a u ∧ k a env u = .ok b t := by
  rw [bind_apply]
  cases x env s with
  | ok a u =>
    refine ⟨fun h => ⟨a, u, rfl, h⟩, fun ⟨_, _, h, h'⟩ => ?_⟩
    cases h
    exact h'
  | error f u => exact ⟨nofun, fun ⟨_, _, h, _⟩ => nomatch h⟩

/-- What comes after an operation that has succeeded decides. -/
theorem bind_of_ok {x : Op α} {k : α → Op β} {a : α} {u : Scene} (first : x env s = .ok a u) :
    (x >>= k) env s = k a env u := by
  rw [bind_apply, first]

theorem exists_bind_eq_ok {x : Op α} {k : α → Op β} {a : α} {u : Scene} {b : β} {P : Scene → Prop}
    (first : x env s = .ok a u) (rest : ∃ t, k a env u = .ok b t ∧ P t) :
    ∃ t, (x >>= k) env s = .ok b t ∧ P t := by
  rw [bind_of_ok first]
  exact rest

/-! ## Operands -/

theorem selectedSlot_apply (env : Env) (s : Scene) :
    selectedSlot env s = .ok s.invocation.selectedSlot s :=
  rfl

theorem takeInts_eq_ok {take : List Int32 → Option (α × List Int32)} {a : α} :
    takeInts take env s = .ok a t ↔ ∃ rest, take s.invocation.ints = some (a, rest) ∧
      t = { s with invocation := { s.invocation with ints := rest } } := by
  unfold takeInts
  cases take s.invocation.ints with
  | none => exact ⟨nofun, fun ⟨_, h, _⟩ => nomatch h⟩
  | some taken =>
    constructor
    · intro h
      cases h
      exact ⟨taken.2, rfl, rfl⟩
    · rintro ⟨_, h, rfl⟩
      cases h
      rfl

theorem popInt_eq_ok {n : Int32} : popInt env s = .ok n t ↔ ∃ rest,
    s.invocation.ints = n :: rest ∧
      t = { s with invocation := { s.invocation with ints := rest } } := by
  refine takeInts_eq_ok.trans (exists_congr fun rest => and_congr_left' ?_)
  rcases s.invocation.ints with _ | ⟨a, ints⟩
  · exact ⟨nofun, nofun⟩
  · constructor <;> intro h <;> cases h <;> rfl

theorem popInt2_eq_ok {a b : Int32} : popInt2 env s = .ok (a, b) t ↔ ∃ rest,
    s.invocation.ints = b :: a :: rest ∧
      t = { s with invocation := { s.invocation with ints := rest } } := by
  refine takeInts_eq_ok.trans (exists_congr fun rest => and_congr_left' ?_)
  rcases s.invocation.ints with _ | ⟨c, _ | ⟨d, ints⟩⟩
  · exact ⟨nofun, nofun⟩
  · exact ⟨nofun, nofun⟩
  · constructor <;> intro h <;> cases h <;> rfl

theorem popInt3_eq_ok {a b c : Int32} : popInt3 env s = .ok (a, b, c) t ↔ ∃ rest,
    s.invocation.ints = c :: b :: a :: rest ∧
      t = { s with invocation := { s.invocation with ints := rest } } := by
  refine takeInts_eq_ok.trans (exists_congr fun rest => and_congr_left' ?_)
  rcases s.invocation.ints with _ | ⟨d, _ | ⟨e, _ | ⟨f, ints⟩⟩⟩
  · exact ⟨nofun, nofun⟩
  · exact ⟨nofun, nofun⟩
  · exact ⟨nofun, nofun⟩
  · constructor <;> intro h <;> cases h <;> rfl

theorem popString_eq_ok {k : String} : popString env s = .ok k t ↔ ∃ rest,
    s.invocation.strings = k :: rest ∧
      t = { s with invocation := { s.invocation with strings := rest } } := by
  unfold popString takeStrings
  rcases s.invocation.strings with _ | ⟨a, strings⟩
  · exact ⟨nofun, nofun⟩
  · constructor
    · intro h
      cases h
      exact ⟨strings, rfl, rfl⟩
    · rintro ⟨_, h, rfl⟩
      cases h
      rfl

/-! ## Checks -/

theorem require_eq_ok {pointer : Pointers} {slot : Invocation → Option α} {a : α} :
    require pointer slot env s = .ok a t ↔
      t = s ∧ s.invocation.pointers.includes pointer ∧ slot s.invocation = some a := by
  rw [require_apply]
  constructor
  · intro h
    split at h
    next granted =>
      cases bound : slot s.invocation with
      | none =>
        rw [bound] at h
        nomatch h
      | some b =>
        rw [bound] at h
        cases h
        exact ⟨rfl, granted, rfl⟩
    next => nomatch h
  · rintro ⟨rfl, granted, bound⟩
    rw [if_pos granted, bound]

theorem requirePlayer_eq_ok {p : PlayerRef} : requirePlayer env s = .ok p t ↔
    t = s ∧ s.invocation.pointers.includes (.player s.invocation.selectedSlot) ∧
      s.invocation.players.get s.invocation.selectedSlot = some p := by
  unfold requirePlayer
  rw [bind_apply]
  exact require_eq_ok

theorem requireProtectedPlayer_eq_ok {p : PlayerRef} : requireProtectedPlayer env s = .ok p t ↔
    t = s ∧ s.invocation.pointers.includes (.protectedAccess s.invocation.selectedSlot) ∧
      s.invocation.players.get s.invocation.selectedSlot = some p := by
  unfold requireProtectedPlayer
  rw [bind_apply]
  exact require_eq_ok

theorem requireNpc_eq_ok {n : NpcRef} : requireNpc env s = .ok n t ↔
    t = s ∧ s.invocation.pointers.includes (.npc s.invocation.selectedSlot) ∧
      s.invocation.npcs.get s.invocation.selectedSlot = some n := by
  unfold requireNpc
  rw [bind_apply]
  exact require_eq_ok

/-! ## Look-ups and changes of the world -/

theorem orFail_eq_ok {f : Fault} {o : Option α} {a : α} :
    orFail f o env s = .ok a t ↔ t = s ∧ o = some a := by
  cases o with
  | none => exact ⟨nofun, fun ⟨_, h⟩ => nomatch h⟩
  | some b =>
    constructor
    · intro h
      cases h
      exact ⟨rfl, rfl⟩
    · rintro ⟨rfl, h⟩
      cases h
      rfl

/-- What is looked up is found or not, and the scene is left as it is. -/
theorem lookup_eq_ok {x : Except Fault α} {a : α} :
    (match x with
      | .ok a => EStateM.Result.ok a s
      | .error e => .error e s) = .ok a t ↔ t = s ∧ x = .ok a := by
  cases x with
  | ok b =>
    constructor
    · intro h
      cases h
      exact ⟨rfl, rfl⟩
    · rintro ⟨rfl, h⟩
      cases h
      rfl
  | error e => exact ⟨nofun, fun ⟨_, h⟩ => nomatch h⟩

theorem fromConfig_eq_ok {f : Config → Except Fault α} {a : α} :
    fromConfig f env s = .ok a t ↔ t = s ∧ f env.config = .ok a :=
  lookup_eq_ok

theorem observe_eq_ok {f : World → Except Fault α} {a : α} :
    observe f env s = .ok a t ↔ t = s ∧ f s.world = .ok a :=
  lookup_eq_ok

theorem effect_eq_ok {f : World → Except Fault World} :
    effect f env s = .ok () t ↔ ∃ w, f s.world = .ok w ∧ t = { s with world := w } := by
  unfold effect
  cases f s.world with
  | ok w =>
    constructor
    · intro h
      cases h
      exact ⟨w, rfl, rfl⟩
    · rintro ⟨_, h, rfl⟩
      cases h
      rfl
  | error e => exact ⟨nofun, fun ⟨_, h, _⟩ => nomatch h⟩

end Op

end TickScript
