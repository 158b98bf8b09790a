import TickScript.Proofs.Blindness

/-
  Twins: scenes of which one is the other in a disguise with nothing under the stacks.

  A runner that goes on where another one stops, or that counts otherwise, works on the very same stacks.
  So its operands run out exactly where those of the other one do, and two runs that start as twins end as
  twins without exception.

    Scene.Twin           `t` is `s` with a mark and an earlier past, whatever remarks were made
    Instruction.blind    every instruction goes the same way in twins and leaves twins
    loop_twin            so does the loop, as long as it does not complain of the budget
    abort_twin           so does the report of a fault
-/

namespace TickScript

/-- `s.Twin m past t`: `t` differs from `s` in the mark and in that its world has an earlier past; the
    remarks may be any. -/
structure Scene.Twin (m : Mark) (past : Array WorldEvent) (s t : Scene) : Prop where
  invocation : t.invocation = s.invocation.marked m
  world : t.world = s.world.after past

/-- The disguise of twins, with nothing under the stacks. -/
def Mark.disguise (m : Mark) (past : Array WorldEvent) : Disguise := ⟨m, [], [], past⟩

theorem Invocation.disguised_disguise (m : Mark) (past : Array WorldEvent) (i : Invocation) :
    i.disguised (m.disguise past) = i.marked m := by
  show { i.marked m with ints := i.ints ++ [], strings := i.strings ++ [] } = i.marked m
  rw [List.append_nil, List.append_nil]
  rfl

namespace Scene

variable {m : Mark} {past : Array WorldEvent} {s t : Scene}

theorem twin_iff : s.Twin m past t ↔ s.Disguised (m.disguise past) t := by
  constructor
  · exact fun twin => ⟨twin.invocation.trans (Invocation.disguised_disguise m past _).symm, twin.world⟩
  · exact fun same => ⟨same.invocation.trans (Invocation.disguised_disguise m past _), same.world⟩

namespace Twin

theorem execution (twin : s.Twin m past t) : t.invocation.execution = s.invocation.execution :=
  (twin_iff.1 twin).execution

theorem script (twin : s.Twin m past t) : t.invocation.script = s.invocation.script :=
  (twin_iff.1 twin).script

theorem pc (twin : s.Twin m past t) : t.invocation.pc = s.invocation.pc := (twin_iff.1 twin).pc

theorem opcount (twin : s.Twin m past t) : t.invocation.opcount = s.invocation.opcount + m.shift :=
  (twin_iff.1 twin).opcount

end Twin

end Scene

/-- Two runs end as twins: with the same result or the same fault, in scenes that are twins. -/
inductive EndsTwin {α : Type} (m : Mark) (past : Array WorldEvent) :
    EStateM.Result Fault Scene α → EStateM.Result Fault Scene α → Prop where
  | ok {a : α} {s t : Scene} : s.Twin m past t → EndsTwin m past (.ok a s) (.ok a t)
  | error {f : Fault} {s t : Scene} : s.Twin m past t → EndsTwin m past (.error f s) (.error f t)

/-- Under the stacks of twins there is nothing to be found. -/
theorem EndsAlike.twin {α : Type} {m : Mark} {past : Array WorldEvent}
    {x y : EStateM.Result Fault Scene α} (alike : EndsAlike (m.disguise past) x y) :
    EndsTwin m past x y := by
  cases alike with
  | ok same => exact .ok (Scene.twin_iff.2 same)
  | error same => exact .error (Scene.twin_iff.2 same)
  | underflow _ deep => exact absurd ⟨rfl, rfl⟩ deep

/-- The operation goes the same way in twins, and leaves twins. -/
def Op.Blind {α : Type} (x : Op α) : Prop :=
  ∀ (m : Mark) (past : Array WorldEvent) (env : Env) (s t : Scene), s.Twin m past t →
    EndsTwin m past (x env s) (x env t)

theorem Op.Instruction.blind {o : Opcode} {g : Int32 → Prop} {h : Handler}
    (instruction : Instruction o g h) : Blind h := fun m past env s t twin =>
  (instruction.oblivious (m.disguise past) env s t (Scene.twin_iff.1 twin)).twin

namespace Runner

variable {r : Runner} {m : Mark} {past : Array WorldEvent} {s t : Scene}

theorem advance_twin (twin : s.Twin m past t) : (advance s).Twin m past (advance t) :=
  Scene.twin_iff.2 (advance_disguised (Scene.twin_iff.1 twin))

/-- The loop goes the same way in twins, unless it is ended by the budget. -/
theorem loop_twin (standard : r.registry = Op.standard) (left : Nat) (twin : s.Twin m past t)
    (unread : m.shift = 0 ∨ ¬ Spent (r.loop left s)) :
    EndsTwin m past (r.loop left s) (r.loop left t) :=
  (loop_alike standard left (Scene.twin_iff.1 twin) unread).twin

theorem note_twin (twin : s.Twin m past t) (level : LogLevel) (text : String) :
    (s.note level text).Twin m past (t.note level text) := ⟨twin.invocation, twin.world⟩

theorem abort_twin (twin : s.Twin m past t) (f : Fault) : (abort s f).Twin m past (abort t f) :=
  Scene.twin_iff.2 (abort_disguised (Scene.twin_iff.1 twin) f)

theorem settled_twin {x y : EStateM.Result Fault Scene Unit} (ends : EndsTwin m past x y) :
    (settled x).Twin m past (settled y) := by
  cases ends with
  | ok twin => exact twin
  | error twin => exact abort_twin twin _

end Runner

end TickScript
