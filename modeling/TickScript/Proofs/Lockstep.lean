import TickScript.Proofs.Twins

/-
  The log of events and the log of remarks are never read.

  Run twice, once in a world and once in the same world with an earlier past in its log of events, a script
  does the same: it computes the same values, fails with the same faults, and adds the same events.  So the
  log can be emptied at any time without a trace in what comes later.

  The two runs go in lockstep.  `Scene.Alike past s t` relates their scenes: they are twins with one count
  and one history, so that even the budget is exceeded in both or in neither.
-/

namespace TickScript

/-- `s.Alike past t`: `t` differs from `s` at most in that its world has an earlier past, and in the log of
    remarks. -/
structure Scene.Alike (past : Array WorldEvent) (s t : Scene) : Prop where
  invocation : t.invocation = s.invocation
  world : t.world = s.world.after past

namespace Scene

variable {past : Array WorldEvent} {s t : Scene}

theorem Alike.twin (alike : s.Alike past t) : s.Twin .keep past t :=
  ⟨alike.invocation.trans (Invocation.marked_keep _).symm, alike.world⟩

theorem Twin.alike (twin : s.Twin .keep past t) : s.Alike past t :=
  ⟨twin.invocation.trans (Invocation.marked_keep _), twin.world⟩

end Scene

namespace Runner

variable {r : Runner} {past : Array WorldEvent} {s t : Scene}

theorem run_alike (standard : r.registry = Op.standard) (benchmark : Bool)
    (alike : s.Alike past t) : (r.run benchmark s).Alike past (r.run benchmark t) := by
  rw [run_eq, run_eq, alike.invocation]
  have entered : Scene.Alike past { s with invocation := entered benchmark s.invocation }
      { t with invocation := entered benchmark s.invocation } := ⟨rfl, alike.world⟩
  exact (settled_twin (loop_twin standard _ entered.twin (.inl rfl))).alike

/-- An entry goes the same way whatever past the world has, and leaves that past in its place. -/
theorem execute_alike (standard : r.registry = Op.standard) (reset benchmark : Bool)
    (alike : s.Alike past t) :
    (r.execute reset benchmark s).Alike past (r.execute reset benchmark t) := by
  have anew : Scene.Alike past { s with invocation := s.invocation.reset }
      { t with invocation := t.invocation.reset } :=
    ⟨congrArg Invocation.reset alike.invocation, alike.world⟩
  unfold execute
  rw [alike.invocation] at anew ⊢
  dsimp only
  split
  · exact ⟨rfl, alike.world⟩
  · split
    · exact run_alike standard benchmark anew
    · split
      · exact (note_twin alike.twin _ _).alike
      · exact run_alike standard benchmark alike

end Runner

end TickScript
