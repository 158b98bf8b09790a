import TickScript.Proofs.Course

/-
  Instructions that compute.

  Such an instruction takes operands from the top of the stacks and puts an answer in their place, or it
  refuses the operands.  It does so wherever it stands, and leaves all else as it is.  So what it computes
  is a relation of operands and answers, and a statement about several instructions can speak of these
  alone.

    Scene.pushed     the scene with values pushed onto the stacks
    Yields           the instruction puts this answer in the place of these operands
    Refuses          the instruction fails for these operands
    Yields.unique    there is one answer
    binary_yields    the arithmetic instructions answer with their function
-/

namespace TickScript

/-- The scene with values pushed one by one, on what is left of the int stack. -/
def Scene.pushed (s : Scene) (ints : List Int32) (values : List Value) : Scene :=
  { s with invocation := { s.invocation with
      ints := (values.filterMap Value.asInt?).reverse ++ ints
      strings := (values.filterMap Value.asText?).reverse ++ s.invocation.strings } }

theorem Scene.pushed_pushed (s : Scene) (ints : List Int32) (value : Value) (values : List Value) :
    (s.pushed ints [value]).pushed (s.pushed ints [value]).invocation.ints values =
      s.pushed ints (value :: values) := by
  unfold pushed
  cases value with
  | int n => simp [List.filterMap_cons, Value.asInt?, Value.asText?]
  | text k => simp [List.filterMap_cons, Value.asInt?, Value.asText?]

namespace Runner

variable {r : Runner} {o : Opcode} {h : Handler} {operands : List Value}

/-- `r.Yields o operands answer`: wherever the instruction is `o` and the operands have been pushed, it is
    executed, and the answer has been pushed instead of them. -/
def Yields (r : Runner) (o : Opcode) (operands : List Value) (answer : Value) : Prop :=
  ∀ (s : Scene) ints, s.opcode? = some o.id → r.Calls (s.pushed ints operands) (s.pushed ints [answer])

/-- `r.Refuses o operands f`: wherever the instruction is `o` and the operands have been pushed, it fails
    with `f`. -/
def Refuses (r : Runner) (o : Opcode) (operands : List Value) (f : Fault) : Prop :=
  ∀ (s : Scene) ints, s.opcode? = some o.id →
    ∃ t, r.dispatch o.id r.env (s.pushed ints operands) = .error f t

/-- A script of one instruction, at this instruction. -/
def lone (o : Opcode) : Scene :=
  ⟨{ Invocation.new ⟨1, none, 0, 0, 0, 0, #[o.id], #[0], #[], #[]⟩ [] with
      execution := .running, pc := 0 }, .empty, []⟩

theorem opcode?_lone (o : Opcode) : (lone o).opcode? = some o.id := rfl

/-- An instruction has one answer. -/
theorem Yields.unique {v w : Value} (hv : r.Yields o operands v) (hw : r.Yields o operands w) :
    v = w := by
  have same : (lone o).pushed [] [v] = (lone o).pushed [] [w] :=
    (hv (lone o) [] (opcode?_lone o)).unique (hw (lone o) [] (opcode?_lone o))
  have ints := congrArg (·.invocation.ints) same
  have strings := congrArg (·.invocation.strings) same
  cases v with
  | int m =>
    cases w with
    | int n => exact congrArg Value.int (List.cons.inj ints).1
    | text t => nomatch ints
  | text s =>
    cases w with
    | int n => nomatch ints
    | text t => exact congrArg Value.text (List.cons.inj strings).1

section Listed

variable (standard : r.registry = Op.standard) {table : List (Opcode × Handler)}
  (listed : table ∈ Op.standardTables) (mem : (o, h) ∈ table)

include standard listed mem

theorem yields_of_listed {answer : Value}
    (done : ∀ s ints, h r.env (Scene.pushed s ints operands) = .ok () (s.pushed ints [answer])) :
    r.Yields o operands answer :=
  fun s ints here => calls_of_listed standard listed mem here (done s ints)

theorem refuses_of_listed {f : Fault}
    (failed : ∀ s ints, ∃ t, h r.env (Scene.pushed s ints operands) = .error f t) :
    r.Refuses o operands f := by
  intro s ints _
  rw [dispatch_of_listed standard listed mem]
  exact failed s ints

/-! Most answers are ints that a partial function has for the operands, and a fault where it has none. -/

variable {f : Fault} {value : Option Int32}
  (run : ∀ s ints, h r.env (Scene.pushed s ints operands) =
    (Op.orFail f value >>= Op.pushInt) r.env (s.pushed ints []))

include run

theorem yields_of_value {n : Int32} (answer : value = some n) : r.Yields o operands (.int n) := by
  refine yields_of_listed standard listed mem fun s ints => ?_
  rw [run, answer]
  rfl

theorem refuses_of_no_value (missing : value = none) : r.Refuses o operands f := by
  refine refuses_of_listed standard listed mem fun s ints => ⟨s.pushed ints [], ?_⟩
  rw [run, missing]
  rfl

end Listed

/-! ## Arithmetic instructions -/

open Op (Number.table_listed)

section Arithmetic

variable (standard : r.registry = Op.standard)

include standard

theorem binary_yields {f : Int32 → Int32 → Int32} (mem : (o, Op.Number.binary f) ∈ Op.Number.table)
    (a b : Int32) : r.Yields o [.int a, .int b] (.int (f a b)) :=
  yields_of_listed standard Number.table_listed mem fun _ _ => rfl

variable {f : Int32 → Int32 → Option Int32} {fault : Int32 → Int32 → Fault}
  (mem : (o, Op.Number.partialBinary f fault) ∈ Op.Number.table) {a b : Int32}

include mem

theorem partialBinary_yields {n : Int32} (answer : f a b = some n) :
    r.Yields o [.int a, .int b] (.int n) :=
  yields_of_value standard Number.table_listed mem (f := fault a b) (fun _ _ => rfl) answer

theorem partialBinary_refuses (missing : f a b = none) : r.Refuses o [.int a, .int b] (fault a b) :=
  refuses_of_no_value standard Number.table_listed mem (fun _ _ => rfl) missing

end Arithmetic

end Runner

end TickScript
