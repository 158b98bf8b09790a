import TickScript.Proofs.Relay
import TickScript.Proofs.Waiting

/-
  A case plays its script.

  The run of a case is a loop with a counter, a cursor into the actions, and a case split over the states
  that a script can stop in.  What it amounts to is a play: from the first stop on the script is taken from
  stop to stop, by letting a timed wait pass or by giving the next action to a dialog that it answers.  A
  play can be gone on with in one way at most, and the run of a case is the play that goes as far as the
  limit allows, with a verdict on where it got to.

    Delivers           which dialog an action answers, and with which number
    Session.Plays      the moves of a play
    follow_of_plays    the loop follows a play, move by move
    playsOut           and there is a play to the limit, or to a stop where no move is left
    TestCase.Violates  what is wrong at the last stop of a play
    runIn_iff_plays    a case is good if its play is, and otherwise it fails for what is wrong with the play

  That a stop is the script's end, a timed wait or a dialog is the invariant of all entries.  It makes the
  last branch of the case split, which enters the script once more, a branch that is never taken.
-/

namespace TickScript

/-! ## Answers -/

namespace TestAction

/-- `a.Delivers e n`: a script that stopped with `e` is answered by `a`, and the number that it is given is
    `n`.  The button answers a pause, without a number; a number answers a request for one. -/
inductive Delivers : TestAction → Execution → Option Int32 → Prop where
  | button : Delivers .pauseButton .pauseButton none
  | number (n : Int32) : Delivers (.lastInt n) .countDown (some n)

variable {a : TestAction} {e : Execution} {n : Option Int32}

theorem delivers_iff : a.Delivers e n ↔ a.answers e ∧ n = a.value? := by
  constructor
  · rintro ⟨⟩ <;> exact ⟨rfl, rfl⟩
  · rintro ⟨fits, rfl⟩
    cases a <;> cases e <;> first | exact .button | exact .number _ | nomatch fits

theorem answers_eq_false (h : ∀ n, ¬ a.Delivers e n) : a.answers e = false :=
  Bool.eq_false_iff.2 fun fits => h _ (delivers_iff.2 ⟨fits, rfl⟩)

theorem Delivers.isDialog (delivers : a.Delivers e n) : e.isDialog := by
  cases delivers <;> rfl

end TestAction

/-! ## Plays -/

/-- What takes a script on that has stopped: its timed wait passes, or an action answers its dialog. -/
inductive Move where
  | wait
  | answer (action : TestAction)

/-- The actions that were given, in order. -/
def Move.given (moves : List Move) : List TestAction :=
  moves.filterMap fun
    | wait => none
    | answer action => some action

namespace Session

/-- `s.Plays moves t`: these moves, one after the other, take the script from stop to stop, and at last
    to `t`. -/
inductive Plays : Session → List Move → Session → Prop where
  | nil (s : Session) : Plays s [] s
  | wait {s u t : Session} {moves : List Move} :
      s.wait = .ok u → Plays u moves t → Plays s (.wait :: moves) t
  | answer {s u t : Session} {moves : List Move} {action : TestAction} {n : Option Int32} :
      action.Delivers s.execution n → s.continueDialog n = .ok u → Plays u moves t →
      Plays s (.answer action :: moves) t

variable {s t u : Session} {action : TestAction} {n : Option Int32}

/-- What answers the dialog is taken. -/
theorem continueDialog_of_delivers (delivers : action.Delivers s.execution n) :
    ∃ u, s.continueDialog n = .ok u := by
  unfold continueDialog
  generalize s.execution = e at delivers ⊢
  cases delivers with
  | button => exact ⟨_, rfl⟩
  | number n => exact ⟨_, rfl⟩

theorem isDialog_eq_false_of_isTimedWait {e : Execution} : e.isTimedWait → e.isDialog = false := by
  cases e <;> decide

theorem step_rests (standard : s.runner.registry = Op.standard) : s.step.execution.Rests :=
  (s.runner.execute_outcome false false s.scene).rests standard

/-- Every move leads to a stop, with the same runner. -/
theorem rests_of_wait (standard : s.runner.registry = Op.standard) (h : s.wait = .ok u) :
    u.runner = s.runner ∧ u.execution.Rests := by
  obtain ⟨-, rfl⟩ := wait_eq_ok.1 h
  have waited : ({ s with scene := waited s.scene } : Session).runner.registry = Op.standard := standard
  exact ⟨rfl, step_rests waited⟩

theorem rests_of_continueDialog (standard : s.runner.registry = Op.standard)
    (h : s.continueDialog n = .ok u) : u.runner = s.runner ∧ u.execution.Rests := by
  rcases s.continueDialog_cases n with ⟨-, gone⟩ | ⟨n, -, -, gone⟩ | ⟨-, e, refused⟩
  · cases gone.symm.trans h
    exact ⟨rfl, step_rests standard⟩
  · cases gone.symm.trans h
    have answered : (s.withLastInt n).runner.registry = Op.standard := standard
    exact ⟨rfl, step_rests answered⟩
  · nomatch refused.symm.trans h

theorem Plays.rests (standard : s.runner.registry = Op.standard) (rests : s.execution.Rests)
    {moves : List Move} (plays : s.Plays moves t) : t.execution.Rests := by
  induction plays with
  | nil => exact rests
  | wait wait _ ih =>
    obtain ⟨same, rests⟩ := rests_of_wait standard wait
    exact ih (same ▸ standard) rests
  | answer _ answered _ ih =>
    obtain ⟨same, rests⟩ := rests_of_continueDialog standard answered
    exact ih (same ▸ standard) rests

/-- No move is left: the script has ended, or the first of the remaining actions is no answer to its
    dialog. -/
def Stuck (s : Session) (remaining : List TestAction) : Prop :=
  s.execution.isTerminal ∨
    s.execution.isDialog ∧ ∀ action ∈ remaining.head?, ∀ n, ¬ action.Delivers s.execution n

/-- There is a play of so many moves with these actions, or of fewer up to a stop where no move is left. -/
def PlaysOut (s : Session) (limit : Nat) (actions : List TestAction) : Prop :=
  ∃ moves t remaining, s.Plays moves t ∧ actions = Move.given moves ++ remaining ∧
    (moves.length = limit ∨ moves.length < limit ∧ t.Stuck remaining)

variable {limit : Nat} {actions : List TestAction}

theorem PlaysOut.zero (s : Session) (actions : List TestAction) : s.PlaysOut 0 actions :=
  ⟨[], s, actions, .nil s, rfl, .inl rfl⟩

theorem Stuck.playsOut (stuck : s.Stuck actions) : s.PlaysOut (limit + 1) actions :=
  ⟨[], s, actions, .nil s, rfl, .inr ⟨Nat.succ_pos limit, stuck⟩⟩

/-- One move before what can be played out. -/
theorem PlaysOut.before (move : Move) (first : ∀ {moves t}, u.Plays moves t → s.Plays (move :: moves) t)
    (h : u.PlaysOut limit actions) : s.PlaysOut (limit + 1) (Move.given [move] ++ actions) := by
  obtain ⟨moves, t, remaining, plays, rfl, reached⟩ := h
  refine ⟨move :: moves, t, remaining, first plays, ?_, ?_⟩
  · rw [← List.append_assoc]
    exact congrArg (· ++ remaining) List.filterMap_append.symm
  · exact reached.imp (congrArg (· + 1)) fun h => ⟨Nat.succ_lt_succ h.1, h.2⟩

/-- Whatever the script does, there is always a move until none is left. -/
theorem playsOut : ∀ (limit : Nat) {s : Session} (actions : List TestAction),
    s.runner.registry = Op.standard → s.execution.Rests → s.PlaysOut limit actions := by
  intro limit
  induction limit with
  | zero => exact fun {s} actions _ _ => .zero s actions
  | succ limit ih =>
    intro s actions standard rests
    cases timed : s.execution.isTimedWait with
    | true =>
      have wait := wait_eq_ok.2 ⟨timed, rfl⟩
      obtain ⟨same, rests⟩ := rests_of_wait standard wait
      exact (ih actions (same ▸ standard) rests).before .wait (.wait wait)
    | false =>
      -- by the invariant of entries a stop that is no timed wait is a dialog or the end
      rcases rests.dialog_or_terminal timed with dialog | terminal
      · cases actions with
        | nil => exact Stuck.playsOut (.inr ⟨dialog, nofun⟩)
        | cons action actions =>
          by_cases fits : ∃ n, action.Delivers s.execution n
          · obtain ⟨n, delivers⟩ := fits
            obtain ⟨u, answered⟩ := continueDialog_of_delivers delivers
            obtain ⟨same, rests⟩ := rests_of_continueDialog standard answered
            exact (ih actions (same ▸ standard) rests).before (.answer action) (.answer delivers answered)
          · refine Stuck.playsOut (.inr ⟨dialog, ?_⟩)
            rintro _ ⟨⟩
            exact not_exists.1 fits
      · exact Stuck.playsOut (.inl terminal)

end Session

/-! ## The loop -/

namespace TestCase

open Session (Plays)

variable {c : TestCase} {s t u : Session} {used steps left : Nat} {moves : List Move}

/-- The loop goes on from a script that has not ended. -/
theorem follow_of_goOn {next : Progress} (live : s.execution.isTerminal = false)
    (gone : c.goOn ⟨s, used⟩ = .ok next) :
    c.follow (left + 1) steps ⟨s, used⟩ = c.follow left (steps + 1) next := by
  rw [follow, if_neg (by rw [live]; nofun), gone]
  rfl

theorem goOn_of_wait (h : s.wait = .ok u) : c.goOn ⟨s, used⟩ = .ok ⟨u, used⟩ := by
  obtain ⟨timed, -⟩ := Session.wait_eq_ok.1 h
  unfold goOn
  rw [if_neg (by rw [Session.isDialog_eq_false_of_isTimedWait timed]; nofun), if_pos timed, h]
  rfl

/-- What the next action does at a dialog. -/
theorem answer_of_next {action : TestAction} (there : c.actions[used]? = some action) :
    c.answer ⟨s, used⟩ =
      if action.answers s.execution then do
        let u ← (s.continueDialog action.value?).mapError .session
        pure ⟨u, used + 1⟩
      else .error (.wrongAction used s.execution action) := by
  unfold answer
  dsimp only
  rw [there]

theorem goOn_of_answer {action : TestAction} {n : Option Int32}
    (there : c.actions[used]? = some action) (delivers : action.Delivers s.execution n)
    (answered : s.continueDialog n = .ok u) : c.goOn ⟨s, used⟩ = .ok ⟨u, used + 1⟩ := by
  obtain ⟨fits, rfl⟩ := TestAction.delivers_iff.1 delivers
  unfold goOn
  rw [if_pos delivers.isDialog, answer_of_next there, if_pos fits, answered]
  rfl

/-- The loop follows a play. -/
theorem follow_of_plays (plays : s.Plays moves t) {remaining : List TestAction}
    (split : c.actions.drop used = Move.given moves ++ remaining) :
    c.follow (left + moves.length) steps ⟨s, used⟩ =
      c.follow left (steps + moves.length) ⟨t, used + (Move.given moves).length⟩ := by
  induction plays generalizing used steps with
  | nil => rfl
  | @wait s u t moves wait _ ih =>
    obtain ⟨timed, -⟩ := Session.wait_eq_ok.1 wait
    rw [List.length_cons, ← Nat.add_assoc left,
      follow_of_goOn (Session.isTerminal_of_isTimedWait timed) (goOn_of_wait wait), ih split,
      Nat.add_assoc steps, Nat.add_comm 1]
    rfl
  | @answer s u t moves action n delivers answered _ ih =>
    have split : c.actions.drop used = action :: (Move.given moves ++ remaining) := split
    have there : c.actions[used]? = some action := by
      rw [← List.head?_drop, split]
      rfl
    have rest : c.actions.drop (used + 1) = Move.given moves ++ remaining := by
      rw [← List.tail_drop, split]
      rfl
    have live : s.execution.isTerminal = false := Execution.isTerminal_of_isSuspended
      (Execution.isSuspended_of_isDialog delivers.isDialog)
    rw [List.length_cons, ← Nat.add_assoc left,
      follow_of_goOn live (goOn_of_answer there delivers answered), ih rest, Nat.add_assoc steps,
      Nat.add_comm 1, Nat.add_assoc used, Nat.add_comm 1]
    rfl

theorem follow_of_plays_start (plays : s.Plays moves t) {remaining : List TestAction}
    (split : c.actions = Move.given moves ++ remaining) :
    c.follow (left + moves.length) 1 ⟨s, 0⟩ =
      c.follow left (1 + moves.length) ⟨t, (Move.given moves).length⟩ := by
  have split : c.actions.drop 0 = Move.given moves ++ remaining := split
  rw [follow_of_plays plays split, Nat.zero_add]

/-! ## Verdicts -/

/-- What is wrong with a case whose play has come to its last stop. -/
inductive Violates (c : TestCase) (moves : List Move) (t : Session) : CaseError → Prop where
  /-- The script has ended, and there are actions left. -/
  | unused {remaining : List TestAction} : moves.length < maxSteps → t.execution.isTerminal →
      c.actions = Move.given moves ++ remaining → remaining ≠ [] →
      Violates c moves t (.unusedActions (Move.given moves).length c.actions.length)
  /-- A dialog finds no action left. -/
  | missing : moves.length < maxSteps → t.execution.isDialog → c.actions = Move.given moves →
      Violates c moves t (.missingAction (Move.given moves).length t.execution)
  /-- A dialog finds an action that is no answer to it. -/
  | wrong {action : TestAction} {remaining : List TestAction} : moves.length < maxSteps →
      t.execution.isDialog → c.actions = Move.given moves ++ action :: remaining →
      (∀ n, ¬ action.Delivers t.execution n) →
      Violates c moves t (.wrongAction (Move.given moves).length t.execution action)
  /-- The limit is reached. -/
  | tooMany {remaining : List TestAction} : moves.length = maxSteps →
      c.actions = Move.given moves ++ remaining → Violates c moves t (.tooManySteps maxSteps)

/-- What comes of a case whose play has come to its last stop. -/
inductive Verdict (c : TestCase) (moves : List Move) (t : Session) : Except CaseError Report → Prop where
  | good : moves.length < maxSteps → t.execution.isTerminal → c.actions = Move.given moves →
      Verdict c moves t
        (.ok ⟨t.execution, t.world.events.toList, c.actions.length, moves.length + 1⟩)
  | bad {e : CaseError} : Violates c moves t e → Verdict c moves t (.error e)

theorem follow_of_isTerminal_eq (terminal : t.execution.isTerminal) :
    c.follow (left + 1) steps ⟨t, used⟩ = c.report ⟨t, used⟩ steps := by
  rw [follow, if_pos terminal]

/-- At a dialog for which no action is right the loop ends. -/
theorem follow_of_answer_error {e : CaseError} (dialog : t.execution.isDialog)
    (refused : c.answer ⟨t, used⟩ = .error e) :
    c.follow (left + 1) steps ⟨t, used⟩ = .error e := by
  have live : t.execution.isTerminal = false :=
    Execution.isTerminal_of_isSuspended (Execution.isSuspended_of_isDialog dialog)
  have gone : c.goOn ⟨t, used⟩ = .error e := (if_pos dialog).trans refused
  rw [follow, if_neg (by rw [live]; nofun), gone]
  rfl

/-- From the first stop on the loop comes to the verdict on the play. -/
theorem follow_of_verdict (plays : s.Plays moves t) {result : Except CaseError Report}
    (verdict : Verdict c moves t result) : c.follow maxSteps 1 ⟨s, 0⟩ = result := by
  -- inside the limit there is one more entry, for the look at the last stop
  have inside {remaining : List TestAction} (few : moves.length < maxSteps)
      (split : c.actions = Move.given moves ++ remaining) :
      ∃ left, c.follow maxSteps 1 ⟨s, 0⟩ =
        c.follow (left + 1) (1 + moves.length) ⟨t, (Move.given moves).length⟩ := by
    obtain ⟨left, room⟩ := Nat.exists_eq_add_of_lt few
    refine ⟨left, ?_⟩
    rw [show maxSteps = left + 1 + moves.length by omega, follow_of_plays_start plays split]
  cases verdict with
  | good few terminal all =>
    obtain ⟨left, followed⟩ := inside few (all.trans (List.append_nil _).symm)
    rw [followed, follow_of_isTerminal_eq terminal]
    unfold report
    rw [if_pos (congrArg List.length all).symm, all, Nat.add_comm 1]
  | bad violates =>
    cases violates with
    | @unused remaining few terminal split more =>
      obtain ⟨left, followed⟩ := inside few split
      have unequal : (Move.given moves).length ≠ c.actions.length := by
        rw [split, List.length_append]
        have := List.length_pos_iff.2 more
        omega
      rw [followed, follow_of_isTerminal_eq terminal]
      exact if_neg unequal
    | missing few dialog all =>
      obtain ⟨left, followed⟩ := inside few (all.trans (List.append_nil _).symm)
      rw [followed]
      refine follow_of_answer_error dialog ?_
      unfold answer
      dsimp only
      rw [List.getElem?_eq_none (by rw [all])]
    | @wrong action remaining few dialog split mismatch =>
      obtain ⟨left, followed⟩ := inside few split
      rw [followed]
      refine follow_of_answer_error dialog ?_
      have there : c.actions[(Move.given moves).length]? = some action := by
        rw [split, List.getElem?_append_right (Nat.le_refl _), Nat.sub_self]
        rfl
      rw [answer_of_next there, if_neg (by rw [TestAction.answers_eq_false mismatch]; nofun)]
    | tooMany all split =>
      have followed : c.follow (0 + moves.length) 1 ⟨s, 0⟩ = _ := follow_of_plays_start plays split
      rw [Nat.zero_add, all] at followed
      rw [followed]
      rfl

/-- There is a play with a verdict. -/
theorem exists_verdict (c : TestCase) (standard : s.runner.registry = Op.standard)
    (rests : s.execution.Rests) : ∃ moves t result, s.Plays moves t ∧ Verdict c moves t result := by
  obtain ⟨moves, t, remaining, plays, split, reached⟩ :=
    Session.playsOut maxSteps c.actions standard rests
  rcases reached with all | ⟨few, terminal | ⟨dialog, mismatch⟩⟩
  · exact ⟨moves, t, _, plays, .bad (.tooMany all split)⟩
  · cases remaining with
    | nil => exact ⟨moves, t, _, plays, .good few terminal (split.trans (List.append_nil _))⟩
    | cons action remaining =>
      exact ⟨moves, t, _, plays, .bad (.unused few terminal split (List.cons_ne_nil _ _))⟩
  · cases remaining with
    | nil =>
      exact ⟨moves, t, _, plays, .bad (.missing few dialog (split.trans (List.append_nil _)))⟩
    | cons action remaining =>
      exact ⟨moves, t, _, plays, .bad (.wrong few dialog split (mismatch action rfl))⟩

/-- The loop comes to a result exactly if that is the verdict on a play. -/
theorem follow_iff_verdict (standard : s.runner.registry = Op.standard) (rests : s.execution.Rests)
    {result : Except CaseError Report} : c.follow maxSteps 1 ⟨s, 0⟩ = result ↔
      ∃ moves t, s.Plays moves t ∧ Verdict c moves t result := by
  constructor
  · rintro rfl
    obtain ⟨moves, t, result, plays, verdict⟩ := exists_verdict c standard rests
    rw [follow_of_verdict plays verdict]
    exact ⟨moves, t, plays, verdict⟩
  · rintro ⟨moves, t, plays, verdict⟩
    exact follow_of_verdict plays verdict

/-! ## On files -/

/-- A session that is started with a pack has the pack's runner. -/
theorem begin_runner {p : Pack} (begun : c.begin p = .ok s) : s.runner = p.runner none := by
  obtain ⟨script, -, begun⟩ := Except.bind_eq_ok.1 begun
  obtain ⟨i, -, begun⟩ := Except.bind_eq_ok.1 begun
  cases begun
  rfl

open FileTree (attempt) in
/-- The run of a case on the files of a pack is its loop from the first stop on. -/
theorem attempt_runIn_of_packed {tree : FileTree} {dir : String} {p : Pack}
    (packed : tree.Packed dir p) (begun : c.begin p = .ok s) :
    (attempt (c.runIn (m := StateM FileTree) dir) tree).1 = c.follow maxSteps 1 ⟨s.step, 0⟩ := by
  obtain ⟨files, documents, made⟩ := packed
  rw [Command.attempt_runIn, documents]
  show (Pack.ofFiles files).mapError CaseError.session >>= c.run = _
  rw [made]
  show (c.begin p).mapError CaseError.session >>= _ = _
  rw [begun]
  rfl

open FileTree (attempt) in
/-- Let a directory hold a pack and let the case's session start.  The case is good exactly if its script
    can be played from the first stop to its end, in fewer entries than the limit, with its actions as the
    answers, each given once and in order, and none left; then the report tells the state and all events at
    the end, and how many actions were given and entries made.  Otherwise it fails for what is wrong at the
    last stop of its play.

    On the way every stop is the script's end, a timed wait or a dialog, and neither a wait nor an answer
    that fits is ever refused. -/
theorem runIn_iff_plays {tree : FileTree} {dir : String} {p : Pack} (packed : tree.Packed dir p)
    {fresh : Session} (begun : c.begin p = .ok fresh) :
    let result := (attempt (c.runIn (m := StateM FileTree) dir) tree).1
    (∀ report, result = .ok report ↔ ∃ moves last, fresh.step.Plays moves last ∧
      last.execution.isTerminal ∧ moves.length ≤ 4999 ∧ Move.given moves = c.actions ∧
      report.execution = last.execution ∧ report.events = last.world.events.toList ∧
      report.usedActions = c.actions.length ∧ report.steps = moves.length + 1) ∧
    (∀ e, result = .error e ↔
      ∃ moves last, fresh.step.Plays moves last ∧ Violates c moves last e) ∧
    (∀ e, result ≠ .error (.session e)) ∧
    ∀ moves stop, fresh.step.Plays moves stop →
      (stop.execution.isTerminal ∨ stop.execution.isTimedWait ∨ stop.execution.isDialog) ∧
      (stop.execution.isTimedWait → ∃ next, stop.wait = .ok next) ∧
      ∀ (action : TestAction) (n : Option Int32), action.Delivers stop.execution n →
        ∃ next, stop.continueDialog n = .ok next := by
  have standard : fresh.step.runner.registry = Op.standard := by
    show fresh.runner.registry = _
    rw [begin_runner begun]
    exact Session.runner_standard p none
  have rests : fresh.step.execution.Rests := Session.step_rests (s := fresh) standard
  have ran (result : Except CaseError Report) :
      (attempt (c.runIn (m := StateM FileTree) dir) tree).1 = result ↔
        ∃ moves last, fresh.step.Plays moves last ∧ Verdict c moves last result := by
    rw [attempt_runIn_of_packed packed begun]
    exact follow_iff_verdict standard rests
  have failed (e : CaseError) : (attempt (c.runIn (m := StateM FileTree) dir) tree).1 = .error e ↔
      ∃ moves last, fresh.step.Plays moves last ∧ Violates c moves last e := by
    rw [ran]
    refine exists₂_congr fun moves last => and_congr_right' ⟨?_, .bad⟩
    rintro ⟨⟩
    assumption
  refine ⟨fun report => ?_, failed, fun e refused => ?_, fun moves stop plays => ⟨?_, ?_, ?_⟩⟩
  · rw [ran]
    refine exists₂_congr fun moves last => and_congr_right' ?_
    constructor
    · rintro (⟨few, terminal, all⟩ | _)
      exact ⟨terminal, Nat.le_of_lt_succ few, all.symm, rfl, rfl, rfl, rfl⟩
    · obtain ⟨execution, events, used, steps⟩ := report
      rintro ⟨terminal, few, all, rfl, rfl, rfl, rfl⟩
      exact .good (Nat.lt_succ_of_le few) terminal all.symm
  · obtain ⟨moves, last, -, violates⟩ := (failed _).1 refused
    nomatch violates
  · rcases plays.rests standard rests with terminal | suspended
    · exact .inl terminal
    · exact .inr (Bool.or_eq_true_iff.1 suspended)
  · exact fun timed => ⟨_, Session.wait_eq_ok.2 ⟨timed, rfl⟩⟩
  · exact fun action n delivers => Session.continueDialog_of_delivers delivers

open Command FileTree in
/-- The script that greets stops once, and the case gives it the one answer, whose number it then says.
    Without this action the case fails at the stop, and so it does with the button in its place. -/
theorem runIn_iff_plays_greetCase :
    (∃ moves last, (Session.step ⟨greetRunner, ⟨greetStart, greetWorld, []⟩⟩).Plays moves last ∧
      last.execution = .finished ∧ moves.length = 1 ∧ Move.given moves = [.lastInt 7] ∧
      last.world.events.toList = [hello, seven]) ∧
    (attempt (runIn (m := StateM FileTree) { greetCase with actions := [] } "pack") greetTree).1 =
      .error (.missingAction 0 .countDown) ∧
    (attempt (runIn (m := StateM FileTree) { greetCase with actions := [.pauseButton] } "pack")
      greetTree).1 = .error (.wrongAction 0 .countDown .pauseButton) := by
  have ran : (attempt (greetCase.runIn (m := StateM FileTree) "pack") greetTree).1 =
      .ok greetReport :=
    attempt_runIn_eq_ok.2 ⟨greetPack, greetTree_packed, greetCase_run⟩
  have begun (actions : List TestAction) : { greetCase with actions }.begin greetPack =
      .ok ⟨greetRunner, ⟨greetStart, greetWorld, []⟩⟩ := greetCase_begin
  refine ⟨?_, ?_, ?_⟩
  · obtain ⟨moves, last, plays, -, -, all, execution, events, -, steps⟩ :=
      ((runIn_iff_plays greetTree_packed greetCase_begin).1 greetReport).1 ran
    exact ⟨moves, last, plays, execution.symm, (Nat.succ.inj steps).symm, all, events.symm⟩
  · refine ((runIn_iff_plays greetTree_packed (begun [])).2.1 _).2 ⟨[], _, .nil _, ?_⟩
    rw [step_greetStart]
    exact .missing (by decide) rfl rfl
  · refine ((runIn_iff_plays greetTree_packed (begun [.pauseButton])).2.1 _).2 ⟨[], _, .nil _, ?_⟩
    rw [step_greetStart]
    exact .wrong (by decide) rfl rfl nofun

end TestCase

end TickScript
