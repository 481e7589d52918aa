/-
Module: BlankCode.Proofs.Exposure.Replies
Purpose: What comes back when a machine is told to do something: an answer, or trouble, which does
  not keep anybody from telling the machine something else. When trouble comes out is said here act
  by act, and it turns out to be what the machine after the act has on record, unless the act broke
  off with an error that could not be told.
Main exports: Exposed.run, Exposed.obey, Exposed.reply, Exposed.replies, Exposed.answer,
  Exposed.reply_eq
-/
import BlankCode.Proofs.Exposure.Running

namespace BlankCode.Exposed

variable {σ μ α : Type}

/-- What comes back from an act: the answer, if it has one, or trouble. -/
abbrev Reply := Except Trouble (Option Bool)

/-- The mishap of a run that broke off, or the failure on record, or an answer where there is
neither. -/
def recordedOr (ran : Machine.Ran σ μ) (value : α) : Except Trouble α :=
  if ran.brokeOff then .error (.ofDefeat .unwritable)
  else
    match ran.machine.failure? with
    | some failure => .error (.failure failure)
    | none => .ok value

/-- What comes back from an act, told from what the machine has come to. -/
def answer (ran : Machine.Ran σ μ) : Machine.Act → Reply
  | .step => recordedOr ran none
  | .run _ _ => recordedOr ran (some (!ran.machine.isRunning))
  | .stop | .fail _ => .ok none

theorem recordedOr_of_failure? {machine : Machine σ μ} {failure : Failure}
    (failed : machine.failure? = some failure) (value : α) :
    recordedOr ⟨machine, false⟩ value = .error (.failure failure) := by
  simp [recordedOr, failed]

theorem recordedOr_of_unfailed {machine : Machine σ μ} (unfailed : machine.failure? = none)
    (value : α) : recordedOr ⟨machine, false⟩ value = .ok value := by
  simp [recordedOr, unfailed]

/-- An answer comes back only where a run has not broken off and no failure is on record. -/
theorem quiet_of_recordedOr {ran : Machine.Ran σ μ} {value given : α}
    (came : recordedOr ran value = .ok given) :
    ran.brokeOff = false ∧ ran.machine.failure? = none := by
  rcases ran with ⟨last, _ | _⟩
  · cases failed : last.failure? with
    | some failure =>
        rw [recordedOr_of_failure? failed] at came
        cases came
    | none => exact ⟨rfl, rfl⟩
  · cases came

/-- Trouble that comes out of an act is on record after it, unless the act broke off. -/
theorem recorded_of_answer {ran : Machine.Ran σ μ} {act : Machine.Act} {trouble : Trouble}
    (came : answer ran act = .error trouble) :
    trouble = .ofDefeat .unwritable ∨
      ∃ failure, trouble = .failure failure ∧ ran.machine.failure? = some failure := by
  have fromRecord {value : Option Bool} (same : recordedOr ran value = .error trouble) :
      trouble = .ofDefeat .unwritable ∨
        ∃ failure, trouble = .failure failure ∧ ran.machine.failure? = some failure := by
    unfold recordedOr at same
    split at same
    · cases same
      exact Or.inl rfl
    · split at same
      · rename_i failure failed
        cases same
        exact Or.inr ⟨failure, rfl, failed⟩
      · cases same
  cases act with
  | stop | fail failure => cases came
  | step | run limit tried => exact fromRecord came

/-- What comes back and the machine after it, as an act comes to them. -/
def returned (answer : Except Trouble α) (next : Machine σ μ) :
    EStateM.Result Trouble (Machine σ μ) α :=
  match answer with
  | .ok value => .ok value next
  | .error trouble => .error trouble next

/-- An act after which there is an answer to give comes to it unless there is trouble. -/
theorem run_bind_of_settled {act : Act σ μ Unit} {rest : Unit → Act σ μ α} {value : α}
    {machine : Machine σ μ} {ran : Machine.Ran σ μ} (acted : act.run machine = settled ran)
    (answers : (rest ()).run ran.machine = .ok value ran.machine) :
    (act >>= rest).run machine = returned (recordedOr ran value) ran.machine := by
  rcases ran with ⟨last, _ | _⟩
  · cases failed : last.failure? with
    | some failure =>
        rw [settled_of_failure? failed] at acted
        rw [recordedOr_of_failure? failed]
        exact run_bind_of_error acted
    | none =>
        rw [settled_of_unfailed failed] at acted
        rw [recordedOr_of_unfailed failed]
        exact (run_bind_of_ok acted).trans answers
  · exact run_bind_of_error acted

variable [Console σ] [Memory μ]

/-- Runs a machine for at most a number of steps, and tells whether its activity has ended. A
failure that is on record comes out before anything is done. [SPEC VirtualMachine.run] -/
def run (program : Program) (count : Nat) : Act σ μ Bool := do
  match (← get).status with
  | .failed failure => throw (.failure failure)
  | _ =>
    loop program count
    return !(← get).isRunning

/-- Does what a machine is told to do. Only a run has an answer. -/
def obey (program : Program) : Machine.Act → Act σ μ (Option Bool)
  | .step => do
    step program
    return none
  | .run limit tried => do
    return some (← run program ((limit.map Int.toNat).getD tried))
  | .stop => do
    modify Machine.stop
    return none
  | .fail failure => do
    modify (·.fail failure)
    return none

/-- What comes back from a machine that is told to do something, and the machine after it. Nothing
comes back from a run without a limit that goes on after all the steps tried. -/
def reply (program : Program) (machine : Machine σ μ) (act : Machine.Act) :
    Option (Reply × Machine σ μ) :=
  match act, (obey program act).run machine with
  | .run none _, .ok (some false) _ => none
  | _, .ok answer next => some (.ok answer, next)
  | _, .error trouble next => some (.error trouble, next)

/-- What comes back from acts in a row, and the machine after them. Each of them is told to what the
one before has left, whether or not that one ended in trouble. -/
def replies (program : Program) :
    List Machine.Act → Machine σ μ → Option (List Reply × Machine σ μ)
  | [], machine => some ([], machine)
  | act :: rest, machine =>
    match reply program machine act with
    | none => none
    | some (first, next) =>
      match replies program rest next with
      | none => none
      | some (others, last) => some (first :: others, last)

/-- A run comes to the trouble of its steps, if there is any, or else tells whether the machine has
ended. -/
theorem run_run (machine : Machine σ μ) (program : Program) (count : Nat) :
    (run program count).run machine =
      returned (recordedOr (machine.loop program count)
          (!(machine.loop program count).machine.isRunning))
        (machine.loop program count).machine := by
  rw [run, run_bind_of_ok (EStateM.run_get _)]
  cases status : machine.status with
  | failed failure =>
      have failed : machine.failure? = some failure := Machine.failure?_eq_some_iff.mpr status
      have ended := Machine.isRunning_of_failure? failed
      rw [Machine.loop_of_ended ended, recordedOr_of_failure? failed]
      rfl
  | running | stopped =>
      have unfailed : machine.failure? = none := by simp [Machine.failure?, status]
      exact run_bind_of_settled (run_loop program count unfailed) rfl

/-- What comes back is told from what the machine has come to. -/
theorem reply_eq (program : Program) (machine : Machine σ μ) (act : Machine.Act) :
    reply program machine act =
      (machine.act program act).map fun ran => (answer ran act, ran.machine) := by
  cases act with
  | stop | fail failure => rfl
  | step =>
      let ran : Machine.Ran σ μ := ⟨machine.step program, machine.breaksOff program⟩
      have obeyed : (obey program .step).run machine = returned (recordedOr ran none) ran.machine :=
        run_bind_of_settled (run_step machine program) rfl
      simp only [reply, obeyed, Machine.act, Option.map_some, answer]
      change _ = some (recordedOr ran none, ran.machine)
      cases recordedOr ran (none : Option Bool) <;> rfl
  | run limit tried =>
      have ran := run_run machine program ((limit.map Int.toNat).getD tried)
      simp only [Machine.act, Machine.run_eq]
      generalize machine.loop program ((limit.map Int.toNat).getD tried) = last at ran ⊢
      rcases last with ⟨last, _ | _⟩
      · cases failed : last.failure? with
        | some failure =>
            rw [recordedOr_of_failure? failed] at ran
            have obeyed : (obey program (.run limit tried)).run machine = _ := run_bind_of_error ran
            have ended := Machine.isRunning_of_failure? failed
            simp [reply, obeyed, ended, Machine.Ran.goesOn, answer, recordedOr_of_failure? failed]
        | none =>
            rw [recordedOr_of_unfailed failed] at ran
            have obeyed : (obey program (.run limit tried)).run machine =
                .ok (some (!last.isRunning)) last := run_bind_of_ok ran
            cases limit <;> cases goesOn : last.isRunning <;>
              simp [reply, obeyed, goesOn, Machine.Ran.goesOn, answer,
                recordedOr_of_unfailed failed]
      · have obeyed : (obey program (.run limit tried)).run machine = _ := run_bind_of_error ran
        simp [reply, obeyed, Machine.Ran.goesOn, answer, recordedOr]

/-- Nothing comes back from acts in a row unless something comes back from each. -/
theorem replies_cons_eq_some {program : Program} {machine last : Machine σ μ} {act : Machine.Act}
    {rest : List Machine.Act} {given : List Reply}
    (told : replies program (act :: rest) machine = some (given, last)) :
    ∃ ran others, machine.act program act = some ran ∧
      replies program rest ran.machine = some (others, last) ∧ given = answer ran act :: others := by
  rw [replies, reply_eq] at told
  cases acted : machine.act program act with
  | none =>
      rw [acted] at told
      cases told
  | some ran =>
      rw [acted] at told
      dsimp only [Option.map_some] at told
      cases rests : replies program rest ran.machine with
      | none =>
          rw [rests] at told
          cases told
      | some pair =>
          rw [rests] at told
          cases told
          exact ⟨ran, pair.1, rfl, rests, rfl⟩

end BlankCode.Exposed
