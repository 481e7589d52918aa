/-
Module: BlankCode.Proofs.Finality
Purpose: The end of a machine's activity is final, and so is its first failure. A machine that has
  failed comes out with that failure whenever it is told to step or to run, and nothing of it
  changes any more; one that has stopped stays as it is until somebody has it fail. Every failure
  that ever comes out of a machine is the one that it has on record.
Main exports: Machine.act_of_failure?, Machine.act_ends, Finality.replies_of_failure?,
  Finality.recorded_of_replies, Finality.failure_final
-/
import BlankCode.Console.Script
import BlankCode.Proofs.Exposure.Replies

namespace BlankCode

namespace Machine

variable {σ μ : Type} [Console σ] [Memory μ] {program : Program} {machine : Machine σ μ}

/-- A run of a machine that has ended is over at once. -/
theorem run_of_ended (ended : machine.isRunning = false) (limit : Option Int) (tried : Nat) :
    machine.run program limit tried = some ⟨machine, false⟩ := by
  rw [run_eq, loop_of_ended ended]
  simp [Ran.goesOn, ended]

/-- Nor does a step of it do anything. -/
theorem act_step_of_ended (ended : machine.isRunning = false) :
    machine.act program .step = some ⟨machine, false⟩ := by
  rw [act, step_of_ended (isRunning_eq_false_iff.mp ended), breaksOff_of_ended ended]

/-- Nothing that a machine is told to do changes it once it has failed. -/
theorem act_of_failure? {failure : Failure} (failed : machine.failure? = some failure) (act : Act) :
    machine.act program act = some ⟨machine, false⟩ := by
  have status := failure?_eq_some_iff.mp failed
  have ended := isRunning_of_failure? failed
  cases act with
  | step => exact act_step_of_ended ended
  | run limit tried => exact run_of_ended ended limit tried
  | stop => simp [Machine.act, Machine.stop, status]
  | fail other => simp [Machine.act, Machine.fail, status]

/-- Nothing that a machine is told to do makes it go on once it has ended. -/
theorem act_ends {act : Act} {ran : Ran σ μ} (ended : machine.isRunning = false)
    (acted : machine.act program act = some ran) : ran.machine.isRunning = false := by
  cases act with
  | step =>
      rw [act_step_of_ended ended] at acted
      cases acted
      exact ended
  | run limit tried =>
      rw [Machine.act, run_of_ended ended] at acted
      cases acted
      exact ended
  | stop =>
      cases acted
      exact isRunning_stop
  | fail failure =>
      cases acted
      exact isRunning_fail failure

end Machine

namespace Finality

open Exposed Machine

variable {σ μ : Type} {program : Program} {machine last : Machine σ μ}

/-- What comes back from a machine that has failed. -/
def refusal (failure : Failure) : Machine.Act → Reply
  | .step | .run _ _ => .error (.failure failure)
  | .stop | .fail _ => .ok none

/-- What comes back from a machine that has stopped: a run has ended already. -/
def idleness : Machine.Act → Reply
  | .run _ _ => .ok (some true)
  | .step | .stop | .fail _ => .ok none

/-- An act that does not have the machine fail. -/
def Harmless (act : Machine.Act) : Prop :=
  ∀ failure, act ≠ .fail failure

theorem answer_of_failure? {failure : Failure} (failed : machine.failure? = some failure)
    (act : Machine.Act) : answer ⟨machine, false⟩ act = refusal failure act := by
  cases act with
  | step | run limit tried => exact recordedOr_of_failure? failed _
  | stop | fail other => rfl

variable [Console σ] [Memory μ]

/-- Once a machine has failed it stays as it is, and its failure comes out of every step and run. -/
theorem replies_of_failure? {failure : Failure} (failed : machine.failure? = some failure)
    (acts : List Machine.Act) :
    replies program acts machine = some (acts.map (refusal failure), machine) := by
  induction acts with
  | nil => rfl
  | cons act rest ih =>
      simp only [replies, reply_eq, act_of_failure? failed, Option.map_some,
        answer_of_failure? failed, ih, List.map_cons]

/-- A machine that has stopped stays as it is as long as it is not made to fail. -/
theorem replies_of_stopped (ended : machine.isRunning = false) (unfailed : machine.failure? = none)
    {acts : List Machine.Act} (harmless : ∀ act ∈ acts, Harmless act) :
    replies program acts machine = some (acts.map idleness, machine) := by
  have stopped := status_of_ended ended unfailed
  induction acts with
  | nil => rfl
  | cons act rest ih =>
      obtain ⟨first, others⟩ := List.forall_mem_cons.mp harmless
      have acted : machine.act program act = some ⟨machine, false⟩ := by
        cases act with
        | step => exact act_step_of_ended ended
        | run limit tried => exact run_of_ended ended limit tried
        | stop => simp [Machine.act, Machine.stop, stopped]
        | fail failure => exact absurd rfl (first failure)
      have answered : answer ⟨machine, false⟩ act = idleness act := by
        cases act with
        | run limit tried =>
            rw [answer, recordedOr_of_unfailed unfailed, ended]
            rfl
        | step => exact recordedOr_of_unfailed unfailed none
        | stop | fail failure => rfl
      simp only [replies, reply_eq, acted, Option.map_some, answered, ih others, List.map_cons]

/-- Nothing makes a machine go on that has ended. -/
theorem isRunning_of_replies {acts : List Machine.Act} :
    ∀ {machine : Machine σ μ} {given : List Reply}, machine.isRunning = false →
      replies program acts machine = some (given, last) → last.isRunning = false := by
  induction acts with
  | nil =>
      rintro machine given ended ⟨⟩
      exact ended
  | cons act rest ih =>
      intro machine given ended told
      obtain ⟨next, others, acted, rests, _⟩ := replies_cons_eq_some told
      exact ih (act_ends ended acted) rests

/-- All trouble that comes out of acts in a row is the one failure on record after them, or the word
that an error could not be told. -/
theorem recorded_of_replies {acts : List Machine.Act} {trouble : Trouble} :
    ∀ {machine : Machine σ μ} {given : List Reply}, replies program acts machine = some (given, last) →
      .error trouble ∈ given → trouble = .ofDefeat .unwritable ∨
        ∃ failure, trouble = .failure failure ∧ last.failure? = some failure := by
  induction acts with
  | nil =>
      rintro machine given ⟨⟩ came
      cases came
  | cons act rest ih =>
      intro machine given told came
      obtain ⟨next, others, acted, rests, rfl⟩ := replies_cons_eq_some told
      rcases List.mem_cons.mp came with first | later
      · rcases recorded_of_answer first.symm with untold | ⟨failure, rfl, failed⟩
        · exact Or.inl untold
        · -- the machine has failed here, and what follows leaves it as it is
          rw [replies_of_failure? failed] at rests
          cases rests
          exact Or.inr ⟨failure, rfl, failed⟩
      · exact ih rests later

/-- Whatever a machine has been told to do before, and whatever it is told afterwards: one that has
a failure on record does not go on, and every failure that has come out of it is that one, where the
only other trouble there may have been is an error that could not be told; if it has ended it does
not go on again; if it has failed it keeps that failure for good, nothing of it changes any more,
and the failure comes out of every step and run; if it has stopped without a failure, steps and runs
leave it as it is, and runs tell that it has ended. A failure is recorded unless there is an earlier
one. -/
theorem failure_final {first : Machine σ μ} {before : List Machine.Act} {given : List Reply}
    (told : replies program before first = some (given, machine)) :
    (∀ failure, machine.failure? = some failure → machine.isRunning = false) ∧
    (∀ trouble, .error trouble ∈ given → trouble = .ofDefeat .unwritable ∨
      ∃ failure, trouble = .failure failure ∧ machine.failure? = some failure) ∧
    (∀ failure, (machine.fail failure).failure? = some (machine.failure?.getD failure)) ∧
    (machine.isRunning = false → ∀ after others last,
      replies program after machine = some (others, last) → last.isRunning = false) ∧
    (∀ failure, machine.failure? = some failure → ∀ after,
      replies program after machine = some (after.map (refusal failure), machine)) ∧
    (machine.isRunning = false → machine.failure? = none → ∀ after : List Machine.Act,
      (∀ act ∈ after, Harmless act) →
        replies program after machine = some (after.map idleness, machine)) := by
  refine ⟨fun _ => isRunning_of_failure?, fun _ => recorded_of_replies told, failure?_fail, ?_, ?_, ?_⟩
  · intro ended after others last
    exact isRunning_of_replies ended
  · intro failure failed after
    exact replies_of_failure? failed after
  · intro ended unfailed after harmless
    exact replies_of_stopped ended unfailed harmless

/-- Pushes a number, writes it, and exits. -/
def announce : Program :=
  .ofInstructions [⟨.push, 9⟩, ⟨.writeNumber, 0⟩, ⟨.exit, 0⟩]

/-- A console that cannot write numbers. -/
def outOfOrder : Script :=
  { numberWrites := [.error (.raised "OSError" "device gone")] }

/-- A run ends in the failure of the console. Nothing that comes later replaces it or does anything
else, not even a run that may not make any steps. -/
theorem failure_final_outOfOrder :
    ∃ failure given, ∃ machine : Machine Script,
      replies announce [.step, .run none 2, .fail (.execution .emptyCallStack)]
        (Machine.start outOfOrder) = some (given, machine) ∧
      failure = .execution (.console "OSError: device gone" (some "OSError")) ∧
      given = [.ok none, .error (.failure failure), .ok none] ∧
      machine.failure? = some failure ∧ machine.isRunning = false ∧
      replies announce [.run (some 0) 0, .stop, .fail (.execution .stackUnderflow), .step] machine =
        some ([.error (.failure failure), .ok none, .ok none, .error (.failure failure)],
          machine) := by
  have told : replies announce [.step, .run none 2, .fail (.execution .emptyCallStack)]
      (Machine.start outOfOrder : Machine Script) = some _ := rfl
  obtain ⟨halted, _, _, _, frozen, _⟩ := failure_final told
  exact ⟨_, _, _, told, rfl, rfl, rfl, halted _ rfl, frozen _ rfl _⟩

end Finality

end BlankCode
