/-
Module: BlankCode.Proofs.Limits
Purpose: Limits on the number of steps. A run may be cut at any place and taken up again, unless the
  first part of it has broken off, and a limit is sharp: with fewer steps than it takes a source to
  come to its end all that comes of it is that the limit was too low, and with as many steps or more
  the limit makes no difference. That a limit was too low can only be said of one that can be
  written.
Main exports: Machine.EndsAt, Machine.runFor_runFor, Machine.runFor_of_le, Machine.loop_of_le,
  Machine.exists_endsAt, Limits.evaluate_of_load, Limits.run_limited
-/
import BlankCode.Evaluation
import BlankCode.Proofs.Exposure.Replies
import BlankCode.Proofs.Telling
import Mathlib.Data.Nat.Find
import Mathlib.Tactic.IntervalCases

namespace BlankCode

namespace Machine

variable {σ μ : Type} {machine : Machine σ μ}

/-- A machine that has not failed on account of a limit. No machine has, because limits are no
business of its own. -/
def Unlimited (machine : Machine σ μ) : Prop :=
  ∀ steps, machine.failure? ≠ some (.execution (.stepLimit steps))

theorem unlimited_of_running (running : machine.status = .running) :
    machine.Unlimited := by
  intro steps
  simp [failure?, running]

theorem unlimited_raise {program : Program} {error : ExecutionError}
    (running : machine.status = .running) (other : ∀ steps, error ≠ .stepLimit steps) :
    (machine.raise program error).Unlimited := by
  refine raise_cases (motive := Unlimited) (fun _ => ?_) fun _ => unlimited_of_running running
  have unfailed : machine.failure? = none := by simp [failure?, running]
  intro steps
  rw [failure?_fail, unfailed]
  rintro ⟨⟩
  exact other steps rfl

variable [Console σ] [Memory μ] {program : Program}

/-- The activity of a machine ends with a step: it goes on after every smaller number of steps. -/
structure EndsAt (program : Program) (machine : Machine σ μ) (count : Nat) : Prop where
  before : ∀ fewer, fewer < count → (machine.runFor program fewer).isRunning = true
  after : (machine.runFor program count).isRunning = false

/-- A run taken up again goes on where it was cut. -/
theorem runFor_runFor (program : Program) (machine : Machine σ μ) (first second : Nat) :
    (machine.runFor program first).runFor program second =
      machine.runFor program (first + second) := by
  simp only [runFor_eq_iterate]
  rw [Nat.add_comm, Function.iterate_add_apply]

/-- More steps make no difference to a machine that has ended. -/
theorem runFor_of_le {count more : Nat} (ended : (machine.runFor program count).isRunning = false)
    (enough : count ≤ more) : machine.runFor program more = machine.runFor program count := by
  obtain ⟨extra, rfl⟩ := Nat.exists_eq_add_of_le enough
  rw [← runFor_runFor, runFor_of_ended ended]

/-- There is one step that the activity of a machine ends with. -/
theorem EndsAt.unique {count other : Nat} (ends : EndsAt program machine count)
    (endsToo : EndsAt program machine other) : count = other := by
  have notEarlier {first second : Nat} (firstEnds : EndsAt program machine first)
      (secondEnds : EndsAt program machine second) : second ≤ first := by
    by_contra later
    have goesOn := secondEnds.before first (Nat.lt_of_not_le later)
    rw [firstEnds.after] at goesOn
    cases goesOn
  exact Nat.le_antisymm (notEarlier endsToo ends) (notEarlier ends endsToo)

/-- A run without a limit comes to its end when enough steps are tried. It may break off before. -/
theorem exists_run_unlimited {count tried : Nat}
    (ended : (machine.runFor program count).isRunning = false) (enough : count ≤ tried) :
    ∃ ran, machine.run program none tried = some ran ∧
      (ran.brokeOff = false → ran.machine = machine.runFor program count) := by
  have last : machine.runFor program tried = machine.runFor program count :=
    runFor_of_le ended enough
  refine ⟨machine.loop program tried, ?_, ?_⟩
  · have final : (machine.loop program tried).goesOn = false := by
      rcases loop_cases program tried machine with ⟨whole, _⟩ | ⟨_, _, _, cut⟩
      · simp [whole, Ran.goesOn, last, ended]
      · simp [cut, Ran.goesOn]
    rw [run_eq]
    simp [final]
  · intro kept
    rcases loop_cases program tried machine with ⟨whole, _⟩ | ⟨_, _, _, cut⟩
    · rw [whole, last]
    · rw [cut] at kept
      cases kept

/-- A machine that has ended after some number of steps has ended with one of them. -/
theorem exists_endsAt {most : Nat} (ended : (machine.runFor program most).isRunning = false) :
    ∃ count, count ≤ most ∧ EndsAt program machine count := by
  have ends : ∃ count, (machine.runFor program count).isRunning = false := ⟨most, ended⟩
  refine ⟨Nat.find ends, Nat.find_min' ends ended, ?_, Nat.find_spec ends⟩
  intro fewer below
  simpa using Nat.find_min ends below

theorem Unlimited.step (unlimited : machine.Unlimited) : (machine.step program).Unlimited := by
  apply step_cases
  · exact fun _ => unlimited
  · exact fun running _ => unlimited_raise running nofun
  · intro instruction outcome running _ performs
    cases performs with
    | refused reason => exact unlimited_raise running (by cases reason <;> exact nofun)
    | misplaced | readMisplaced => exact unlimited_raise running nofun
    | @unwritten _ _ _ fault | @unread _ _ _ fault =>
        exact unlimited_raise running (by cases fault <;> exact nofun)
    | exited =>
        intro steps
        simp [Outcome.settle, stop, running, failure?]
    | _ => exact unlimited_of_running running

theorem Unlimited.runFor (unlimited : machine.Unlimited) (program : Program) (count : Nat) :
    (machine.runFor program count).Unlimited := by
  rw [runFor_eq_iterate]
  exact Function.Iterate.rec Unlimited unlimited (fun _ => Unlimited.step) count

end Machine

/-- What a source comes to when its machine is left as it is. -/
def Machine.verdict (limit : Option Int) (last : Machine Streams) : Except Defeat Text :=
  match Ran.defeat? limit ⟨last, false⟩ with
  | some defeat => .error defeat
  | none => .ok last.console.output

namespace Limits

open Exposed Machine Numeral

/-! ### Machines -/

section

variable {σ μ : Type} [Console σ] [Memory μ] (program : Program) (machine : Machine σ μ)

variable {machine}

end

variable {source : Source} {program : Program} {input : Text}

theorem verdict_of_running {last : Machine Streams} (goesOn : last.isRunning = true)
    (limit : Int) :
    last.verdict (some limit) = .error (ExecutionError.stepLimit limit).defeat := by
  rw [verdict, Ran.defeat?, isRunning_eq_true_iff.mp goesOn]
  rfl

/-- That a limit was too low can be said if the limit can be written. -/
theorem defeat_stepLimit {limit : Int} (writable : isWritable limit = true) :
    (ExecutionError.stepLimit limit).defeat = .failure (.execution (.stepLimit limit)) := by
  rw [ExecutionError.defeat, ExecutionError.isTellable_of_quantity? rfl, writable]
  rfl

/-- A limit makes no difference to what a machine that has ended comes to. -/
theorem verdict_of_ended {last : Machine Streams} (ended : last.isRunning = false)
    (limit : Option Int) : last.verdict limit = last.verdict none := by
  have same : Ran.defeat? limit ⟨last, false⟩ = Ran.defeat? none ⟨last, false⟩ := by
    unfold Ran.defeat?
    cases status : last.status with
    | running => exact absurd status (isRunning_eq_false_iff.mp ended)
    | stopped | failed failure => rfl
  rw [verdict, verdict, same]

/-- What comes of a source that does not load has nothing to do with limits. -/
theorem evaluate_of_unloaded {defeat : Defeat} (unloaded : source.load = .error defeat)
    (limit : Option Int) (tried : Nat) :
    evaluate source input limit tried = some (.error defeat) := by
  rw [evaluate, unloaded]

/-- What comes of a source that loads is told from the machine after the steps allowed. -/
theorem evaluate_of_load (loaded : source.load = .ok program) (limit : Option Int) (tried : Nat) :
    evaluate source input limit tried =
      let first : Machine Streams := Machine.start (Streams.ofInput input)
      let last := first.runFor program ((limit.map Int.toNat).getD tried)
      if limit.isNone && last.isRunning then none else some (last.verdict limit) := by
  rw [evaluate, loaded]
  dsimp only
  rw [run_eq, loop_of_load loaded (WordRange.tame_streams digits) trivial]
  generalize Machine.runFor program ((limit.map Int.toNat).getD tried)
    (Machine.start (Streams.ofInput input) : Machine Streams) = last
  simp only [Ran.goesOn, Bool.not_false, Bool.and_true]
  by_cases goesOn : (limit.isNone && last.isRunning) = true
  · rw [if_pos goesOn, if_pos goesOn]
  · rw [if_neg goesOn, if_neg goesOn]
    simp only [verdict]
    cases Ran.defeat? limit ⟨last, false⟩ <;> rfl

/-- Fewer steps than it takes come to nothing but that the limit was too low. -/
theorem evaluate_of_running (loaded : source.load = .ok program) {limit : Int}
    (goesOn : ((Machine.start (Streams.ofInput input) : Machine Streams).runFor program
      limit.toNat).isRunning = true) (tried : Nat) :
    evaluate source input (some limit) tried =
      some (.error (ExecutionError.stepLimit limit).defeat) := by
  rw [evaluate_of_load loaded]
  simp only [Option.map_some, Option.getD_some, Option.isNone_some, Bool.false_and]
  rw [verdict_of_running goesOn]
  rfl

/-- As many steps as it takes, or more, come to what a source comes to without a limit. -/
theorem evaluate_of_ended (loaded : source.load = .ok program) {count : Nat}
    (ended : ((Machine.start (Streams.ofInput input) : Machine Streams).runFor program
      count).isRunning = false) {limit : Option Int} {tried : Nat}
    (enough : count ≤ (limit.map Int.toNat).getD tried) :
    evaluate source input limit tried =
      some (((Machine.start (Streams.ofInput input) : Machine Streams).runFor program
        count).verdict none) := by
  rw [evaluate_of_load loaded]
  dsimp only
  rw [runFor_of_le ended enough, ended, verdict_of_ended ended, Bool.and_false]
  rfl

/-- A limit that is negative and has too many digits is too low for every source, and cannot be
reported as that. -/
theorem evaluate_of_overlong (loaded : source.load = .ok program) (input : Text) (tried : Nat) :
    evaluate source input (some overlong) tried = some (.error .unwritable) := by
  have noStep : overlong.toNat = 0 := Int.toNat_of_nonpos (Int.le_of_lt overlong_neg)
  have untold : (ExecutionError.stepLimit overlong).defeat = .unwritable := by
    rw [ExecutionError.defeat, ExecutionError.isTellable_of_quantity? rfl, isWritable_overlong]
    rfl
  rw [evaluate_of_running loaded (by rw [noStep]; rfl), untold]

end Limits

end BlankCode
