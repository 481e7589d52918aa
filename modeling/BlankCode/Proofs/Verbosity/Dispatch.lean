/-
Module: BlankCode.Proofs.Verbosity.Dispatch
Purpose: The instructions that a run dispatches. Each is seen in the machine as it is before the
  step, and the trace of a run has one note in one line for each of them, and no others.
Main exports: Machine.Dispatch, Machine.dispatch?, Machine.dispatches, Machine.trace_of_legible,
  Machine.Dispatch.oneLine_text
-/
import BlankCode.Proofs.OneLine.Running
import BlankCode.Proofs.Telling

namespace BlankCode.Machine

variable {σ μ : Type} [Console σ] [Memory μ] {program : Program}

/-- An instruction that is about to be performed: where it stands, what it is, and what the stack
holds, from the bottom to the top. -/
structure Dispatch where
  counter : Int
  instruction : Instruction
  stack : List Int
deriving DecidableEq, Repr

/-- What is noted of an instruction. -/
def Dispatch.text (dispatch : Dispatch) : String :=
  toString dispatch.counter ++ ": " ++ dispatch.instruction.text ++ " stack=" ++
    bracketed dispatch.stack

/-- What a machine is about to perform. It does not perform anything when it has ended, or when its
counter is out of range. -/
def dispatch? (program : Program) (machine : Machine σ μ) : Option Dispatch :=
  match machine.status, program.fetch? machine.counter with
  | .running, some instruction => some ⟨machine.counter, instruction, machine.stack.reverse⟩
  | _, _ => none

/-- What is performed in a number of steps: at each of them what the machine is about to perform. -/
def dispatches (program : Program) (steps : Nat) (machine : Machine σ μ) : List Dispatch :=
  (List.range steps).filterMap fun step => ((Machine.step program)^[step] machine).dispatch? program

omit [Console σ] [Memory μ] in
theorem note?_eq (machine : Machine σ μ) :
    machine.note? program = (machine.dispatch? program).map Dispatch.text := by
  unfold note? dispatch? isRunning
  cases machine.status <;> cases program.fetch? machine.counter <;> rfl

/-- A machine that performs nothing has come to its end, or comes to it for want of an
instruction. -/
theorem dispatch?_step_of_none {machine : Machine σ μ}
    (nothing : machine.dispatch? program = none) :
    (machine.step program).dispatch? program = none := by
  by_cases running : machine.status = .running
  · cases found : program.fetch? machine.counter with
    | none =>
        rw [step_of_running running, attempt_of_fetch?_eq_none found, Outcome.settle]
        refine raise_cases (motive := fun next => next.dispatch? program = none) (fun _ => ?_)
          fun _ => nothing
        rw [fail_of_running running]
        rfl
    | some instruction =>
        rw [dispatch?, running, found] at nothing
        cases nothing
  · rw [step_of_ended running]
    exact nothing

/-- After that nothing is performed any more. -/
theorem dispatches_of_none {machine : Machine σ μ} (steps : Nat)
    (nothing : machine.dispatch? program = none) : dispatches program steps machine = [] := by
  rw [dispatches, List.filterMap_eq_nil_iff]
  intro step _
  exact Function.Iterate.rec (fun later : Machine σ μ => later.dispatch? program = none) nothing
    (fun _ => dispatch?_step_of_none) step

/-- What the first step performs comes before what the others perform. -/
theorem dispatches_succ (steps : Nat) (machine : Machine σ μ) :
    dispatches program (steps + 1) machine =
      (machine.dispatch? program).toList ++ dispatches program steps (machine.step program) := by
  unfold dispatches
  rw [List.range_succ_eq_map, List.filterMap_cons, List.filterMap_map, Function.iterate_zero, id_eq]
  cases machine.dispatch? program with
  | none => rfl
  | some dispatch => rfl

/-- The trace of a run that does not break off has one note for each instruction that the run
dispatches, and no others. -/
theorem traceFrom_eq (steps : Nat) :
    ∀ (notes : List String) {machine : Machine σ μ},
      (∀ earlier < steps, ((step program)^[earlier] machine).breaksOff program = false) →
        traceFrom program notes steps machine =
          notes.reverse ++ (dispatches program steps machine).map Dispatch.text := by
  induction steps with
  | zero =>
      intro notes machine _
      exact (List.append_nil _).symm
  | succ steps ih =>
      intro notes machine goesOn
      have first : machine.breaksOff program = false := goesOn 0 (Nat.succ_pos steps)
      have others : ∀ earlier < steps,
          ((step program)^[earlier] (machine.step program)).breaksOff program = false :=
        fun earlier inTime => goesOn (earlier + 1) (Nat.succ_lt_succ inTime)
      rw [traceFrom, note?_eq]
      cases dispatched : machine.dispatch? program with
      | none =>
          rw [dispatches_of_none (steps + 1) dispatched]
          exact (List.append_nil _).symm
      | some dispatch =>
          rw [dispatches_succ, dispatched]
          dsimp only [Option.map_some]
          rw [first, if_neg Bool.false_ne_true, ih _ others]
          simp

/-- The trace of a run of code without any integer that cannot be written has a note for each
instruction. -/
theorem trace_of_legible (legible : program.Legible) (steps : Nat) (terminal : Terminal) :
    (start terminal : Machine Terminal).trace program steps =
      (dispatches program steps (start terminal : Machine Terminal)).map Dispatch.text := by
  refine traceFrom_eq steps [] fun earlier _ => ?_
  rw [← runFor_eq_iterate]
  exact (legible_start program trivial).breaksOff_runFor (WordRange.tame_terminal digits) legible
    earlier

omit [Console σ] [Memory μ] in
theorem Dispatch.oneLine_text (dispatch : Dispatch) : OneLine dispatch.text := by
  have counted : OneLine (toString dispatch.counter ++ ": ") :=
    (oneLine_integer _).append (.literal (by decide))
  have named := counted.append dispatch.instruction.oneLine_text
  exact (named.append (.literal (by decide))).append (oneLine_bracketed dispatch.stack)

end BlankCode.Machine
