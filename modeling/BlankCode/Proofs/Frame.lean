/-
Module: BlankCode.Proofs.Frame
Purpose: What lies deeper on the stacks of a machine than it reaches makes no difference to it.
  While no step fails, a machine that has more values beneath its stack and more positions beneath
  its return addresses makes the same steps, and leaves what is beneath as it is.
Main exports: Machine.deepen, Machine.Shallow, Machine.shallow_perform, Machine.act_step_deepen,
  Frame.steps_deepen
-/
import BlankCode.Console.Streams
import BlankCode.Proofs.Exposure.Replies

namespace BlankCode

namespace Machine

variable {σ μ : Type}

/-- A machine with more values beneath its stack and more positions beneath its return addresses. -/
def deepen (machine : Machine σ μ) (values positions : List Int) : Machine σ μ :=
  { machine with
    stack := machine.stack ++ values
    calls := machine.calls ++ positions }

/-- An act that reaches no deeper than it has to: where it is done, it is done in the same way with
more beneath the stacks. -/
def Shallow (act : Machine σ μ → Outcome σ μ) : Prop :=
  ∀ {machine next : Machine σ μ}, act machine = .done next → ∀ values positions,
    act (machine.deepen values positions) = .done (next.deepen values positions)

theorem stop_deepen (machine : Machine σ μ) (values positions : List Int) :
    (machine.deepen values positions).stop = machine.stop.deepen values positions := by
  rcases machine with ⟨console, heap, counter, stack, calls, status⟩
  cases status <;> rfl

/-! ### Instructions -/

theorem shallow_arithmetic (operation : Operation) :
    Shallow fun machine : Machine σ μ => machine.arithmetic operation := by
  intro machine next done values positions
  rcases machine with ⟨console, heap, counter, stack, calls, status⟩
  rcases stack with _ | ⟨upper, _ | ⟨lower, rest⟩⟩
  · cases done
  · cases done
  · simp only [arithmetic, deepen, List.cons_append] at done ⊢
    cases combined : combine operation lower upper with
    | ok result =>
        rw [combined] at done
        cases done
        rfl
    | error error =>
        rw [combined] at done
        cases done

/-- What lies some places below the top lies there with more beneath, too. -/
theorem shallow_copy (count : Int) :
    Shallow fun machine : Machine σ μ => machine.copy count := by
  intro machine next done values positions
  simp only [copy] at done ⊢
  split at done
  · cases done
  · rename_i counts
    cases found : machine.stack[count.toNat]? with
    | none =>
        rw [found] at done
        cases done
    | some value =>
        rw [found] at done
        cases done
        have within := (List.getElem?_eq_some_iff.mp found).1
        have foundToo : (machine.deepen values positions).stack[count.toNat]? = some value := by
          rw [deepen, List.getElem?_append_left within, found]
        rw [if_neg counts, foundToo]
        rfl

/-- Values that are taken out from under the top are not those beneath. -/
theorem shallow_slide (count : Int) :
    Shallow fun machine : Machine σ μ => machine.slide count := by
  intro machine next done values positions
  rcases machine with ⟨console, heap, counter, stack, calls, status⟩
  simp only [slide, deepen] at done ⊢
  split at done
  · cases done
  · rename_i counts
    rcases stack with _ | ⟨top, rest⟩
    · cases done
    · dsimp only at done
      split at done
      · cases done
      · rename_i enough
        cases done
        have deeper : ¬ (((rest ++ values).length : Nat) : Int) < count := by
          rw [List.length_append]
          omega
        have kept : (rest ++ values).drop count.toNat = rest.drop count.toNat ++ values :=
          List.drop_append_of_le_length (by omega)
        simp only [if_neg counts, List.cons_append, if_neg deeper, kept]

theorem shallow_branch (condition : Int → Bool) (target : Int) :
    Shallow fun machine : Machine σ μ => machine.branch condition target := by
  intro machine next done values positions
  rcases machine with ⟨console, heap, counter, stack, calls, status⟩
  cases stack with
  | nil => cases done
  | cons value rest =>
      cases done
      rfl

section

variable [Memory μ]

theorem shallow_finishStore (address value : Int) :
    Shallow fun machine : Machine σ μ => machine.finishStore address value := by
  intro machine next done values positions
  simp only [finishStore_eq] at done ⊢
  split at done
  · cases done
  · rename_i addressed
    cases done
    rw [if_neg addressed]
    rfl

theorem shallow_retrieve : Shallow fun machine : Machine σ μ => machine.retrieve := by
  intro machine next done values positions
  rcases machine with ⟨console, heap, counter, stack, calls, status⟩
  cases stack with
  | nil => cases done
  | cons address rest =>
      simp only [retrieve, deepen, List.cons_append] at done ⊢
      split at done
      · cases done
      · rename_i addressed
        cases done
        rw [if_neg addressed]
        rfl

variable [Console σ]

omit [Memory μ] in
theorem shallow_write (output : Int → Console.Output) :
    Shallow fun machine : Machine σ μ => machine.write output := by
  intro machine next done values positions
  rcases machine with ⟨console, heap, counter, stack, calls, status⟩
  cases stack with
  | nil => cases done
  | cons value rest =>
      simp only [write, deepen, List.cons_append] at done ⊢
      rcases reply : Console.write console (output value) with ⟨fault | accepted, after⟩
      · rw [reply] at done
        cases done
      · rw [reply] at done
        cases done
        rfl

theorem shallow_read (query : Console.Query) (adjust : Int → Int) :
    Shallow fun machine : Machine σ μ => machine.read query adjust := by
  intro machine next done values positions
  rcases machine with ⟨console, heap, counter, stack, calls, status⟩
  cases stack with
  | nil => cases done
  | cons address rest =>
      simp only [Machine.read, deepen, List.cons_append] at done ⊢
      rcases reply : Console.read console query with ⟨fault | value, after⟩
      · rw [reply] at done
        cases done
      · rw [reply] at done
        exact shallow_finishStore address (adjust value) done values positions

/-- Every instruction that is performed without an error reaches no deeper than it has to. -/
theorem shallow_perform (instruction : Instruction) :
    Shallow fun machine : Machine σ μ => machine.perform instruction := by
  rcases instruction with ⟨operation, argument⟩
  intro machine next done values positions
  simp only [perform] at done ⊢
  cases operation with
  | invalid => cases done
  | push | call | jump =>
      cases done
      rfl
  | copy => exact shallow_copy argument done values positions
  | slide => exact shallow_slide argument done values positions
  | add | subtract | multiply | divide | modulo =>
      exact shallow_arithmetic _ done values positions
  | retrieve => exact shallow_retrieve done values positions
  | jumpIfZero | jumpIfNegative => exact shallow_branch _ argument done values positions
  | writeChar | writeNumber => exact shallow_write _ done values positions
  | readChar | readNumber => exact shallow_read _ _ done values positions
  | exit =>
      cases done
      exact congrArg Outcome.done (stop_deepen machine values positions)
  | duplicate | discard =>
      rcases machine with ⟨console, heap, counter, stack, calls, status⟩
      cases stack with
      | nil => cases done
      | cons top rest =>
          cases done
          rfl
  | swap =>
      rcases machine with ⟨console, heap, counter, stack, calls, status⟩
      rcases stack with _ | ⟨first, _ | ⟨second, rest⟩⟩
      · cases done
      · cases done
      · cases done
        rfl
  | store =>
      rcases machine with ⟨console, heap, counter, stack, calls, status⟩
      rcases stack with _ | ⟨value, _ | ⟨address, rest⟩⟩
      · cases done
      · cases done
      · exact shallow_finishStore address value done values positions
  | ret =>
      rcases machine with ⟨console, heap, counter, stack, calls, status⟩
      cases calls with
      | nil => cases done
      | cons position rest =>
          cases done
          rfl

/-! ### Steps -/

variable {program : Program} {machine : Machine σ μ}

theorem shallow_attempt (program : Program) :
    Shallow fun machine : Machine σ μ => machine.attempt program := by
  intro machine next done values positions
  have same : (machine.deepen values positions).current program = machine.current program := rfl
  simp only [attempt, same] at done ⊢
  cases found : machine.current program with
  | error error =>
      rw [found] at done
      cases done
  | ok instruction =>
      rw [found] at done
      exact shallow_perform instruction done values positions

/-- A step from which no trouble comes is the same with more beneath the stacks. -/
theorem act_step_deepen (unfailed : (machine.step program).failure? = none)
    (whole : machine.breaksOff program = false) (values positions : List Int) :
    (machine.deepen values positions).act program .step =
      some ⟨(machine.step program).deepen values positions, false⟩ := by
  by_cases running : machine.status = .running
  · rw [breaksOff_of_running running] at whole
    rw [step_of_running running] at unfailed
    obtain ⟨next, done⟩ := Outcome.exists_done unfailed whole
    have deeper := shallow_attempt program done values positions
    dsimp only at deeper
    rw [act, step_of_running (by exact running), breaksOff_of_running (by exact running), deeper,
      step_of_running running, done]
    rfl
  · have ended := isRunning_eq_false_iff.mpr running
    rw [act, step_of_ended (by exact running), breaksOff_of_ended (by exact ended),
      step_of_ended running]

end

end Machine

namespace Frame

open Exposed Machine

variable {σ μ : Type} [Console σ] [Memory μ]

/-- Steps from which no trouble comes are the same with more beneath the stacks, and leave what is
beneath there. So does the rest of a program when it is called, whatever its caller has left deeper
on the stacks. -/
theorem steps_deepen (program : Program) (count : Nat) :
    ∀ {machine last : Machine σ μ} {given : List Reply},
      replies program (List.replicate count .step) machine = some (given, last) →
      (∀ trouble, .error trouble ∉ given) → ∀ values positions,
        replies program (List.replicate count .step) (machine.deepen values positions) =
          some (given, last.deepen values positions) := by
  induction count with
  | zero =>
      rintro machine last given ⟨⟩ _ values positions
      rfl
  | succ count ih =>
      intro machine last given came quiet values positions
      obtain ⟨next, others, acted, rests, rfl⟩ := replies_cons_eq_some came
      have restQuiet : ∀ trouble, .error trouble ∉ others := fun trouble inRest =>
        quiet trouble (List.mem_cons_of_mem _ inRest)
      cases acted
      rcases first : recordedOr ⟨machine.step program, machine.breaksOff program⟩
        (none : Option Bool) with trouble | value
      · exact absurd (first ▸ List.mem_cons_self) (quiet trouble)
      · obtain ⟨whole, unfailed⟩ := quiet_of_recordedOr first
        dsimp only at whole unfailed
        have deeper := act_step_deepen unfailed whole values positions
        have answered : answer ⟨(machine.step program).deepen values positions, false⟩ .step =
            answer ⟨machine.step program, machine.breaksOff program⟩ .step := by
          rw [whole]
          rfl
        rw [List.replicate_succ, replies, reply_eq, deeper]
        dsimp only [Option.map_some]
        rw [ih rests restQuiet values positions, answered]

/-- Calls a subroutine that squares the value on top of the stack. -/
def squaring : Program :=
  .ofInstructions [⟨.call, 2⟩, ⟨.exit, 0⟩, ⟨.duplicate, 0⟩, ⟨.multiply, 0⟩, ⟨.ret, 0⟩]

/-- A machine that has only that value on its stack. -/
def squared : Machine Streams :=
  { console := Streams.ofInput [], heap := ∅, stack := [7] }

/-- Values and return addresses of a caller are where they were after the call. -/
theorem steps_deepen_squaring :
    ∃ given last, replies squaring (List.replicate 4 .step) squared = some (given, last) ∧
      given = List.replicate 4 (.ok none) ∧ last.stack = [49] ∧ last.calls = [] ∧
      last.counter = 1 ∧
      replies squaring (List.replicate 4 .step) (squared.deepen [5, 6] [3]) =
        some (given, last.deepen [5, 6] [3]) ∧
      (last.deepen [5, 6] [3]).stack = [49, 5, 6] ∧ (last.deepen [5, 6] [3]).calls = [3] := by
  have came : replies squaring (List.replicate 4 .step) squared =
      some (List.replicate 4 (.ok none), _) := rfl
  have quiet : ∀ trouble, .error trouble ∉ (List.replicate 4 (.ok none) : List Reply) := by simp
  exact ⟨_, _, came, rfl, rfl, rfl, rfl, steps_deepen squaring 4 came quiet [5, 6] [3], rfl, rfl⟩

end Frame

end BlankCode
