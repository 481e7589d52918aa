/-
Module: BlankCode.Proofs.OneLine.Running
Purpose: Whatever is reported of a run is one line: what a console says went wrong, what an
  instruction fails of, and what is noted of an instruction before it is performed.
Main exports: Console.Terse, Terminal.terse, Machine.terse_perform, Machine.oneLine_step,
  Machine.oneLine_of_defeat?, Instruction.oneLine_text
-/
import BlankCode.Evaluation
import BlankCode.Machine.Trace
import BlankCode.Proofs.OneLine

namespace BlankCode

/-! ### Consoles -/

/-- A console whose faults are reported in one line each. -/
structure Console.Terse (σ : Type) [Console σ] : Prop where
  write : ∀ {console after : σ} {output : Output} {fault : Fault},
    Console.write console output = (.error fault, after) → OneLine fault.error.message
  read : ∀ {console after : σ} {query : Query} {fault : Fault},
    Console.read console query = (.error fault, after) → OneLine fault.error.message

theorem Console.Fault.oneLine_raised {kind text : String} (kinds : OneLine kind)
    (tells : OneLine text) : OneLine (raised kind text).error.message :=
  .append (.append kinds (.literal (by decide))) tells

namespace Streams

theorem oneLine_limitText {count : String} (counted : OneLine count) :
    OneLine (Numeral.limitText count) := by
  have limited : OneLine ("Exceeds the limit (" ++ toString Numeral.digitLimit) :=
    .append (.literal (by decide)) (oneLine_natural _)
  exact ((limited.append (.literal (by decide))).append counted).append (.literal (by decide))

theorem oneLine_noCharacter (value : Int) : OneLine (noCharacter value).error.message := by
  unfold noCharacter
  split
  · exact Console.Fault.oneLine_raised (.literal (by decide)) (.literal (by decide))
  · exact Console.Fault.oneLine_raised (.literal (by decide)) (.literal (by decide))

/-- A part of a quoted text is one line like the whole. -/
theorem oneLine_noNumber (line : Text) (defect : Numeral.Defect) :
    OneLine (noNumber line defect).error.message := by
  cases defect with
  | malformed =>
      apply Console.Fault.oneLine_raised (.literal (by decide))
      refine .append (.literal (by decide)) (oneLine_ofList.mpr ?_)
      intro among
      exact Quoted.oneLine_text line (List.mem_of_mem_take among)
  | tooLong digits =>
      apply Console.Fault.oneLine_raised (.literal (by decide))
      apply oneLine_limitText
      exact .append (.append (.literal (by decide)) (oneLine_natural _)) (.literal (by decide))

/-- Whatever goes wrong with streams is reported in one line. -/
theorem terse : Console.Terse Streams where
  write := by
    intro streams after output fault failed
    simp only [Console.write, Streams.write] at failed
    cases output with
    | char value =>
        dsimp only at failed
        split at failed
        · cases failed
        · cases failed
          exact oneLine_noCharacter _
    | number value =>
        dsimp only at failed
        split at failed
        · cases failed
        · cases failed
          exact Console.Fault.oneLine_raised (.literal (by decide))
            (oneLine_limitText (.literal (by decide)))
  read := by
    intro streams after query fault failed
    simp only [Console.read, Streams.read] at failed
    split at failed
    · split at failed
      · cases failed
        exact .literal (by decide)
      · cases failed
    · split at failed
      · cases failed
        exact .literal (by decide)
      · rw [Prod.mk.injEq] at failed
        obtain ⟨refused, _⟩ := failed
        split at refused
        · cases refused
        · cases refused
          exact oneLine_noNumber _ _

end Streams

theorem Utf8.oneLine_noBytes (place : Nat) (surrogates : Text) :
    OneLine (noBytes place surrogates) := by
  refine .append (.append (.literal (by decide)) ?_) (.literal (by decide))
  split
  · rename_i point
    have quoted : OneLine (" " ++ Quoted.text [point]) :=
      .append (.literal (by decide)) (Quoted.oneLine_text _)
    exact (quoted.append (.literal (by decide))).append (oneLine_natural _)
  · have opened : OneLine ("s in position " ++ toString place) :=
      .append (.literal (by decide)) (oneLine_natural _)
    exact (opened.append (.literal (by decide))).append (oneLine_natural _)

/-- Whatever goes wrong with encoded streams is reported in one line, too. -/
theorem Terminal.terse : Console.Terse Terminal where
  write := by
    intro terminal after output fault failed
    have plain (failed : ((terminal.streams.write output).1,
        (⟨(terminal.streams.write output).2⟩ : Terminal)) = (.error fault, after)) :
        OneLine fault.error.message := by
      have refused := congrArg Prod.fst failed
      have whole : Console.write terminal.streams output =
          (.error fault, (terminal.streams.write output).2) := Prod.ext refused rfl
      exact Streams.terse.write whole
    simp only [Console.write, Terminal.write] at failed
    split at failed
    · exact plain failed
    · split at failed
      · split at failed
        · cases failed
          exact Console.Fault.oneLine_raised (.literal (by decide)) (Utf8.oneLine_noBytes _ _)
        · exact plain failed
      · exact plain failed
  read := by
    intro terminal after query fault failed
    have refused := congrArg Prod.fst failed
    have whole : Console.read terminal.streams query =
        (.error fault, (terminal.streams.read query).2) := Prod.ext refused rfl
    exact Streams.terse.read whole

/-! ### Machines -/

namespace Machine

variable {σ μ : Type}

/-- An outcome whose error, if it has one, is reported in one line. -/
def Outcome.Terse : Outcome σ μ → Prop
  | .done _ => True
  | .faulted _ error => OneLine error.message

theorem oneLine_underflow : OneLine ExecutionError.stackUnderflow.message :=
  .literal (by decide)

theorem oneLine_negativeCount {action : String} (acts : OneLine action) (count : Int) :
    OneLine (ExecutionError.negativeCount action count).message :=
  .append (.append acts (.literal (by decide))) (oneLine_integer count)

theorem oneLine_of_combine {operation : Operation} {lower upper : Int} {error : ExecutionError}
    (failed : combine operation lower upper = .error error) : OneLine error.message := by
  unfold combine at failed
  split at failed
  · cases failed
  · cases failed
  · cases failed
  · split at failed
    · cases failed
    · cases failed
      exact .append (.literal (by decide)) (.literal (by decide))
  · split at failed
    · cases failed
    · cases failed
      exact .append (.literal (by decide)) (.literal (by decide))
  · cases failed
    exact .literal (by decide)

variable (machine : Machine σ μ)

theorem terse_arithmetic (operation : Operation) : (machine.arithmetic operation).Terse := by
  unfold arithmetic
  split
  · rename_i upper lower rest _
    cases combined : combine operation lower upper with
    | ok result => trivial
    | error error => exact oneLine_of_combine combined
  · exact oneLine_underflow

theorem terse_copy (count : Int) : (machine.copy count).Terse := by
  unfold copy
  split
  · exact oneLine_negativeCount (.literal (by decide)) count
  · split
    · trivial
    · exact oneLine_underflow

theorem terse_slide (count : Int) : (machine.slide count).Terse := by
  unfold slide
  split
  · exact oneLine_negativeCount (.literal (by decide)) count
  · split
    · split
      · exact oneLine_underflow
      · trivial
    · exact oneLine_underflow

theorem terse_branch (condition : Int → Bool) (target : Int) :
    (machine.branch condition target).Terse := by
  unfold branch
  split
  · trivial
  · exact oneLine_underflow

section

variable [Memory μ]

theorem terse_finishStore (address value : Int) : (machine.finishStore address value).Terse := by
  rw [finishStore_eq]
  split
  · exact .append (.append (.literal (by decide)) (.literal (by decide))) (oneLine_integer address)
  · trivial

theorem terse_retrieve : machine.retrieve.Terse := by
  unfold retrieve
  split
  · split
    · exact .append (.append (.literal (by decide)) (.literal (by decide))) (oneLine_integer _)
    · trivial
  · exact oneLine_underflow

end

section

variable [Console σ] (terse : Console.Terse σ)

include terse

theorem terse_write (output : Int → Console.Output) : (machine.write output).Terse := by
  unfold write
  split
  · split
    · trivial
    · rename_i failed
      exact terse.write failed
  · exact oneLine_underflow

variable [Memory μ]

theorem terse_read (query : Console.Query) (adjust : Int → Int) :
    (machine.read query adjust).Terse := by
  unfold Machine.read
  split
  · split
    · apply terse_finishStore
    · rename_i failed
      exact terse.read failed
  · exact oneLine_underflow

/-- What an instruction fails of is reported in one line. -/
theorem terse_perform (instruction : Instruction) : (machine.perform instruction).Terse := by
  rcases instruction with ⟨operation, argument⟩
  unfold perform
  cases operation with
  | invalid => exact .literal (by decide)
  | push | call | jump | exit => trivial
  | duplicate | swap | discard =>
      dsimp only
      split
      · trivial
      · exact oneLine_underflow
  | copy => exact machine.terse_copy argument
  | slide => exact machine.terse_slide argument
  | add | subtract | multiply | divide | modulo => apply terse_arithmetic
  | store =>
      dsimp only
      split
      · apply terse_finishStore
      · exact oneLine_underflow
  | retrieve => exact machine.terse_retrieve
  | jumpIfZero | jumpIfNegative => apply terse_branch
  | ret =>
      dsimp only
      split
      · trivial
      · exact .literal (by decide)
  | writeChar | writeNumber => exact machine.terse_write terse _
  | readChar | readNumber => exact machine.terse_read terse _ _

variable {machine}

/-- A machine whose failure, if it has one, is reported in one line keeps to that. -/
theorem oneLine_step (program : Program)
    (before : ∀ failure, machine.failure? = some failure → OneLine failure.message) :
    ∀ failure, (machine.step program).failure? = some failure → OneLine failure.message := by
  by_cases running : machine.status = .running
  · have recorded {left : Machine σ μ} {error : ExecutionError} (goesOn : left.status = .running)
        (tells : OneLine error.message) :
        ∀ failure, (left.raise program error).failure? = some failure →
          OneLine failure.message := by
      refine raise_cases (motive := fun next => ∀ failure, next.failure? = some failure →
        OneLine failure.message) (fun _ failure failed => ?_) fun _ failure failed => ?_
      · rw [fail_of_running goesOn] at failed
        cases failed
        exact tells
      · cases (failure?_eq_some_iff.mp failed).symm.trans goesOn
    cases found : program.fetch? machine.counter with
    | none =>
        rw [step_of_running running, attempt_of_fetch?_eq_none found]
        exact recorded running (.append (.literal (by decide)) (oneLine_integer _))
    | some instruction =>
        rw [step_of_fetch? running found]
        have performs := performs_perform { machine with counter := machine.counter + 1 } instruction
        have tells := terse_perform { machine with counter := machine.counter + 1 } terse instruction
        revert performs tells
        cases perform { machine with counter := machine.counter + 1 } instruction with
        | done next =>
            intro performs _ failure failed
            rw [Outcome.settle, Exposed.failure?_of_done performs running] at failed
            cases failed
        | faulted left error =>
            intro performs tells
            exact recorded (Exposed.status_of_faulted performs running) tells
  · rw [step_of_ended running]
    exact before

omit terse in
theorem oneLine_stepLimit (steps : Int) :
    OneLine (Failure.execution (.stepLimit steps)).message :=
  .append (.append (.literal (by decide)) (oneLine_integer steps)) (.literal (by decide))

/-- What a run from the start fails of is reported in one line. -/
theorem oneLine_of_defeat? [EmptyCollection μ] {program : Program} {limit : Option Int}
    {tried : Nat} {console : σ} {ran : Ran σ μ} {failure : Failure}
    (ends : (start console : Machine σ μ).run program limit tried = some ran)
    (defeated : ran.defeat? limit = some (.failure failure)) : OneLine failure.message := by
  have steps : ∀ machine : Machine σ μ,
      (∀ failure, machine.failure? = some failure → OneLine failure.message) →
      ∀ failure, (machine.step program).failure? = some failure → OneLine failure.message :=
    fun _ => oneLine_step terse program
  have unfailed : ∀ failure, (start console : Machine σ μ).failure? = some failure →
      OneLine failure.message := by
    intro failure failed
    cases failed
  have recorded := run_keeps steps unfailed ends
  unfold Ran.defeat? at defeated
  split at defeated
  · cases defeated
  · split at defeated
    · cases defeated
    · rename_i status
      cases defeated
      exact recorded failure (failure?_eq_some_iff.mpr status)
    · unfold ExecutionError.defeat at defeated
      split at defeated
      · cases defeated
        exact oneLine_stepLimit _
      · cases defeated

end

end Machine

/-! ### Notes -/

theorem Operation.oneLine_name (operation : Operation) : OneLine operation.name := by
  cases operation <;> exact .literal (by decide)

theorem Instruction.oneLine_text (instruction : Instruction) : OneLine instruction.text := by
  have name := instruction.operation.oneLine_name
  have opened : OneLine (instruction.operation.name ++ "(") := name.append (.literal (by decide))
  unfold text
  split
  · exact (opened.append (oneLine_integer _)).append (.literal (by decide))
  · exact name

theorem Machine.oneLine_bracketed (values : List Int) : OneLine (bracketed values) := by
  have inside : OneLine (", ".intercalate (values.map toString)) := by
    apply oneLine_intercalate (.literal (by decide))
    intro string among
    obtain ⟨value, _, rfl⟩ := List.mem_map.mp among
    exact oneLine_integer value
  exact .append (.append (.literal (by decide)) inside) (.literal (by decide))

end BlankCode
