/-
Module: BlankCode.Machine.Trace
Purpose: What an observer notes of a run: for every instruction that is about to be performed,
  where it is, what it is and what the stack holds. Observing has no part in the run itself.
Main exports: Machine.note?, Machine.trace
-/
import BlankCode.Machine

namespace BlankCode.Machine

variable {σ μ : Type}

/-- Integers in brackets. -/
def bracketed (values : List Int) : String :=
  "[" ++ String.intercalate ", " (values.map toString) ++ "]"

/-- The note of the step that a machine is about to make. There is none when the machine does not go
on, or has no instruction to perform. [SPEC VirtualMachine.step] -/
def note? (program : Program) (machine : Machine σ μ) : Option String :=
  if machine.isRunning then
    (program.fetch? machine.counter).map fun instruction =>
      toString machine.counter ++ ": " ++ instruction.text ++ " stack=" ++
        bracketed machine.stack.reverse
  else none

/-- The notes of at most a number of steps of a run, after those already taken, latest first. A step
that breaks off is noted before it does. -/
def traceFrom [Console σ] [Memory μ] (program : Program) (notes : List String) :
    Nat → Machine σ μ → List String
  | 0, _ => notes.reverse
  | count + 1, machine =>
    match machine.note? program with
    | some note =>
      if machine.breaksOff program then (note :: notes).reverse
      else traceFrom program (note :: notes) count (machine.step program)
    | none => notes.reverse

/-- The notes of at most a number of steps of a run. -/
def trace [Console σ] [Memory μ] (program : Program) (count : Nat) (machine : Machine σ μ) :
    List String :=
  traceFrom program [] count machine

end BlankCode.Machine
