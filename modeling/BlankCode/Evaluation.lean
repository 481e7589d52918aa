/-
Module: BlankCode.Evaluation
Purpose: A source run from beginning to end on an input text, with the output text as its value.
Main exports: Machine.Ran.defeat?, evaluate
-/
import BlankCode.Console.Streams
import BlankCode.Machine

namespace BlankCode

/-- What a run amounts to, if it does not amount to success. A machine that is still running has
used up its limit, unless the run broke off. [SPEC whitespace] -/
def Machine.Ran.defeat? {σ μ : Type} (limit : Option Int) (ran : Machine.Ran σ μ) : Option Defeat :=
  if ran.brokeOff then some .unwritable
  else
    match ran.machine.status with
    | .stopped => none
    | .failed failure => some (.failure failure)
    | .running => some (ExecutionError.stepLimit (limit.getD 0)).defeat

/-- The output of a source that exits within the limit, or what keeps it from that. Without a limit
there is no answer when the source goes on for all the steps tried. [SPEC whitespace] -/
def evaluate (source : Source) (input : Text) (limit : Option Int) (tried : Nat) :
    Option (Except Defeat Text) :=
  match source.load with
  | .error defeat => some (.error defeat)
  | .ok program =>
    let first : Machine Streams := Machine.start (Streams.ofInput input)
    match first.run program limit tried with
    | none => none
    | some ran =>
      match ran.defeat? limit with
      | some defeat => some (.error defeat)
      | none => some (.ok ran.machine.console.output)

end BlankCode
