/-
Module: BlankCode.Proofs.Encoding
Purpose: Machines that write no texts but those that an encoding has. To them it makes no difference
  whether they talk to plain streams or to encoded ones: step by step one machine is the image of
  the other.
Main exports: Machine.console_step_of_writeChar, Machine.iterate_step_terminal
-/
import BlankCode.Console.Terminal
import BlankCode.Proofs.Record
import BlankCode.Proofs.Streaming

namespace BlankCode

namespace Machine

variable {μ : Type} [Memory μ] {program : Program} {machine : Machine Streams μ}

/-- A character that is handed over is written at once. -/
theorem console_step_of_writeChar {instruction : Instruction} {value : Int} {point : CodePoint}
    (running : machine.status = .running)
    (found : program.fetch? machine.counter = some instruction)
    (writes : instruction.operation = .writeChar) (top : machine.stack.head? = some value)
    (isPoint : CodePoint.ofInt? value = some point) :
    (machine.step program).console = machine.console.append [point] := by
  obtain ⟨rest, stack⟩ := List.head?_eq_some_iff.mp top
  rw [step_of_fetch? running found]
  simp only [perform, writes, write, stack, Console.write, Streams.write, isPoint, Outcome.settle]

/-- Streams and encoded streams agree on what an instruction has for them, unless the step writes
what no encoding has. -/
theorem mirrored_terminal {instruction : Instruction} (running : machine.status = .running)
    (found : program.fetch? machine.counter = some instruction)
    (encodable : (machine.step program).console.output.Encodable) :
    machine.Mirrored Terminal.mk instruction where
  read := fun _ _ _ => rfl
  write := by
    intro output isOutput top
    cases output with
    | number value => rfl
    | char value =>
        simp only [Console.write, Terminal.write]
        cases isPoint : CodePoint.ofInt? value with
        | none => rfl
        | some point =>
            have plain : ¬ point.IsSurrogate := by
              apply encodable
              rw [console_step_of_writeChar running found isOutput top isPoint]
              simp [Streams.output, Streams.append]
            dsimp only
            rw [if_neg plain]
            rfl

/-- To a machine that writes only what an encoding has, encoded streams are like plain ones. -/
theorem iterate_step_terminal (program : Program) (machine : Machine Streams μ) (steps : Nat)
    (encodable : ((step program)^[steps] machine).console.output.Encodable) :
    (step program)^[steps] (machine.mapConsole Terminal.mk) =
      ((step program)^[steps] machine).mapConsole Terminal.mk := by
  apply iterate_step_of_mirrored
  intro earlier inTime running instruction found
  apply mirrored_terminal running found
  -- nothing written is taken back, so what holds of it at the end held all along
  have stays := continues_of_le program machine (Nat.succ_le_of_lt inTime)
  rw [Function.iterate_succ_apply'] at stays
  exact fun point written => encodable point (stays.output.mem written)

end Machine

end BlankCode
