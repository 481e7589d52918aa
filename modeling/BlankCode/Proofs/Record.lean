/-
Module: BlankCode.Proofs.Record
Purpose: Machines whose consoles give the same replies go the same way. It is enough that they do so
  for what is handed over and asked on that way. A console can be put under observation, too: one
  that keeps a record of what it is handed changes nothing else about a run.
Main exports: Console.Mirrors, Machine.mapConsole, Machine.Mirrored, Machine.step_mapConsole,
  Machine.breaksOff_mapConsole, Machine.iterate_step_of_mirrored, Machine.iterate_step_mapConsole,
  Recorded, Recorded.mirrors_console
-/
import BlankCode.Proofs.Likeness

namespace BlankCode

variable {σ τ μ : Type}

/-- A console gives the same replies as its image does, and goes where the image goes. -/
structure Console.Mirrors [Console σ] [Console τ] (image : σ → τ) (console : σ) : Prop where
  write : ∀ output,
    Console.write (image console) output = Prod.map id image (Console.write console output)
  read : ∀ query,
    Console.read (image console) query = Prod.map id image (Console.read console query)

namespace Machine

/-- A machine with the image of its console. -/
def mapConsole (image : σ → τ) (machine : Machine σ μ) : Machine τ μ :=
  { machine with console := image machine.console }

/-- An outcome with the image of the machine's console. -/
def Outcome.mapConsole (image : σ → τ) : Outcome σ μ → Outcome τ μ
  | .done machine => .done (machine.mapConsole image)
  | .faulted machine error => .faulted (machine.mapConsole image) error

section

variable (image : σ → τ) (machine : Machine σ μ)

theorem fail_mapConsole (failure : Failure) :
    (machine.mapConsole image).fail failure = (machine.fail failure).mapConsole image := by
  rcases machine with ⟨console, heap, counter, stack, calls, status⟩
  cases status <;> rfl

theorem settle_mapConsole (program : Program) (outcome : Outcome σ μ) :
    (outcome.mapConsole image).settle program = (outcome.settle program).mapConsole image := by
  cases outcome with
  | done machine => rfl
  | faulted machine error =>
      simp only [Outcome.mapConsole, Outcome.settle, raise]
      split
      · exact fail_mapConsole image machine _
      · rfl

/-- Outcomes that are alike but for the image of the console are its image. -/
theorem Outcome.Alike.eq_mapConsole {image : σ → τ} {outcome : Outcome σ μ}
    {other : Outcome τ μ} (alike : outcome.Alike (image · = ·) Eq other) :
    other = outcome.mapConsole image := by
  cases alike with
  | done alike =>
      rcases alike with ⟨rfl, rfl⟩
      rfl
  | faulted alike error =>
      rcases alike with ⟨rfl, rfl⟩
      rfl

end

section

variable [Console σ] [Console τ] [Memory μ] {image : σ → τ} {machine : Machine σ μ}

/-- A machine's console and its image agree on what an instruction has for them. -/
structure Mirrored (image : σ → τ) (machine : Machine σ μ) (instruction : Instruction) : Prop where
  write : ∀ output, instruction.operation = output.operation →
    machine.stack.head? = some output.value →
      Console.write (image machine.console) output =
        Prod.map id image (Console.write machine.console output)
  read : ∀ query, instruction.operation = query.operation → machine.stack ≠ [] →
    Console.read (image machine.console) query =
      Prod.map id image (Console.read machine.console query)

omit [Memory μ] in
theorem Mirrored.consolesAgree {instruction : Instruction}
    (mirrored : machine.Mirrored image instruction) :
    machine.ConsolesAgree (image · = ·) (machine.mapConsole image) instruction where
  write := by
    intro output isOutput handed
    simp only [mapConsole, mirrored.write output isOutput handed]
    exact .intro _ rfl
  read := by
    intro query isQuery asked
    simp only [mapConsole, mirrored.read query isQuery asked]
    exact .intro _ rfl

/-- An attempt comes to the same with the image of the console in its place, if the two agree. -/
theorem attempt_mapConsole {program : Program}
    (mirrored : ∀ instruction, program.fetch? machine.counter = some instruction →
      machine.Mirrored image instruction) :
    (machine.mapConsole image).attempt program = (machine.attempt program).mapConsole image := by
  have alike : machine.Alike (image · = ·) Eq (machine.mapConsole image) := .intro rfl rfl
  have agree := fun instruction found => (mirrored instruction found).consolesAgree
  exact (alike.attempt Memory.matches_eq agree).eq_mapConsole

/-- So does a step, -/
theorem step_mapConsole {program : Program}
    (mirrored : machine.status = .running → ∀ instruction,
      program.fetch? machine.counter = some instruction → machine.Mirrored image instruction) :
    (machine.mapConsole image).step program = (machine.step program).mapConsole image := by
  by_cases running : machine.status = .running
  · rw [step_of_running running, step_of_running (by exact running),
      attempt_mapConsole (mirrored running), settle_mapConsole]
  · rw [step_of_ended running, step_of_ended (by exact running)]

/-- which breaks off if it would have. -/
theorem breaksOff_mapConsole {program : Program}
    (mirrored : machine.status = .running → ∀ instruction,
      program.fetch? machine.counter = some instruction → machine.Mirrored image instruction) :
    (machine.mapConsole image).breaksOff program = machine.breaksOff program := by
  cases goesOn : machine.isRunning with
  | false => rw [breaksOff_of_ended goesOn, breaksOff_of_ended (by exact goesOn)]
  | true =>
      have running := isRunning_eq_true_iff.mp goesOn
      rw [breaksOff_of_running running, breaksOff_of_running (by exact running),
        attempt_mapConsole (mirrored running)]
      cases machine.attempt program <;> rfl

/-- Steps in a row are the same, if the image agrees with its console on each of them. -/
theorem iterate_step_of_mirrored {program : Program} {steps : Nat} {machine : Machine σ μ}
    (mirrored : ∀ earlier < steps, ((step program)^[earlier] machine).status = .running →
      ∀ instruction, program.fetch? ((step program)^[earlier] machine).counter = some instruction →
        ((step program)^[earlier] machine).Mirrored image instruction) :
    (step program)^[steps] (machine.mapConsole image) =
      ((step program)^[steps] machine).mapConsole image := by
  induction steps with
  | zero => rfl
  | succ steps ih =>
      rw [Function.iterate_succ_apply', Function.iterate_succ_apply',
        ih fun earlier inTime => mirrored earlier (Nat.lt_succ_of_lt inTime)]
      exact step_mapConsole (mirrored steps (Nat.lt_succ_self steps))

omit [Memory μ] in
theorem mirrored_of_mirrors (mirrors : ∀ console, Console.Mirrors image console)
    (instruction : Instruction) : machine.Mirrored image instruction where
  write := fun output _ _ => (mirrors _).write output
  read := fun query _ _ => (mirrors _).read query

/-- So it is with any number of steps, if the image agrees with its console whatever happens. -/
theorem iterate_step_mapConsole (mirrors : ∀ console, Console.Mirrors image console)
    (program : Program) (steps : Nat) (machine : Machine σ μ) :
    (step program)^[steps] (machine.mapConsole image) =
      ((step program)^[steps] machine).mapConsole image :=
  iterate_step_of_mirrored fun _ _ _ instruction _ => mirrored_of_mirrors mirrors instruction

end

end Machine

/-- A console under observation: beside the console stands what it was handed, latest first. -/
structure Recorded (σ : Type) where
  console : σ
  handed : List Console.Output := []

namespace Recorded

variable [Console σ]

/-- Hands an output on, and records it whether or not it is accepted. -/
def write (recorded : Recorded σ) (output : Console.Output) :
    Except Console.Fault Unit × Recorded σ :=
  Prod.map id (⟨·, output :: recorded.handed⟩) (Console.write recorded.console output)

/-- Passes a query on. -/
def read (recorded : Recorded σ) (query : Console.Query) : Except Console.Fault Int × Recorded σ :=
  Prod.map id (⟨·, recorded.handed⟩) (Console.read recorded.console query)

instance : Console (Recorded σ) where
  write := write
  read := read

/-- The record makes no difference to the console. -/
theorem mirrors_console (recorded : Recorded σ) : Console.Mirrors Recorded.console recorded where
  write := fun _ => rfl
  read := fun _ => rfl

end Recorded

end BlankCode
