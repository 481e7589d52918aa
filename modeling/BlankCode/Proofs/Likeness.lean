/-
Module: BlankCode.Proofs.Likeness
Purpose: Machines that differ in nothing but their consoles and their memories. They stay so as long
  as the consoles reply the same to what they are told, and the memories give the same values. A
  machine only ever asks a memory for addresses that are not negative, and tells it of no others.
Main exports: Memory.Matches, Console.SameReply, Machine.Alike, Machine.Outcome.Alike,
  Machine.ConsolesAgree, Machine.Alike.perform, Machine.Alike.attempt, Machine.Alike.step,
  Machine.Alike.iterate_step
-/
import BlankCode.Proofs.Performance

namespace BlankCode

variable {σ τ μ ν : Type}

/-- What two memories have in common that are told the same: they give the same values. Nothing is
asked of them at negative addresses. -/
structure Memory.Matches [Memory μ] [Memory ν] (common : μ → ν → Prop) : Prop where
  fetch : ∀ {heap : μ} {other : ν} {address : Int}, common heap other → 0 ≤ address →
    Memory.fetch heap address = Memory.fetch other address
  store : ∀ {heap : μ} {other : ν} {address : Int}, common heap other → 0 ≤ address →
    ∀ value, common (Memory.store heap address value) (Memory.store other address value)

/-- A memory has everything in common with itself. -/
theorem Memory.matches_eq [Memory μ] : Memory.Matches (Eq : μ → μ → Prop) where
  fetch := fun same _ => congrArg (Memory.fetch · _) same
  store := fun same _ value => congrArg (Memory.store · _ value) same

/-- Two consoles reply the same, and are a pair afterwards. -/
inductive Console.SameReply {α : Type} (paired : σ → τ → Prop) : α × σ → α × τ → Prop where
  | intro (reply : α) {after : σ} {otherAfter : τ} (pairs : paired after otherAfter) :
      SameReply paired (reply, after) (reply, otherAfter)

namespace Machine

/-- A machine with another console and another memory. -/
def equipped (machine : Machine σ μ) (console : τ) (heap : ν) : Machine τ ν :=
  { machine with console := console, heap := heap }

/-- Two machines that differ in their consoles, which are a pair, and in their memories, which have
something in common. -/
inductive Alike (paired : σ → τ → Prop) (common : μ → ν → Prop) :
    Machine σ μ → Machine τ ν → Prop where
  | intro {machine : Machine σ μ} {console : τ} {heap : ν} (pairs : paired machine.console console)
      (shares : common machine.heap heap) :
      Alike paired common machine (machine.equipped console heap)

/-- Two outcomes whose machines are alike. -/
inductive Outcome.Alike (paired : σ → τ → Prop) (common : μ → ν → Prop) :
    Outcome σ μ → Outcome τ ν → Prop where
  | done {machine : Machine σ μ} {other : Machine τ ν} (alike : machine.Alike paired common other) :
      Alike paired common (.done machine) (.done other)
  | faulted {machine : Machine σ μ} {other : Machine τ ν}
      (alike : machine.Alike paired common other) (error : ExecutionError) :
      Alike paired common (.faulted machine error) (.faulted other error)

section

variable {paired : σ → τ → Prop} {common : μ → ν → Prop}
variable {machine : Machine σ μ} {other : Machine τ ν}

theorem Alike.fail (alike : machine.Alike paired common other) (failure : Failure) :
    (machine.fail failure).Alike paired common (other.fail failure) := by
  rcases alike with ⟨pairs, shares⟩
  rcases machine with ⟨console, heap, counter, stack, calls, status⟩
  cases status with
  | running | stopped | failed => exact .intro pairs shares

theorem Alike.stop (alike : machine.Alike paired common other) :
    machine.stop.Alike paired common other.stop := by
  rcases alike with ⟨pairs, shares⟩
  rcases machine with ⟨console, heap, counter, stack, calls, status⟩
  cases status with
  | running | stopped | failed => exact .intro pairs shares

theorem Alike.raise (alike : machine.Alike paired common other) (program : Program)
    (error : ExecutionError) :
    (machine.raise program error).Alike paired common (other.raise program error) := by
  unfold Machine.raise
  split
  · exact alike.fail _
  · exact alike

theorem Outcome.Alike.settle {outcome : Outcome σ μ} {otherOutcome : Outcome τ ν}
    (alike : outcome.Alike paired common otherOutcome) (program : Program) :
    (outcome.settle program).Alike paired common (otherOutcome.settle program) := by
  cases alike with
  | done alike => exact alike
  | faulted alike error => exact alike.raise program error

/-! ### Instructions -/

theorem Alike.arithmetic (alike : machine.Alike paired common other) (operation : Operation) :
    (machine.arithmetic operation).Alike paired common (other.arithmetic operation) := by
  rcases alike with ⟨pairs, shares⟩
  rcases machine with ⟨console, heap, counter, stack, calls, status⟩
  rcases stack with _ | ⟨upper, _ | ⟨lower, rest⟩⟩
  · exact .faulted (.intro pairs shares) _
  · exact .faulted (.intro pairs shares) _
  · simp only [Machine.arithmetic, equipped]
    cases combine operation lower upper with
    | ok result => exact .done (.intro pairs shares)
    | error error => exact .faulted (.intro pairs shares) error

theorem Alike.copy (alike : machine.Alike paired common other) (count : Int) :
    (machine.copy count).Alike paired common (other.copy count) := by
  rcases alike with ⟨pairs, shares⟩
  simp only [Machine.copy, equipped]
  split
  · exact .faulted (.intro pairs shares) _
  · cases machine.stack[count.toNat]? with
    | some value => exact .done (.intro pairs shares)
    | none => exact .faulted (.intro pairs shares) _

theorem Alike.slide (alike : machine.Alike paired common other) (count : Int) :
    (machine.slide count).Alike paired common (other.slide count) := by
  rcases alike with ⟨pairs, shares⟩
  rcases machine with ⟨console, heap, counter, stack, calls, status⟩
  simp only [Machine.slide, equipped]
  split
  · exact .faulted (.intro pairs shares) _
  · cases stack with
    | nil => exact .faulted (.intro pairs shares) _
    | cons top rest =>
        dsimp only
        split
        · exact .faulted (.intro pairs shares) _
        · exact .done (.intro pairs shares)

theorem Alike.branch (alike : machine.Alike paired common other) (condition : Int → Bool)
    (target : Int) :
    (machine.branch condition target).Alike paired common (other.branch condition target) := by
  rcases alike with ⟨pairs, shares⟩
  rcases machine with ⟨console, heap, counter, stack, calls, status⟩
  cases stack with
  | nil => exact .faulted (.intro pairs shares) _
  | cons value rest => exact .done (.intro pairs shares)

variable [Memory μ] [Memory ν]

/-- The memories are told the same, and at an address that is not negative. -/
theorem Alike.finishStore (matching : Memory.Matches common)
    (alike : machine.Alike paired common other) (address value : Int) :
    (machine.finishStore address value).Alike paired common (other.finishStore address value) := by
  rw [finishStore_eq, finishStore_eq]
  by_cases negative : address < 0
  · rw [if_pos negative, if_pos negative]
    exact .faulted alike _
  · rw [if_neg negative, if_neg negative]
    rcases alike with ⟨pairs, shares⟩
    exact .done (.intro pairs (matching.store shares (Int.not_lt.mp negative) value))

/-- The memories give the same. -/
theorem Alike.retrieve (matching : Memory.Matches common)
    (alike : machine.Alike paired common other) :
    machine.retrieve.Alike paired common other.retrieve := by
  rcases alike with ⟨pairs, shares⟩
  rcases machine with ⟨console, heap, counter, stack, calls, status⟩
  cases stack with
  | nil => exact .faulted (.intro pairs shares) _
  | cons address rest =>
      simp only [Machine.retrieve, equipped]
      by_cases negative : address < 0
      · rw [if_pos negative, if_pos negative]
        exact .faulted (.intro pairs shares) _
      · rw [if_neg negative, if_neg negative, ← matching.fetch shares (Int.not_lt.mp negative)]
        exact .done (.intro pairs shares)

variable [Console σ] [Console τ]

/-- The consoles of two machines reply the same to what an instruction has for them. -/
structure ConsolesAgree (paired : σ → τ → Prop) (machine : Machine σ μ) (other : Machine τ ν)
    (instruction : Instruction) : Prop where
  write : ∀ output, instruction.operation = output.operation →
    machine.stack.head? = some output.value →
      Console.SameReply paired (Console.write machine.console output)
        (Console.write other.console output)
  read : ∀ query, instruction.operation = query.operation → machine.stack ≠ [] →
    Console.SameReply paired (Console.read machine.console query)
      (Console.read other.console query)

omit [Memory μ] [Memory ν] in
theorem Alike.write {output : Int → Console.Output}
    (agree : ∀ value, machine.stack.head? = some value →
      Console.SameReply paired (Console.write machine.console (output value))
        (Console.write other.console (output value)))
    (alike : machine.Alike paired common other) :
    (machine.write output).Alike paired common (other.write output) := by
  rcases alike with @⟨otherConsole, _, pairs, shares⟩
  rcases machine with ⟨console, heap, counter, stack, calls, status⟩
  cases stack with
  | nil => exact .faulted (.intro pairs shares) _
  | cons value rest =>
      have same := agree value rfl
      simp only [Machine.write, equipped] at same ⊢
      generalize Console.write console (output value) = first,
        Console.write otherConsole (output value) = second at same ⊢
      rcases same with ⟨reply, pairsAfter⟩
      cases reply with
      | error fault =>
          apply Outcome.Alike.faulted
          exact .intro pairsAfter shares
      | ok accepted =>
          apply Outcome.Alike.done
          exact .intro pairsAfter shares

theorem Alike.read (matching : Memory.Matches common) {query : Console.Query}
    (agree : machine.stack ≠ [] → Console.SameReply paired (Console.read machine.console query)
      (Console.read other.console query))
    (alike : machine.Alike paired common other) (adjust : Int → Int) :
    (machine.read query adjust).Alike paired common (other.read query adjust) := by
  rcases alike with @⟨otherConsole, _, pairs, shares⟩
  rcases machine with ⟨console, heap, counter, stack, calls, status⟩
  cases stack with
  | nil => exact .faulted (.intro pairs shares) _
  | cons address rest =>
      have same := agree (List.cons_ne_nil address rest)
      simp only [Machine.read, equipped] at same ⊢
      generalize Console.read console query = first, Console.read otherConsole query = second
        at same ⊢
      rcases same with ⟨reply, pairsAfter⟩
      cases reply with
      | error fault =>
          apply Outcome.Alike.faulted
          exact .intro pairsAfter shares
      | ok value =>
          apply Alike.finishStore matching
          exact .intro pairsAfter shares

/-- An instruction comes to the same. -/
theorem Alike.perform (matching : Memory.Matches common)
    (alike : machine.Alike paired common other) {instruction : Instruction}
    (agree : machine.ConsolesAgree paired other instruction) :
    (machine.perform instruction).Alike paired common (other.perform instruction) := by
  rcases instruction with ⟨operation, argument⟩
  unfold Machine.perform
  cases operation with
  | copy => exact alike.copy argument
  | slide => exact alike.slide argument
  | add | subtract | multiply | divide | modulo => exact alike.arithmetic _
  | retrieve => exact alike.retrieve matching
  | jumpIfZero | jumpIfNegative => exact alike.branch _ argument
  | exit => exact .done alike.stop
  | writeChar => exact alike.write fun value => agree.write (.char value) rfl
  | writeNumber => exact alike.write fun value => agree.write (.number value) rfl
  | readChar | readNumber => exact alike.read matching (agree.read _ rfl) _
  | invalid => exact .faulted alike _
  | push | call | jump =>
      rcases alike with ⟨pairs, shares⟩
      exact .done (.intro pairs shares)
  | duplicate | discard =>
      rcases alike with ⟨pairs, shares⟩
      rcases machine with ⟨console, heap, counter, stack, calls, status⟩
      cases stack with
      | nil => exact .faulted (.intro pairs shares) _
      | cons top rest => exact .done (.intro pairs shares)
  | swap =>
      rcases alike with ⟨pairs, shares⟩
      rcases machine with ⟨console, heap, counter, stack, calls, status⟩
      rcases stack with _ | ⟨first, _ | ⟨second, rest⟩⟩
      · exact .faulted (.intro pairs shares) _
      · exact .faulted (.intro pairs shares) _
      · exact .done (.intro pairs shares)
  | store =>
      rcases alike with ⟨pairs, shares⟩
      rcases machine with ⟨console, heap, counter, stack, calls, status⟩
      rcases stack with _ | ⟨value, _ | ⟨address, rest⟩⟩
      · exact .faulted (.intro pairs shares) _
      · exact .faulted (.intro pairs shares) _
      · apply Alike.finishStore matching
        exact .intro pairs shares
  | ret =>
      rcases alike with ⟨pairs, shares⟩
      rcases machine with ⟨console, heap, counter, stack, calls, status⟩
      cases calls with
      | nil => exact .faulted (.intro pairs shares) _
      | cons position rest => exact .done (.intro pairs shares)

/-! ### Steps -/

/-- An attempt comes to the same. -/
theorem Alike.attempt (matching : Memory.Matches common) {program : Program}
    (agree : ∀ instruction, program.fetch? machine.counter = some instruction →
      machine.ConsolesAgree paired other instruction)
    (alike : machine.Alike paired common other) :
    (machine.attempt program).Alike paired common (other.attempt program) := by
  rcases alike with @⟨console, memory, pairs, shares⟩
  have same : (machine.equipped console memory).current program = machine.current program := rfl
  rw [Machine.attempt, Machine.attempt, same, current]
  cases found : program.fetch? machine.counter with
  | none => exact .faulted (.intro pairs shares) _
  | some instruction =>
      obtain ⟨write, read⟩ := agree instruction found
      have moved : { machine with counter := machine.counter + 1 }.Alike paired common
          { machine.equipped console memory with counter := machine.counter + 1 } :=
        .intro pairs shares
      exact moved.perform matching ⟨write, read⟩

/-- So does a step. -/
theorem Alike.step (matching : Memory.Matches common) {program : Program}
    (agree : machine.status = .running → ∀ instruction,
      program.fetch? machine.counter = some instruction →
        machine.ConsolesAgree paired other instruction)
    (alike : machine.Alike paired common other) :
    (machine.step program).Alike paired common (other.step program) := by
  have status : other.status = machine.status := by
    cases alike
    rfl
  by_cases running : machine.status = .running
  · rw [step_of_running running, step_of_running (status.trans running)]
    exact (alike.attempt matching (agree running)).settle program
  · rw [step_of_ended running, step_of_ended (by rwa [status])]
    exact alike

/-- Machines that are alike stay so. -/
theorem Alike.iterate_step (matching : Memory.Matches common)
    (agree : ∀ {machine : Machine σ μ} {other : Machine τ ν}, machine.Alike paired common other →
      ∀ instruction, machine.ConsolesAgree paired other instruction)
    (program : Program) (steps : Nat) (alike : machine.Alike paired common other) :
    ((Machine.step program)^[steps] machine).Alike paired common
      ((Machine.step program)^[steps] other) := by
  induction steps with
  | zero => exact alike
  | succ steps ih =>
      rw [Function.iterate_succ_apply', Function.iterate_succ_apply']
      exact ih.step matching fun _ instruction _ => agree ih instruction

end

end Machine

end BlankCode
