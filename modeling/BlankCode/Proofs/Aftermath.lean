/-
Module: BlankCode.Proofs.Aftermath
Purpose: What a failing step leaves behind. The heap, the return addresses and the text written are
  as they were. An instruction that finds at once that it cannot be performed leaves everything as
  it was; one that fails later has used up the values it took off the stack, and what it read. All
  this is said of failures that can be told: a step that meets an integer with too many digits may
  come to one that cannot, which is not recorded.
Main exports: Aftermath.Spends, Aftermath.Leaves, Aftermath.Fails, Aftermath.fails_of_step,
  Aftermath.Fails.leaves, Aftermath.step_failing
-/
import BlankCode.Proofs.Exposure.Replies
import BlankCode.Proofs.Streaming
import BlankCode.Proofs.Telling

namespace BlankCode.Aftermath

open Exposed Machine

/-- What a failing instruction has used up of the stack and of the text to be read. -/
inductive Spends (instruction : Instruction) :
    ExecutionError → List Int → Text → List Int → Text → Prop where
  | nothing {error : ExecutionError} {stack : List Int} {unread : Text}
      (reason : Refuses instruction error) :
      Spends instruction error stack unread stack unread
  | operands {value address : Int} {rest : List Int} {unread : Text}
      (isStore : instruction.operation = .store) (negative : address < 0) :
      Spends instruction (.negativeAddress "store to" address) (value :: address :: rest) unread
        rest unread
  | value {output : Console.Output} {rest : List Int} {unread : Text} (fault : Console.Fault)
      (writes : instruction.operation = output.operation) :
      Spends instruction fault.error (output.value :: rest) unread rest unread
  | address {query : Console.Query} {error : ExecutionError} {address : Int} {rest : List Int}
      {taken after : Text} (reads : instruction.operation = query.operation)
      (takes : query.Takes taken after)
      (reason : (error = .negativeAddress "store to" address ∧ address < 0) ∨
        ∃ fault : Console.Fault, error = fault.error) :
      Spends instruction error (address :: rest) (taken ++ after) rest after

/-- What is no reason to refuse: storing to a negative address, a fault of the console, and a
counter outside of the code. -/
theorem ne_of_refuses {instruction : Instruction} {error : ExecutionError}
    (reason : Refuses instruction error) :
    (∀ address, error ≠ .negativeAddress "store to" address) ∧
      (∀ fault : Console.Fault, error ≠ fault.error) ∧
      ∀ index, error ≠ .counterOutOfRange index := by
  refine ⟨?_, ?_, ?_⟩
  · intro address same
    cases reason <;> simp at same
  · intro fault same
    cases reason <;> cases fault <;> cases same
  · intro index same
    cases reason <;> cases same

/-- An instruction that cannot be performed spends nothing. -/
theorem Spends.eq_of_refuses {instruction other : Instruction} {error : ExecutionError}
    {stack left : List Int} {unread after : Text}
    (spends : Spends instruction error stack unread left after) (reason : Refuses other error) :
    left = stack ∧ after = unread := by
  obtain ⟨noStore, noFault, _⟩ := ne_of_refuses reason
  cases spends with
  | nothing => exact ⟨rfl, rfl⟩
  | operands => exact absurd rfl (noStore _)
  | value fault => exact absurd rfl (noFault fault)
  | address _ _ why =>
      rcases why with ⟨rfl, _⟩ | ⟨fault, rfl⟩
      · exact absurd rfl (noStore _)
      · exact absurd rfl (noFault fault)

variable {μ : Type}

/-- What a machine leaves that fails, beside what it was. -/
structure Leaves (program : Program) (machine : Machine Streams μ) (error : ExecutionError)
    (next : Machine Streams μ) : Prop where
  status : next.status = .failed (.execution error)
  heap : next.heap = machine.heap
  calls : next.calls = machine.calls
  output : next.console.output = machine.console.output
  /-- Where there is no instruction nothing else changes. -/
  overrun : ∀ index, error = .counterOutOfRange index →
    index = machine.counter ∧ next = { machine with status := .failed (.execution error) }
  /-- Else the counter is past an instruction, which may have used something up. -/
  performed : (∀ index, error ≠ .counterOutOfRange index) →
    next.counter = machine.counter + 1 ∧
      ∃ instruction, program.fetch? machine.counter = some instruction ∧
        Spends instruction error machine.stack machine.console.unread
          next.stack next.console.unread

/-! ### How steps fail -/

section

variable {σ : Type} [Console σ] [Memory μ] {program : Program} {machine : Machine σ μ}

/-- How a step fails, and what it has done by then: there is no instruction, or there is one and
that fails. -/
inductive Fails (program : Program) (machine : Machine σ μ) : ExecutionError → Machine σ μ → Prop where
  | overrun (nothing : program.fetch? machine.counter = none) :
      Fails program machine (.counterOutOfRange machine.counter) machine
  | faulted {instruction : Instruction} {error : ExecutionError} {left : Machine σ μ}
      (found : program.fetch? machine.counter = some instruction)
      (performs : Performs { machine with counter := machine.counter + 1 } instruction
        (.faulted left error)) : Fails program machine error left

/-- What a step records is what it fails of. -/
theorem fails_of_step (running : machine.status = .running) {failure : Failure}
    (failed : (machine.step program).failure? = some failure) :
    ∃ error left, failure = .execution error ∧ Fails program machine error left ∧
      machine.step program = { left with status := .failed (.execution error) } := by
  have recorded (left : Machine σ μ) (error : ExecutionError) (goesOn : left.status = .running)
      (failed : (left.raise program error).failure? = some failure) :
      failure = .execution error ∧
        left.raise program error = { left with status := .failed (.execution error) } := by
    revert failed
    refine raise_cases (motive := fun next => next.failure? = some failure → failure = _ ∧ next = _)
      (fun _ => ?_) fun _ => ?_
    · rw [fail_of_running goesOn]
      rintro ⟨⟩
      exact ⟨rfl, rfl⟩
    · intro failed
      rw [failure?_eq_some_iff, goesOn] at failed
      cases failed
  revert failed
  refine step_cases (motive := fun last => last.failure? = some failure → ∃ error left,
    failure = .execution error ∧ Fails program machine error left ∧
      last = { left with status := .failed (.execution error) }) ?_ ?_ ?_
  · exact fun ended => absurd running ended
  · intro _ nothing failed
    obtain ⟨isError, same⟩ := recorded _ _ running failed
    exact ⟨_, machine, isError, .overrun nothing, same⟩
  · intro instruction outcome _ found performs failed
    cases outcome with
    | done next =>
        rw [Outcome.settle, failure?_of_done performs running] at failed
        cases failed
    | faulted left error =>
        obtain ⟨isError, same⟩ := recorded _ _ (status_of_faulted performs running) failed
        exact ⟨error, left, isError, .faulted found performs, same⟩

/-- The counter is what a step fails of exactly where there is no instruction. -/
theorem Fails.fetch?_eq_none_iff {error : ExecutionError} {left : Machine σ μ}
    (fails : Fails program machine error left) :
    program.fetch? machine.counter = none ↔ ∃ index, error = .counterOutOfRange index := by
  cases fails with
  | overrun nothing => exact ⟨fun _ => ⟨_, rfl⟩, fun _ => nothing⟩
  | faulted found performs =>
      constructor
      · intro nothing
        rw [nothing] at found
        cases found
      · rintro ⟨index, isOverrun⟩
        exact absurd isOverrun (ne_counterOutOfRange_of_faulted _ performs index)

end

variable [Memory μ] {program : Program} {machine left : Machine Streams μ}

/-- What a failing step leaves. -/
theorem Fails.leaves {error : ExecutionError} (fails : Fails program machine error left) :
    Leaves program machine error { left with status := .failed (.execution error) } := by
  cases fails with
  | overrun nothing =>
      exact {
        status := rfl
        heap := rfl
        calls := rfl
        output := rfl
        overrun := by
          rintro _ ⟨⟩
          exact ⟨rfl, rfl⟩
        performed := fun inside => absurd rfl (inside machine.counter) }
  | @faulted instruction _ _ found performs =>
      have leaves (written : left.console.written = machine.console.written)
          (heap : left.heap = machine.heap) (calls : left.calls = machine.calls)
          (counter : left.counter = machine.counter + 1)
          (spends : Spends instruction error machine.stack machine.console.unread left.stack
            left.console.unread) :
          Leaves program machine error { left with status := .failed (.execution error) } := {
        status := rfl
        heap := heap
        calls := calls
        output := congrArg List.reverse written
        overrun := fun index isOverrun =>
          absurd isOverrun (ne_counterOutOfRange_of_faulted _ performs index)
        performed := fun _ => ⟨counter, instruction, found, spends⟩ }
      cases performs with
      | refused reason => exact leaves rfl rfl rfl rfl (.nothing reason)
      | misplaced top negative isStore =>
          dsimp only at top
          refine leaves rfl rfl rfl rfl ?_
          rw [top]
          exact .operands isStore negative
      | @unwritten _ _ _ fault _ top hands reply writes =>
          dsimp only at top reply
          cases Streams.write_refused reply
          refine leaves rfl rfl rfl rfl ?_
          rw [top, ← hands]
          exact .value fault writes
      | readMisplaced top reply negative reads =>
          dsimp only at top reply
          obtain ⟨written, taken, whole, takes⟩ := Streams.read_takes reply
          refine leaves written rfl rfl rfl ?_
          rw [top, whole]
          exact .address reads takes (Or.inl ⟨rfl, negative⟩)
      | @unread _ _ _ fault _ top reply reads =>
          dsimp only at top reply
          obtain ⟨written, taken, whole, takes⟩ := Streams.read_takes reply
          refine leaves written rfl rfl rfl ?_
          rw [top, whole]
          exact .address reads takes (Or.inr ⟨fault, rfl⟩)

/-- Trouble that comes out of a step is what the step fails of, if that can be told. -/
theorem fails_of_reply (tellable : machine.Tellable program) (running : machine.status = .running)
    {trouble : Trouble} {next : Machine Streams μ}
    (came : reply program machine .step = some (.error trouble, next)) :
    ∃ error left, trouble = .failure (.execution error) ∧ Fails program machine error left ∧
      next = { left with status := .failed (.execution error) } := by
  rw [reply_eq, Machine.act, breaksOff_of_tellable tellable, Option.map_some, answer] at came
  obtain ⟨answered, rfl⟩ := Prod.mk.inj (Option.some.inj came)
  cases failed : (machine.step program).failure? with
  | none =>
      rw [recordedOr_of_unfailed failed] at answered
      cases answered
  | some failure =>
      rw [recordedOr_of_failure? failed] at answered
      cases answered
      obtain ⟨error, left, rfl, fails, stepped⟩ := fails_of_step running failed
      exact ⟨error, left, rfl, fails, stepped⟩

/-- A step of a running machine that meets no integer with too many digits fails of the counter
exactly if that is outside of the code. Whatever such a step fails of, it leaves the heap, the
return addresses and the text written as they were; one that finds no instruction changes nothing
else; any other moves the counter on, and uses up nothing but what `Spends` tells: the two operands
of a store, the value to be written, or the address to be read to and what was read. Nothing is used
up by an instruction that refuses to be performed. -/
theorem step_failing {program : Program} {machine : Machine Streams μ}
    (tellable : machine.Tellable program) (running : machine.status = .running) :
    ((∃ index next, reply program machine .step =
        some (.error (.failure (.execution (.counterOutOfRange index))), next)) ↔
      ¬ (0 ≤ machine.counter ∧ machine.counter < program.size)) ∧
    ∀ trouble next, reply program machine .step = some (.error trouble, next) →
      ∃ error, trouble = .failure (.execution error) ∧ Leaves program machine error next ∧
        ∀ instruction, Refuses instruction error →
          next.stack = machine.stack ∧ next.console.unread = machine.console.unread := by
  constructor
  · rw [← Program.fetch?_eq_none_iff]
    constructor
    · rintro ⟨index, next, came⟩
      obtain ⟨error, left, ⟨⟩, fails, _⟩ := fails_of_reply tellable running came
      exact fails.fetch?_eq_none_iff.mpr ⟨index, rfl⟩
    · intro nothing
      have told := Program.tells_of_locates tellable.counter nothing
      have failed : (machine.step program).failure? =
          some (.execution (.counterOutOfRange machine.counter)) := by
        rw [step_of_running running, attempt_of_fetch?_eq_none nothing, Outcome.settle,
          raise_of_tells told, fail_of_running running]
        rfl
      refine ⟨machine.counter, machine.step program, ?_⟩
      rw [reply_eq, Machine.act, breaksOff_of_tellable tellable, Option.map_some, answer,
        recordedOr_of_failure? failed]
  · intro trouble next came
    obtain ⟨error, left, rfl, fails, rfl⟩ := fails_of_reply tellable running came
    refine ⟨error, rfl, fails.leaves, ?_⟩
    intro instruction reason
    obtain ⟨_, _, inside⟩ := ne_of_refuses reason
    obtain ⟨_, _, _, spends⟩ := fails.leaves.performed inside
    exact spends.eq_of_refuses reason

/-- A machine that is about to read a number to the address -2. -/
def midway : Machine Streams :=
  { console := { unread := Text.ofString "7\n8\n", written := Text.ofString "o" }
    heap := Heap.store ∅ 3 9
    stack := [-2, 5]
    calls := [1] }

theorem tellable_midway : midway.Tellable (.ofInstructions [⟨.readNumber, 0⟩]) where
  counter := Or.inl ⟨Int.le_refl 0, Int.natCast_nonneg _⟩
  stack := by
    intro value member
    simp only [midway, List.mem_cons, List.not_mem_nil, or_false] at member
    rcases member with rfl | rfl <;> decide +kernel
  argument := by
    rintro _ ⟨⟩ _
    decide +kernel

/-- The number and the address are gone when the address is found to be negative. -/
theorem step_failing_midway :
    ∃ last, reply (.ofInstructions [⟨.readNumber, 0⟩]) midway .step =
        some (.error (.failure (.execution (.negativeAddress "store to" (-2)))), last) ∧
      last.stack = [5] ∧ last.console.unread = Text.ofString "8\n" ∧ last.counter = 1 ∧
      last.heap = midway.heap ∧ last.calls = [1] ∧ last.console.output = Text.ofString "o" := by
  obtain ⟨last, came, stack, unread⟩ :
      ∃ last, reply (.ofInstructions [⟨.readNumber, 0⟩]) midway .step =
          some (.error (.failure (.execution (.negativeAddress "store to" (-2)))), last) ∧
        last.stack = [5] ∧ last.console.unread = Text.ofString "8\n" :=
    ⟨_, rfl, rfl, rfl⟩
  have running : midway.status = .running := rfl
  obtain ⟨error, isError, leaves, _⟩ := (step_failing tellable_midway running).2 _ _ came
  cases isError
  obtain ⟨counter, _⟩ := leaves.performed nofun
  exact ⟨last, came, stack, unread, counter, leaves.heap, leaves.calls, leaves.output⟩

/-- A count with too many digits is not found to be invalid by a failure, nor a counter with too
many digits to be outside of the code. What comes out is recorded nowhere, and the machine goes
on. -/
theorem step_overlong :
    let first : Machine Streams := Machine.start (Streams.ofInput [])
    reply (.ofInstructions [⟨.copy, Numeral.overlong⟩]) first .step =
        some (.error (.ofDefeat .unwritable), { first with counter := 1 }) ∧
      reply (.ofInstructions []) { first with counter := Numeral.overlong } .step =
        some (.error (.ofDefeat .unwritable), { first with counter := Numeral.overlong }) ∧
      ¬ 0 ≤ Numeral.overlong := by
  intro first
  have below : ¬ 0 ≤ Numeral.overlong := Int.not_le.mpr Numeral.overlong_neg
  refine ⟨?_, ?_, below⟩
  · have found : (Program.ofInstructions [⟨.copy, Numeral.overlong⟩]).fetch? first.counter =
        some ⟨.copy, Numeral.overlong⟩ := rfl
    obtain ⟨broke, stepped⟩ := step_copy_of_unwritable rfl found Numeral.overlong_neg
      Numeral.isWritable_overlong
    rw [reply_eq, Machine.act, broke, stepped]
    rfl
  · let lost := { first with counter := Numeral.overlong }
    have nothing : (Program.ofInstructions []).fetch? lost.counter = none := if_neg below
    have untold : (Program.ofInstructions []).tells (.counterOutOfRange lost.counter) = false := by
      have inside : Numeral.overlong ≠ 0 := Int.ne_of_lt Numeral.overlong_neg
      rw [Program.tells, ExecutionError.isTellable_of_quantity? rfl, Numeral.isWritable_overlong]
      simpa [lost, Program.ofInstructions, Program.size] using inside
    obtain ⟨broke, stepped⟩ :=
      breaksOff_of_untold rfl (attempt_of_fetch?_eq_none nothing) untold
    rw [reply_eq, Machine.act, broke, stepped]
    rfl

end BlankCode.Aftermath
