/-
Module: BlankCode.Proofs.Telling
Purpose: Where errors can be told. The integer that an error reports is the counter, or was on the
  stack, or stands beside the instruction, so that a machine breaks off only where one of them has
  too many digits to be written. None comes to be where there was none before: results are words,
  and wherever an instruction leads to is written beside it or lies in the code. A source has
  nothing but words beside its instructions, and no run of it ever breaks off.
Main exports: Program.Locates, Machine.Tellable, Machine.breaksOff_of_tellable,
  Machine.breaksOff_of_untold, Machine.step_copy_of_unwritable, Program.Legible, Machine.Legible,
  Machine.Legible.step, Machine.loop_of_legible, Machine.loop_of_load
-/
import BlankCode.Proofs.Confinement
import BlankCode.Proofs.Decimal
import BlankCode.Proofs.WordRange

namespace BlankCode

open WordRange

/-- The measure of integers that can be written. Nothing is asked of addresses. -/
def digits : Measure where
  value := fun number => Numeral.isWritable number = true
  address := fun _ => True
  word := Numeral.isWritable_of_inRange
  place := fun _ _ => trivial

/-- A position that can be written, unless it is one in the code or right behind it. -/
def Program.Locates (program : Program) (position : Int) : Prop :=
  (0 ≤ position ∧ position ≤ program.size) ∨ Numeral.isWritable position = true

/-- Where an instruction is fetched the code goes on, or is over. -/
theorem Program.locates_succ {program : Program} {position : Int} {instruction : Instruction}
    (found : program.fetch? position = some instruction) : program.Locates (position + 1) := by
  obtain ⟨lower, upper, _⟩ := inside_of_fetch? found
  exact Or.inl (by omega)

/-- A position that a program locates is one at which it has an instruction or its end, or it can be
told that it has neither. -/
theorem Program.tells_of_locates {program : Program} {position : Int}
    (located : program.Locates position) (nothing : program.fetch? position = none) :
    program.tells (.counterOutOfRange position) = true := by
  rcases located with ⟨lower, upper⟩ | writable
  · have outside := outside_of_fetch? nothing
    have atEnd : position = program.size := by omega
    simp [tells, atEnd]
  · rw [tells, ExecutionError.isTellable_of_quantity? rfl, writable, Bool.true_or]

/-- Code with no integer that cannot be written: jumps lead to positions that the code locates. -/
structure Program.Legible (program : Program) : Prop where
  straight : ∀ instruction ∈ program.instructions, instruction.operation.isJump = false →
    Numeral.isWritable instruction.argument = true
  jumps : ∀ instruction ∈ program.instructions, instruction.operation.isJump = true →
    program.Locates instruction.argument

namespace Machine

/-! ### Steps that do not break off -/

section

variable {σ μ : Type} {program : Program} {machine : Machine σ μ}

/-- A machine whose next step meets no integer that cannot be written, neither as the counter nor on
the stack nor beside the instruction. The target of a jump is none that it meets. -/
structure Tellable (program : Program) (machine : Machine σ μ) : Prop where
  counter : program.Locates machine.counter
  stack : ∀ value ∈ machine.stack, Numeral.isWritable value = true
  argument : ∀ instruction, program.fetch? machine.counter = some instruction →
    instruction.operation.isJump = false → Numeral.isWritable instruction.argument = true

/-- Such a step does not break off: if it comes to an error it tells it. -/
theorem breaksOff_of_tellable [Console σ] [Memory μ] (tellable : machine.Tellable program) :
    machine.breaksOff program = false := by
  cases goesOn : machine.isRunning with
  | false => exact breaksOff_of_ended goesOn
  | true =>
      rw [breaksOff_of_running (isRunning_eq_true_iff.mp goesOn)]
      cases found : program.fetch? machine.counter with
      | none =>
          rw [attempt_of_fetch?_eq_none found, Outcome.breaksOff,
            Program.tells_of_locates tellable.counter found]
          rfl
      | some instruction =>
          rw [attempt_of_fetch? found]
          have performs :=
            performs_perform { machine with counter := machine.counter + 1 } instruction
          cases outcome : { machine with counter := machine.counter + 1 }.perform instruction with
          | done next => rfl
          | faulted left error =>
              rw [outcome] at performs
              have reports := reports_of_faulted _ performs
              have isTellable : error.isTellable = true := by
                rw [ExecutionError.isTellable, Option.all_eq_true]
                intro value quantity
                rcases reports value quantity with onStack | ⟨straight, rfl⟩
                · exact tellable.stack value onStack
                · exact tellable.argument instruction found straight
              rw [Outcome.breaksOff, tells_of_faulted _ program performs, isTellable]
              rfl

/-- Where the error cannot be told that an attempt comes to, the step breaks off, and nothing is
recorded of it. -/
theorem breaksOff_of_untold [Console σ] [Memory μ] {left : Machine σ μ} {error : ExecutionError}
    (running : machine.status = .running)
    (attempted : machine.attempt program = .faulted left error)
    (untold : program.tells error = false) :
    machine.breaksOff program = true ∧ machine.step program = left := by
  constructor
  · rw [breaksOff_of_running running, attempted, Outcome.breaksOff, untold]
    rfl
  · rw [step_of_running running, attempted, Outcome.settle, raise_of_untold untold]

/-- Where a count cannot be written that is negative, a copy breaks off. Nothing has been done by
then except that the counter is past it. -/
theorem step_copy_of_unwritable [Console σ] [Memory μ] {count : Int}
    (running : machine.status = .running)
    (found : program.fetch? machine.counter = some ⟨.copy, count⟩) (negative : count < 0)
    (long : Numeral.isWritable count = false) :
    machine.breaksOff program = true ∧
      machine.step program = { machine with counter := machine.counter + 1 } := by
  let left := { machine with counter := machine.counter + 1 }
  have attempted : machine.attempt program = .faulted left (.negativeCount "copy" count) := by
    rw [attempt_of_fetch? found]
    exact if_pos negative
  have untold : program.tells (.negativeCount "copy" count) = false := by
    rw [Program.tells_of_ne (by simp), ExecutionError.isTellable_of_quantity? rfl, long]
  exact breaksOff_of_untold running attempted untold

/-! ### Positions -/

/-- A machine whose positions are located, the counter and the return addresses. -/
structure Located (program : Program) (machine : Machine σ μ) : Prop where
  counter : program.Locates machine.counter
  calls : ∀ position ∈ machine.calls, program.Locates position

theorem located_start [EmptyCollection μ] (program : Program) (console : σ) :
    Located program (start console : Machine σ μ) where
  counter := Or.inl ⟨Int.le_refl 0, Int.natCast_nonneg _⟩
  calls := nofun

theorem Located.stop (located : machine.Located program) : machine.stop.Located program := by
  unfold Machine.stop
  split
  · exact { located with }
  · exact located

theorem Located.raise (located : machine.Located program) (error : ExecutionError) :
    (machine.raise program error).Located program := by
  refine raise_cases (motive := Located program) (fun _ => ?_) fun _ => located
  unfold Machine.fail
  split
  · exact located
  · exact { located with }

/-- A step leads on, or to where the instruction says, or back to where a call was. -/
theorem Located.step [Console σ] [Memory μ] (legible : program.Legible)
    (located : machine.Located program) : (machine.step program).Located program := by
  apply step_cases
  · intro _
    exact located
  · intro _ _
    exact located.raise _
  · intro instruction outcome _ found performs
    have member := (Program.inside_of_fetch? found).2.2
    have advanced : Located program { machine with counter := machine.counter + 1 } :=
      { located with counter := Program.locates_succ found }
    cases performs with
    | refused => exact advanced.raise _
    | misplaced | unwritten | readMisplaced | unread =>
        apply Located.raise
        exact { advanced with }
    | rearranged | stored | wrote | read => exact { advanced with }
    | called isCall =>
        have target := legible.jumps instruction member (by rw [isCall]; rfl)
        exact {
          counter := target
          calls := List.forall_mem_cons.mpr ⟨advanced.counter, located.calls⟩ }
    | went jumps => exact { advanced with counter := legible.jumps instruction member jumps }
    | @returned position rest top =>
        have among := located.calls
        rw [show machine.calls = position :: rest from top] at among
        obtain ⟨back, others⟩ := List.forall_mem_cons.mp among
        exact { counter := back, calls := others }
    | exited => exact advanced.stop

end

/-! ### Runs that do not break off -/

section

variable {σ : Type} {good : σ → Prop} {program : Program} {machine : Machine σ}

/-- A machine without any integer that cannot be written, addresses on the heap aside, that has a
good console. -/
structure Legible (program : Program) (good : σ → Prop) (machine : Machine σ) : Prop
    extends Guarded digits good machine, Located program machine

theorem legible_start (program : Program) {console : σ} (isGood : good console) :
    (start console : Machine σ).Legible program good where
  toGuarded := guarded_start isGood
  toLocated := located_start program console

theorem Legible.tellable (code : program.Legible) (legible : machine.Legible program good) :
    machine.Tellable program where
  counter := legible.counter
  stack := legible.stack
  argument := fun instruction found straight =>
    code.straight instruction (Program.inside_of_fetch? found).2.2 straight

variable [Console σ]

theorem Legible.step (tame : Tame digits good) (code : program.Legible)
    (legible : machine.Legible program good) : (machine.step program).Legible program good where
  toGuarded := by
    refine legible.toGuarded.step tame fun instruction member isPush => ?_
    exact code.straight instruction member (by rw [isPush]; rfl)
  toLocated := legible.toLocated.step code

/-- With such code none of its steps breaks off. -/
theorem Legible.breaksOff_runFor (tame : Tame digits good) (code : program.Legible)
    (legible : machine.Legible program good) (count : Nat) :
    (machine.runFor program count).breaksOff program = false := by
  have stillLegible : (machine.runFor program count).Legible program good := by
    rw [runFor_eq_iterate]
    exact Function.Iterate.rec (Legible program good) legible (fun _ => Legible.step tame code)
      count
  exact breaksOff_of_tellable (stillLegible.tellable code)

/-- A machine and code with no integer that cannot be written run without breaking off. -/
theorem loop_of_legible (tame : Tame digits good) (code : program.Legible)
    (legible : machine.Legible program good) (count : Nat) :
    machine.loop program count = ⟨machine.runFor program count, false⟩ :=
  loop_of_quiet fun earlier _ => legible.breaksOff_runFor tame code earlier

end

end Machine

/-- The code of a source has words beside its instructions, and jumps that do not leave it. -/
theorem Program.legible_of_load {source : Source} {program : Program}
    (loaded : source.load = .ok program) : program.Legible where
  straight := fun _ member straight =>
    Numeral.isWritable_of_inRange (inRange_of_straight loaded member straight)
  jumps := by
    intro instruction member jumps
    obtain ⟨commands, _, linked⟩ := Linking.exists_link_of_load loaded
    obtain ⟨lower, upper⟩ := (Confinement.enclosed_of_link linked).inside instruction member jumps
    exact Or.inl ⟨lower, Int.le_of_lt upper⟩

/-- So no run of a source breaks off, on streams or on any other console whose characters are
words. -/
theorem Machine.loop_of_load {source : Source} {program : Program}
    (loaded : source.load = .ok program) {σ : Type} [Console σ] {good : σ → Prop}
    (tame : Tame digits good) {console : σ} (isGood : good console) (count : Nat) :
    (start console : Machine σ).loop program count =
      ⟨(start console : Machine σ).runFor program count, false⟩ :=
  loop_of_legible tame (Program.legible_of_load loaded) (legible_start program isGood) count

end BlankCode
