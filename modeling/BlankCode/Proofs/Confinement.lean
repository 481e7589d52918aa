/-
Module: BlankCode.Proofs.Confinement
Purpose: Control never leaves linked code. A label leads to an instruction, so that a jump stays
  inside; only falling or returning off the end reaches the place behind the last instruction, which
  is as far as the counter comes. Every return address stands right behind a call. This is kept by
  each step, hence by all that a machine is told to do.
Main exports: Confinement.Enclosed, Confinement.enclosed_of_link, Confinement.Confined,
  Confinement.Confined.step, Confinement.control_confined
-/
import BlankCode.Console.Streams
import BlankCode.Proofs.Linker
import BlankCode.Proofs.Performance

namespace BlankCode.Confinement

open Linking Machine

/-! ### Linked code -/

/-- Code without invalid operations whose jumps lead to instructions. -/
structure Enclosed (program : Program) : Prop where
  valid : ∀ instruction ∈ program.instructions, instruction.operation ≠ .invalid
  inside : ∀ instruction ∈ program.instructions, instruction.operation.isJump = true →
    0 ≤ instruction.argument ∧ instruction.argument < program.size

theorem operation_eq_invalid_iff {mnemonic : Mnemonic} :
    mnemonic.operation = .invalid ↔
      (mnemonic = .absent ∨ mnemonic = .count) ∨ mnemonic = .mark := by
  cases mnemonic <;> decide

/-- A mark that does not dangle leads to an instruction. -/
theorem address_lt {commands : List Command} (noneDangles : ∀ index, ¬ Dangles commands index)
    {index : Nat} {label : Label} (marks : Marks commands index label) :
    address commands index < (body commands).length := by
  rw [← Nat.not_le, ← marks.dangles_iff]
  exact noneDangles index

/-- A jump that a command becomes leads to an instruction. -/
theorem inside_of_compiles {commands : List Command} {command : Command}
    {instruction : Instruction} (noneDangles : ∀ index, ¬ Dangles commands index)
    (compiles : Compiles commands command instruction)
    (jumps : instruction.operation.isJump = true) :
    0 ≤ instruction.argument ∧ instruction.argument < (body commands).length := by
  rw [compiles.operation_eq, Mnemonic.isJump_operation, Mnemonic.refersToLabel_iff] at jumps
  cases compiles with
  | number takes =>
      rw [takes] at jumps
      cases jumps.1
  | @reference mnemonic label index refers marks =>
      have within := address_lt noneDangles marks
      exact ⟨Int.natCast_nonneg _, Int.ofNat_lt.mpr within⟩
  | plain takes =>
      rw [takes] at jumps
      cases jumps.1

/-- What is linked is enclosed. -/
theorem enclosed_of_link {commands : List Command} {program : Program}
    (linked : link commands = .ok program) : Enclosed program := by
  cases links_of_link linked with
  | linked sound noneDangles _ compiled =>
      have size : (program.size : Int) = (body commands).length := by
        rw [compiled.length_eq]
        rfl
      constructor
      · intro instruction member invalid
        obtain ⟨command, inBody, compiles⟩ := exists_compiles compiled member
        obtain ⟨inCommands, other⟩ := List.mem_filter.mp inBody
        rw [compiles.operation_eq, operation_eq_invalid_iff] at invalid
        rcases invalid with noCommand | isMark
        · obtain ⟨index, there⟩ := List.mem_iff_getElem?.mp inCommands
          exact sound index _ (.placeholder there noCommand)
        · simp [isMark] at other
      · intro instruction member jumps
        obtain ⟨_, _, compiles⟩ := exists_compiles compiled member
        rw [size]
        exact inside_of_compiles noneDangles compiles jumps

/-! ### The place of a machine -/

/-- The errors that a run of code can end with: none is about an invalid operation, and one about
the counter says that it is right behind the code. -/
structure Ordinary (program : Program) (error : ExecutionError) : Prop where
  valid : error ≠ .invalidOperation
  atEnd : ∀ index, error = .counterOutOfRange index → index = program.size

/-- A machine that is inside its code or right behind it, with return addresses that stand behind
calls. -/
structure Confined {σ μ : Type} (program : Program) (machine : Machine σ μ) : Prop where
  lower : 0 ≤ machine.counter
  upper : machine.counter ≤ program.size
  behind : ∀ position ∈ machine.calls, 1 ≤ position ∧ position ≤ program.size ∧
    ∃ target, program.fetch? (position - 1) = some ⟨.call, target⟩
  failure : ∀ failure, machine.failure? = some failure →
    ∃ error, failure = .execution error ∧ Ordinary program error

variable {σ μ : Type} {program : Program} {machine : Machine σ μ}

theorem confined_start [EmptyCollection μ] (program : Program) (console : σ) :
    Confined program (Machine.start console : Machine σ μ) where
  lower := Int.le_refl 0
  upper := Int.natCast_nonneg _
  behind := nofun
  failure := nofun

theorem Confined.raise (confined : Confined program machine) {error : ExecutionError}
    (ordinary : Ordinary program error) : Confined program (machine.raise program error) := by
  refine raise_cases (motive := Confined program) (fun _ => ?_) fun _ => confined
  unfold Machine.fail
  split
  · exact confined
  · refine { confined with failure := ?_ }
    rintro _ ⟨⟩
    exact ⟨error, rfl, ordinary⟩

theorem Confined.faulted (confined : Confined program machine) {error : ExecutionError}
    (ordinary : Ordinary program error) :
    Confined program ((Outcome.faulted machine error).settle program) :=
  confined.raise ordinary

theorem Confined.stop (confined : Confined program machine) : Confined program machine.stop := by
  unfold Machine.stop
  split
  · exact { confined with failure := nofun }
  · exact confined

/-- Where a confined machine has no instruction it is right behind the code, -/
theorem Confined.counter_eq (confined : Confined program machine)
    (nothing : program.fetch? machine.counter = none) : machine.counter = program.size := by
  have lower := confined.lower
  have upper := confined.upper
  have outside := Program.outside_of_fetch? nothing
  omega

/-- which can always be told. -/
theorem Confined.tells (confined : Confined program machine)
    (nothing : program.fetch? machine.counter = none) :
    program.tells (.counterOutOfRange machine.counter) = true := by
  simp [Program.tells, confined.counter_eq nothing]

/-- In enclosed code no instruction refuses for being invalid. -/
theorem ordinary_of_refuses {instruction : Instruction} {error : ExecutionError}
    (valid : instruction.operation ≠ .invalid) (reason : Refuses instruction error) :
    Ordinary program error := by
  cases reason with
  | invalid isInvalid => exact absurd isInvalid valid
  | _ => exact ⟨nofun, nofun⟩

/-- The faults of a console are neither about operations nor about the counter. -/
theorem ordinary_fault (fault : Console.Fault) : Ordinary program fault.error := by
  cases fault <;> exact ⟨nofun, nofun⟩

/-- A step leaves a machine confined. The counter is moved on before the instruction is performed,
so that a call leaves its successor, which may be the end, as the return address. -/
theorem Confined.step [Console σ] [Memory μ] (enclosed : Enclosed program)
    (confined : Confined program machine) : Confined program (machine.step program) := by
  apply step_cases
  · intro _
    exact confined
  · intro _ nothing
    apply confined.raise
    refine ⟨nofun, ?_⟩
    rintro _ ⟨⟩
    exact confined.counter_eq nothing
  · intro instruction outcome running found performs
    obtain ⟨lower, upper, member⟩ := Program.inside_of_fetch? found
    have valid := enclosed.valid instruction member
    have advanced : Confined program { machine with counter := machine.counter + 1 } :=
      { confined with lower := by dsimp only; omega, upper := by dsimp only; omega }
    cases performs with
    | refused reason => exact advanced.raise (ordinary_of_refuses valid reason)
    | rearranged | stored | wrote | read => exact { advanced with }
    | misplaced | readMisplaced =>
        apply Confined.faulted
        · exact { advanced with }
        · exact ⟨nofun, nofun⟩
    | unwritten | unread =>
        apply Confined.faulted
        · exact { advanced with }
        · exact ordinary_fault _
    | called isCall =>
        have jumps : instruction.operation.isJump = true := by
          rw [isCall]
          rfl
        obtain ⟨lowerTarget, upperTarget⟩ := enclosed.inside instruction member jumps
        have call : program.fetch? machine.counter = some ⟨.call, instruction.argument⟩ := by
          rw [found, ← isCall]
        refine { advanced with
          lower := lowerTarget
          upper := Int.le_of_lt upperTarget
          behind := ?_ }
        intro position isReturn
        rcases List.mem_cons.mp isReturn with rfl | below
        · refine ⟨by dsimp only; omega, advanced.upper, instruction.argument, ?_⟩
          dsimp only
          rw [Int.add_sub_cancel, call]
        · exact confined.behind position below
    | went jumps =>
        obtain ⟨lowerTarget, upperTarget⟩ := enclosed.inside instruction member jumps
        exact { advanced with lower := lowerTarget, upper := Int.le_of_lt upperTarget }
    | @returned position rest top =>
        dsimp only at top
        obtain ⟨positive, within, _⟩ := confined.behind position (by simp [top])
        show Confined program { machine with counter := position, calls := rest }
        refine { advanced with lower := by dsimp only; omega, upper := within, behind := ?_ }
        intro other below
        exact confined.behind other (by simp [top, below])
    | exited => exact advanced.stop

/-- Whatever the console does, and however a machine that runs linked code is told to make steps, to
run or to stop: its counter is inside the code or right behind it, each of its return addresses
stands right behind a call, and no step of it ever fails on account of an invalid operation, or of
the counter at any place but the end. -/
theorem control_confined {commands : List Command} {program : Program}
    (linked : link commands = .ok program) {σ : Type} [Console σ] (console : σ)
    {acts : List Machine.Act} (noFail : ∀ failure, .fail failure ∉ acts) {machine : Machine σ}
    (done : (Machine.start console).actAll program acts = some machine) :
    (0 ≤ machine.counter ∧ machine.counter ≤ program.size) ∧
    (∀ position ∈ machine.calls, 1 ≤ position ∧ position ≤ program.size ∧
      ∃ target, program.fetch? (position - 1) = some ⟨.call, target⟩) ∧
    (∀ index, (machine.step program).failure? = some (.execution (.counterOutOfRange index)) →
      index = program.size) ∧
    (machine.step program).failure? ≠ some (.execution .invalidOperation) := by
  have enclosed := enclosed_of_link linked
  have confined : Confined program machine :=
    actAll_keeps (fun _ => Confined.step enclosed) (fun _ => Confined.stop) acts noFail
      (confined_start program console) done
  have next := confined.step enclosed
  refine ⟨⟨confined.lower, confined.upper⟩, confined.behind, ?_, ?_⟩
  · intro index failed
    obtain ⟨_, ⟨⟩, ordinary⟩ := next.failure _ failed
    exact ordinary.atEnd index rfl
  · intro failed
    obtain ⟨_, ⟨⟩, ordinary⟩ := next.failure _ failed
    exact ordinary.valid rfl

/-- A call whose subroutine runs off the end of the code. -/
def openEnded : List Command :=
  [⟨.call, .label [0x09]⟩, ⟨.mark, .label [0x09]⟩, ⟨.push, .integer 1⟩]

/-- The return address stands behind the call, and the next step is right behind the code. -/
theorem control_confined_openEnded :
    ∃ program machine, link openEnded = .ok program ∧ program.size = 2 ∧
      (Machine.start (Streams.ofInput []) : Machine Streams).actAll program
          [.step, .run (some 1) 0] = some machine ∧
      machine.calls = [1] ∧ (∃ target, program.fetch? (1 - 1) = some ⟨.call, target⟩) ∧
      machine.counter = 2 ∧ machine.counter ≤ program.size ∧
      (machine.step program).failure? = some (.execution (.counterOutOfRange 2)) := by
  have linked : link openEnded = .ok _ := rfl
  have noFail : ∀ failure, Act.fail failure ∉ [.step, .run (some 1) 0] := by simp
  obtain ⟨⟨_, upper⟩, behind, _⟩ := control_confined linked (Streams.ofInput []) noFail rfl
  exact ⟨_, _, rfl, rfl, rfl, rfl, (behind 1 (by decide)).2.2, rfl, upper, rfl⟩

end BlankCode.Confinement
