/-
Module: BlankCode.Proofs.Halting
Purpose: Code in which every jump leads forward comes to an end. The counter alone does not tell how
  far a machine has come, because a subroutine returns to where it was called from, and what stands
  behind calls may be gone through many times. But what the counter and the return addresses have
  before them, taken together, becomes less with every step, even with one that comes to an error
  which cannot be told.
Main exports: Program.Forward, Linking.Forward, Linking.forward_of_link, Machine.allowance,
  Machine.budget, Machine.budget_step, Machine.isRunning_of_budget_lt, Halting.forward_halts
-/
import BlankCode.Console.Streams
import BlankCode.Proofs.Confinement
import BlankCode.Proofs.Limits
import BlankCode.Proofs.Linker
import Mathlib.Algebra.BigOperators.Group.List.Basic

namespace BlankCode

/-- Code in which every jump leads to a place behind its own. -/
def Program.Forward (program : Program) : Prop :=
  ∀ position instruction, program.fetch? position = some instruction →
    instruction.operation.isJump = true → position < instruction.argument

/-! ### Linked code -/

namespace Linking

/-- Commands that refer to labels come before the marks of their labels. -/
def Forward (commands : List Command) : Prop :=
  ∀ index mark mnemonic label, mnemonic.refersToLabel = true →
    commands[index]? = some ⟨mnemonic, .label label⟩ → Marks commands mark label → index < mark

/-- A reference to a label that is still to come becomes a jump forward. The command itself is an
instruction that stands before the mark, so that the address of the mark is at least the next. -/
theorem forward_of_link {commands : List Command} {program : Program}
    (forward : Forward commands) (linked : link commands = .ok program) : program.Forward := by
  intro position instruction found jumps
  cases links_of_link linked with
  | linked _ _ _ compiled =>
      obtain ⟨position, rfl⟩ := Int.eq_ofNat_of_zero_le (Program.inside_of_fetch? found).1
      rw [Program.fetch?_natCast] at found
      obtain ⟨index, command, there, other, rfl, compiles⟩ := exists_compiles_at compiled found
      rw [compiles.operation_eq, Mnemonic.isJump_operation, Mnemonic.refersToLabel_iff] at jumps
      cases compiles with
      | number takes =>
          rw [takes] at jumps
          cases jumps.1
      | plain takes =>
          rw [takes] at jumps
          cases jumps.1
      | @reference mnemonic label mark refers marks =>
          have before : index + 1 ≤ mark := forward index mark mnemonic label refers there marks
          have next := address_mono commands before
          rw [address_succ there other] at next
          exact Int.ofNat_lt.mpr next

end Linking

namespace Machine

variable {σ μ : Type}

/-! ### What is left to do -/

/-- The most instructions that can be performed from a position on before the end of the code is
passed or a return is made to where no call was made from. A call at the position goes through what
stands behind it twice: in the subroutine, and after the return. -/
def allowance (size : Nat) (position : Int) : Nat :=
  2 ^ (size - position).toNat - 1

/-- Less is left to do from a position further on. -/
theorem allowance_anti (size : Nat) {position further : Int} (onward : position ≤ further) :
    allowance size further ≤ allowance size position := by
  have distance : ((size : Int) - further).toNat ≤ ((size : Int) - position).toNat := by omega
  exact Nat.sub_le_sub_right (Nat.pow_le_pow_right Nat.two_pos distance) 1

/-- What stands behind an instruction can be gone through twice, and there is one step to spare. -/
theorem two_mul_allowance_lt {size : Nat} {position : Int} (inside : position < size) :
    2 * allowance size (position + 1) < allowance size position := by
  have distance : ((size : Int) - position).toNat = ((size : Int) - (position + 1)).toNat + 1 := by
    omega
  have positive : 0 < 2 ^ ((size : Int) - (position + 1)).toNat := Nat.two_pow_pos _
  simp only [allowance]
  rw [distance, Nat.pow_succ]
  omega

/-- What is left to do at the counter of a machine and, after each return, at the return address. -/
def budget (program : Program) (machine : Machine σ μ) : Nat :=
  allowance program.size machine.counter + (machine.calls.map (allowance program.size)).sum

variable [Console σ] [Memory μ] {program : Program} {machine : Machine σ μ}

omit [Console σ] [Memory μ] in
/-- An error that is recorded or passed over leaves the budget as it is. -/
@[simp] theorem budget_raise (error : ExecutionError) :
    budget program (machine.raise program error) = budget program machine := by
  refine raise_cases (motive := fun next => budget program next = budget program machine)
    (fun _ => ?_) fun _ => rfl
  unfold Machine.fail
  split <;> rfl

/-- A step after which a machine goes on uses some of its budget up. A call gives two parts of it
to the subroutine and to what follows the return; a return drops what was left of the subroutine. At
the end of the code no machine goes on. -/
theorem budget_step (forward : program.Forward) (confined : Confinement.Confined program machine)
    (goesOn : (machine.step program).isRunning = true) :
    budget program (machine.step program) < budget program machine := by
  revert goesOn
  apply step_cases (motive := fun next : Machine σ μ =>
    next.isRunning = true → budget program next < budget program machine)
  · intro ended goesOn
    exact absurd (isRunning_eq_true_iff.mp goesOn) ended
  · intro _ nothing goesOn
    rw [raise_of_tells (confined.tells nothing)] at goesOn
    simp at goesOn
  · intro instruction outcome running found performs goesOn
    have inside := (Program.inside_of_fetch? found).2.1
    have spends := two_mul_allowance_lt inside
    cases performs with
    | exited => simp [Outcome.settle] at goesOn
    | refused | misplaced | unwritten | readMisplaced | unread =>
        rw [Outcome.settle, budget_raise]
        simp only [budget]
        omega
    | rearranged | stored | wrote | read =>
        simp only [Outcome.settle, budget]
        omega
    | called isCall =>
        have target : machine.counter + 1 ≤ instruction.argument :=
          forward _ _ found (by rw [isCall]; rfl)
        have entered := allowance_anti program.size target
        simp only [Outcome.settle, budget, List.map_cons, List.sum_cons]
        omega
    | went jumps =>
        have target : machine.counter + 1 ≤ instruction.argument := forward _ _ found jumps
        have entered := allowance_anti program.size target
        simp only [Outcome.settle, budget]
        omega
    | @returned position rest top =>
        dsimp only at top
        simp only [Outcome.settle, budget, top, List.map_cons, List.sum_cons]
        omega

/-- A machine comes to its end before it has made more steps than its budget allows. -/
theorem isRunning_of_budget_lt (forward : program.Forward) (enclosed : Confinement.Enclosed program)
    (count : Nat) :
    ∀ {machine : Machine σ μ}, Confinement.Confined program machine →
      budget program machine < count → (machine.runFor program count).isRunning = false := by
  induction count with
  | zero =>
      intro machine _ enough
      exact absurd enough (Nat.not_lt_zero _)
  | succ count ih =>
      intro machine confined enough
      rw [runFor_succ]
      cases goesOn : (machine.step program).isRunning with
      | false => rw [runFor_of_ended goesOn, goesOn]
      | true =>
          have less := budget_step forward confined goesOn
          exact ih (confined.step enclosed) (Nat.lt_of_lt_of_le less (Nat.lt_succ_iff.mp enough))

end Machine

namespace Halting

open Linking Machine

/-- Whatever the console does: when every command that refers to a label comes before the mark of
the label, a machine comes to its end, by an exit or by a failure, and takes at most two to the
power of the number of instructions for it. Calls can make it take so long, because what stands
behind a call is gone through again after the return. A run without a limit comes to that end, too,
unless it breaks off before with an error that cannot be told. -/
theorem forward_halts {commands : List Command} {program : Program}
    (linked : link commands = .ok program) (forward : Forward commands) {σ : Type} [Console σ]
    (console : σ) :
    ∃ (count : Nat) (last : Machine σ), count ≤ 2 ^ program.size ∧
      EndsAt program (Machine.start console : Machine σ) count ∧
      (Machine.start console).runFor program count = last ∧
      (last.status = .stopped ∨ ∃ failure, last.status = .failed failure) ∧
      ∀ tried, count ≤ tried → ∃ ran, (Machine.start console).run program none tried = some ran ∧
        (ran.brokeOff = false → ran.machine = last) := by
  have enough : budget program (Machine.start console : Machine σ) < 2 ^ program.size := by
    have positive : 0 < 2 ^ program.size := Nat.two_pow_pos _
    show 2 ^ ((program.size : Int) - 0).toNat - 1 + 0 < 2 ^ program.size
    rw [Int.sub_zero, Int.toNat_natCast]
    omega
  have halts := isRunning_of_budget_lt (forward_of_link forward linked)
    (Confinement.enclosed_of_link linked) _ (Confinement.confined_start program console) enough
  obtain ⟨count, bounded, ends⟩ := exists_endsAt halts
  refine ⟨count, _, bounded, ends, rfl, ?_, ?_⟩
  · cases status : ((Machine.start console : Machine σ).runFor program count).status with
    | running => exact absurd status (isRunning_eq_false_iff.mp ends.after)
    | stopped => exact Or.inl rfl
    | failed failure => exact Or.inr ⟨failure, rfl⟩
  · intro tried all
    exact exists_run_unlimited ends.after all

/-- Two calls, one behind the other, of what follows them. Each returns to what stands behind it,
which is called once more. -/
def nested : List Command :=
  [⟨.call, .label [0x20]⟩, ⟨.mark, .label [0x20]⟩, ⟨.call, .label [0x09]⟩, ⟨.mark, .label [0x09]⟩,
    ⟨.push, .integer 1⟩, ⟨.ret, .absent⟩]

/-- Its code. -/
def nestedCode : Program where
  code := #[⟨.call, 1⟩, ⟨.call, 2⟩, ⟨.push, 1⟩, ⟨.ret, 0⟩]
  labels := 2
  forward := 2

theorem forward_nested : Forward nested := by
  intro index mark mnemonic label refers there marks
  have within : index < 6 := (List.getElem?_eq_some_iff.mp there).1
  -- what refers to a label is one of the two calls, and the marks are the second and the fourth
  interval_cases index <;> cases there <;> try cases refers
  all_goals
    rcases mark with _ | _ | _ | _ | mark
    all_goals simp_all [nested, Marks]

/-- Four instructions take eleven steps: the second call is made twice, and what it calls is gone
through four times before there is nowhere to return to. -/
theorem forward_halts_nested :
    link nested = .ok nestedCode ∧ Forward nested ∧
      ∃ (count : Nat) (last : Machine Streams), count ≤ 2 ^ 4 ∧ count = 11 ∧
        EndsAt nestedCode (Machine.start (Streams.ofInput []) : Machine Streams) count ∧
        (Machine.start (Streams.ofInput [])).runFor nestedCode count = last ∧
        last.status = .failed (.execution .emptyCallStack) ∧ last.stack = [1, 1, 1, 1] ∧
        ∀ tried, count ≤ tried → ∃ ran,
          (Machine.start (Streams.ofInput [])).run nestedCode none tried = some ran ∧
            (ran.brokeOff = false → ran.machine = last) := by
  have linked : link nested = .ok nestedCode := rfl
  have eleventh : EndsAt nestedCode (Machine.start (Streams.ofInput []) : Machine Streams) 11 := {
    before := by
      intro fewer below
      interval_cases fewer <;> rfl
    after := rfl }
  obtain ⟨count, last, bounded, ends, rfl, _, halts⟩ :=
    forward_halts linked forward_nested (Streams.ofInput [])
  obtain rfl := ends.unique eleventh
  exact ⟨linked, forward_nested, 11, _, bounded, rfl, ends, rfl, rfl, rfl, halts⟩

end Halting

end BlankCode
