/-
Module: BlankCode.Proofs.Unbounded
Purpose: Straight-line code without divisions once more, on integers without bounds. The machine
  wraps every sum, difference and product at once. It comes to the same as wrapping what is left on
  the stack in the end: integers that wrap to the same words still do so after every instruction of
  such code, and whether an instruction fails is not for the values on the stack to decide.
Main exports: Instruction.IsStraight, Unbounded.perform, Unbounded.run, Unbounded.perform_wrapped,
  Unbounded.FailsAt, Unbounded.run_reflects, Unbounded.straight_wraps_once
-/
import BlankCode.Console.Streams
import BlankCode.Proofs.Limits
import Mathlib.Data.Int.ModEq

namespace BlankCode

/-- An instruction that pushes a word, rearranges the stack, or puts a sum, a difference or a
product on it. A count beside it is any integer that can be written, as every word can. -/
def Instruction.IsStraight (instruction : Instruction) : Prop :=
  match instruction.operation with
  | .push => Word.InRange instruction.argument
  | .copy | .slide => Numeral.isWritable instruction.argument = true
  | .duplicate | .swap | .discard | .add | .subtract | .multiply => True
  | _ => False

namespace Unbounded

/-! ### Integers without bounds -/

/-- Puts what comes of the two topmost integers, the lower one first, in their place. -/
def combine (operation : Int → Int → Int) : List Int → Except ExecutionError (List Int)
  | upper :: lower :: rest => .ok (operation lower upper :: rest)
  | _ => .error .stackUnderflow

/-- Pushes a copy of the integer that lies `count` places below the top. -/
def copy (count : Int) (stack : List Int) : Except ExecutionError (List Int) :=
  if count < 0 then .error (.negativeCount "copy" count)
  else
    match stack[count.toNat]? with
    | some value => .ok (value :: stack)
    | none => .error .stackUnderflow

/-- Takes `count` integers out from under the top. -/
def slide (count : Int) (stack : List Int) : Except ExecutionError (List Int) :=
  if count < 0 then .error (.negativeCount "slide" count)
  else
    match stack with
    | top :: rest =>
      if (rest.length : Int) < count then .error .stackUnderflow
      else .ok (top :: rest.drop count.toNat)
    | [] => .error .stackUnderflow

/-- What an instruction of straight-line code makes of a stack, its top first. -/
def perform (instruction : Instruction) (stack : List Int) : Except ExecutionError (List Int) :=
  match instruction.operation with
  | .push => .ok (instruction.argument :: stack)
  | .duplicate =>
    match stack with
    | top :: rest => .ok (top :: top :: rest)
    | [] => .error .stackUnderflow
  | .copy => copy instruction.argument stack
  | .swap =>
    match stack with
    | first :: second :: rest => .ok (second :: first :: rest)
    | _ => .error .stackUnderflow
  | .discard =>
    match stack with
    | _ :: rest => .ok rest
    | [] => .error .stackUnderflow
  | .slide => slide instruction.argument stack
  | .add => combine (· + ·) stack
  | .subtract => combine (· - ·) stack
  | .multiply => combine (· * ·) stack
  | _ => .error .invalidOperation

/-- What code makes of a stack, or the index of the first instruction that fails, with its error. -/
def run : List Instruction → List Int → Except (Nat × ExecutionError) (List Int)
  | [], stack => .ok stack
  | instruction :: rest, stack =>
    match perform instruction stack with
    | .error error => .error (0, error)
    | .ok next =>
      match run rest next with
      | .error (index, error) => .error (index + 1, error)
      | .ok last => .ok last

/-! ### Single instructions -/

/-- What an instruction of such code fails of can be told. -/
theorem isTellable_of_perform {instruction : Instruction} (straight : instruction.IsStraight)
    {stack : List Int} {error : ExecutionError}
    (failed : perform instruction stack = .error error) :
    error.isTellable = true := by
  rcases instruction with ⟨operation, argument⟩
  cases operation with
  | push => cases failed
  | copy =>
      simp only [perform, copy] at failed
      split at failed
      · cases failed
        exact (ExecutionError.isTellable_of_quantity? rfl).trans straight
      · split at failed
        · cases failed
        · cases failed
          rfl
  | slide =>
      simp only [perform, slide] at failed
      split at failed
      · cases failed
        exact (ExecutionError.isTellable_of_quantity? rfl).trans straight
      · split at failed
        · split at failed
          · cases failed
            rfl
          · cases failed
        · cases failed
          rfl
  | add | subtract | multiply | duplicate | swap | discard =>
      simp only [perform, combine] at failed
      split at failed
      · cases failed
      · cases failed
        rfl
  | _ => exact straight.elim

section

variable {σ μ : Type}

/-- The outcome that leaves a machine with the words of what came of its stack, or with an error. -/
def outcome (machine : Machine σ μ) : Except ExecutionError (List Int) → Machine.Outcome σ μ
  | .ok next => .done { machine with stack := next.map Word.wrap }
  | .error error => .faulted machine error

variable {machine : Machine σ μ} {stack : List Int}

/-- An operation that respects congruence may be wrapped at once or later. -/
theorem arithmetic_wrapped (operation : Operation) {exact : Int → Int → Int}
    (words : machine.stack = stack.map Word.wrap)
    (combines : ∀ lower upper, Machine.combine operation lower upper = .ok (exact lower upper))
    (respects : ∀ {lower upper other another : Int}, lower ≡ other [ZMOD Word.modulus] →
      upper ≡ another [ZMOD Word.modulus] →
      exact lower upper ≡ exact other another [ZMOD Word.modulus]) :
    machine.arithmetic operation = outcome machine (combine exact stack) := by
  rw [Machine.arithmetic, words]
  rcases stack with _ | ⟨upper, _ | ⟨lower, rest⟩⟩
  · rfl
  · rfl
  · have later : Word.wrap (exact (Word.wrap lower) (Word.wrap upper)) =
        Word.wrap (exact lower upper) :=
      Word.wrap_eq_wrap_iff.mpr (respects (Word.wrap_emod lower) (Word.wrap_emod upper))
    simp only [List.map_cons, combines, combine, outcome, later]

theorem copy_wrapped (words : machine.stack = stack.map Word.wrap) (count : Int) :
    machine.copy count = outcome machine (copy count stack) := by
  rw [Machine.copy, copy]
  by_cases negative : count < 0
  · rw [if_pos negative, if_pos negative]
    rfl
  · rw [if_neg negative, if_neg negative, words, List.getElem?_map]
    cases stack[count.toNat]? with
    | none => rfl
    | some value => rfl

theorem slide_wrapped (words : machine.stack = stack.map Word.wrap) (count : Int) :
    machine.slide count = outcome machine (slide count stack) := by
  unfold Machine.slide slide
  by_cases negative : count < 0
  · rw [if_pos negative, if_pos negative]
    rfl
  · rw [if_neg negative, if_neg negative, words]
    cases stack with
    | nil => rfl
    | cons top rest =>
        simp only [List.map_cons, List.length_map]
        by_cases shallow : (rest.length : Int) < count
        · rw [if_pos shallow, if_pos shallow]
          rfl
        · rw [if_neg shallow, if_neg shallow, outcome, List.map_cons, List.map_drop]

/-- On the words of a stack the machine comes to the words of what comes of the stack itself, or to
the same error. -/
theorem perform_wrapped [Console σ] [Memory μ] {instruction : Instruction}
    (straight : instruction.IsStraight) (words : machine.stack = stack.map Word.wrap) :
    machine.perform instruction = outcome machine (perform instruction stack) := by
  rcases instruction with ⟨operation, argument⟩
  cases operation with
  | push =>
      have unwrapped : Word.wrap argument = argument := Word.wrap_of_inRange straight
      simp only [Machine.perform, perform, outcome, List.map_cons, words, unwrapped]
  | copy => exact copy_wrapped words argument
  | slide => exact slide_wrapped words argument
  | add => exact arithmetic_wrapped .add words (fun _ _ => rfl) Int.ModEq.add
  | subtract => exact arithmetic_wrapped .subtract words (fun _ _ => rfl) Int.ModEq.sub
  | multiply => exact arithmetic_wrapped .multiply words (fun _ _ => rfl) Int.ModEq.mul
  | duplicate | discard =>
      simp only [Machine.perform, perform, words]
      cases stack with
      | nil => rfl
      | cons top rest => rfl
  | swap =>
      simp only [Machine.perform, perform, words]
      rcases stack with _ | ⟨first, _ | ⟨second, rest⟩⟩
      · rfl
      · rfl
      · rfl
  | _ => exact straight.elim

/-! ### Runs -/

/-- Code that stands at the counter of a machine. -/
def Ahead (program : Program) (machine : Machine σ μ) (code : List Instruction) : Prop :=
  ∀ offset instruction, code[offset]? = some instruction →
    program.fetch? (machine.counter + (offset : Nat)) = some instruction

/-- The beginning of a program stands at the counter before the first step. -/
theorem ahead_of_isPrefix {program : Program} {code : List Instruction}
    (first : machine.counter = 0) (begins : code <+: program.instructions) :
    Ahead program machine code := by
  intro offset instruction there
  obtain ⟨rest, whole⟩ := begins
  have within : offset < code.length := (List.getElem?_eq_some_iff.mp there).1
  rw [first, Int.zero_add, Program.fetch?_natCast, ← whole, List.getElem?_append_left within, there]

variable [Console σ] [Memory μ] {program : Program}

/-- A machine goes on up to the instruction at an index, and that one fails. -/
structure FailsAt (program : Program) (machine : Machine σ μ) (index : Nat)
    (error : ExecutionError) : Prop where
  before : (machine.runFor program index).status = .running
  here : (machine.runFor program index).counter = machine.counter + index
  after : (machine.runFor program (index + 1)).status = .failed (.execution error)

/-- What comes of a machine in as many steps as there are instructions, when it is known what comes
of its stack without bounds: it goes on with the words of that, or fails in the same place. -/
inductive Reflects (program : Program) (machine : Machine σ μ) (count : Nat) :
    Except (Nat × ExecutionError) (List Int) → Prop where
  | ends {result : List Int}
      (reached : machine.runFor program count =
        { machine with counter := machine.counter + count, stack := result.map Word.wrap }) :
      Reflects program machine count (.ok result)
  | fails {index : Nat} {error : ExecutionError} (within : index < count)
      (failed : FailsAt program machine index error) :
      Reflects program machine count (.error (index, error))

/-- Where code stands at the counter, what comes of it on the words of a stack reflects what comes
of it on the stack itself. -/
theorem run_reflects (code : List Instruction) :
    ∀ {machine : Machine σ μ} {stack : List Int}, (∀ instruction ∈ code, instruction.IsStraight) →
      Ahead program machine code → machine.status = .running →
      machine.stack = stack.map Word.wrap →
      Reflects program machine code.length (run code stack) := by
  induction code with
  | nil =>
      intro machine stack _ _ _ words
      refine .ends ?_
      rw [← words]
      show machine = { machine with counter := machine.counter + 0 }
      rw [Int.add_zero]
  | cons instruction rest ih =>
      intro machine stack straight ahead running words
      obtain ⟨isStraight, restStraight⟩ := List.forall_mem_cons.mp straight
      have found : program.fetch? machine.counter = some instruction := by
        simpa using ahead 0 instruction rfl
      have steps : machine.step program =
          (outcome { machine with counter := machine.counter + 1 }
            (perform instruction stack)).settle program := by
        rw [Machine.step_of_fetch? running found]
        exact congrArg (Machine.Outcome.settle program) (perform_wrapped isStraight words)
      have later (more : Nat) :
          machine.runFor program (more + 1) = (machine.step program).runFor program more := by
        rw [Machine.runFor, running]
      rw [run]
      cases came : perform instruction stack with
      | error error =>
          rw [came] at steps
          have told : program.tells error = true := by
            rw [Program.tells, isTellable_of_perform isStraight came, Bool.true_or]
          refine .fails (Nat.succ_pos _) ⟨running, (Int.add_zero _).symm, ?_⟩
          rw [later, steps, outcome, Machine.Outcome.settle, Machine.raise_of_tells told]
          exact congrArg Machine.status (Machine.fail_of_running (by exact running) _)
      | ok next =>
          rw [came] at steps
          -- the rest of the code stands at the counter of the next machine
          have restAhead : Ahead program (machine.step program) rest := by
            intro offset other there
            have further := ahead (offset + 1) other there
            rw [steps]
            simp only [outcome, Machine.Outcome.settle]
            rw [← further]
            congr 1
            omega
          have reflects := ih restStraight restAhead (by rw [steps]; exact running)
            (by rw [steps]; rfl)
          dsimp only
          generalize run rest next = came at reflects
          cases reflects with
          | ends reached =>
              refine .ends ?_
              rw [List.length_cons, later, reached, steps]
              simp only [outcome, Machine.Outcome.settle, Machine.mk.injEq, true_and, and_true]
              omega
          | fails within failed =>
              refine .fails (Nat.succ_lt_succ within) ⟨?_, ?_, ?_⟩
              · rw [later]
                exact failed.before
              · rw [later, failed.here, steps]
                simp only [outcome, Machine.Outcome.settle]
                omega
              · rw [later]
                exact failed.after

/-- A machine that fails has come to its end. -/
theorem FailsAt.endsAt {index : Nat} {error : ExecutionError}
    (failed : FailsAt program machine index error) :
    Machine.EndsAt program machine (index + 1) where
  before := by
    intro fewer below
    by_contra ended
    have stays := Machine.runFor_of_le (by simpa using ended) (Nat.lt_succ_iff.mp below)
    apply ended
    rw [← stays]
    exact Machine.isRunning_eq_true_iff.mpr failed.before
  after := by
    rw [Machine.isRunning_eq_false_iff, failed.after]
    nofun

/-- A machine fails at one instruction, with one error. -/
theorem FailsAt.unique {index other : Nat} {error reason : ExecutionError}
    (failed : FailsAt program machine index error)
    (failedToo : FailsAt program machine other reason) : index = other ∧ error = reason := by
  obtain rfl : index = other := Nat.succ.inj (failed.endsAt.unique failedToo.endsAt)
  have same := failed.after.symm.trans failedToo.after
  exact ⟨rfl, Failure.execution.inj (Status.failed.inj same)⟩

/-- Straight-line code of pushes, copies, slides, duplicates, swaps, discards, additions,
subtractions and multiplications, on any stack of words: wrapping at every step leaves what wrapping
once at the end leaves of the exact integers, and one of the two executions fails exactly if the
other does, at the same instruction with the same error. -/
theorem straight_wraps_once {code : List Instruction}
    (straight : ∀ instruction ∈ code, instruction.IsStraight)
    (begins : code <+: program.instructions) (running : machine.status = .running)
    (first : machine.counter = 0) (words : ∀ value ∈ machine.stack, Word.InRange value) :
    (∀ result, run code machine.stack = .ok result →
      machine.runFor program code.length =
        { machine with counter := code.length, stack := result.map Word.wrap }) ∧
    ∀ index error, run code machine.stack = .error (index, error) ↔
      index < code.length ∧ FailsAt program machine index error := by
  have same : machine.stack = machine.stack.map Word.wrap :=
    (List.map_id' _).symm.trans (List.map_congr_left fun value member =>
      (Word.wrap_of_inRange (words value member)).symm)
  have reflects := run_reflects code straight (ahead_of_isPrefix first begins) running same
  generalize run code machine.stack = came at reflects
  cases reflects with
  | ends reached =>
      rw [first, Int.zero_add] at reached
      constructor
      · rintro result ⟨⟩
        exact reached
      · intro index error
        constructor
        · rintro ⟨⟩
        · rintro ⟨within, failed⟩
          have stays := Machine.runFor_of_le failed.endsAt.after within
          have ended := failed.endsAt.after
          rw [← stays, reached, Machine.isRunning_eq_false_iff] at ended
          exact absurd running ended
  | fails within failed =>
      constructor
      · rintro result ⟨⟩
      · intro index error
        constructor
        · rintro ⟨⟩
          exact ⟨within, failed⟩
        · rintro ⟨_, failedToo⟩
          obtain ⟨rfl, rfl⟩ := failed.unique failedToo
          rfl

end

/-- Squares the greatest word twice, takes the least one away, and throws three values away. -/
def growing : List Instruction :=
  [⟨.push, 0x7FFFFFFFFFFFFFFF⟩, ⟨.duplicate, 0⟩, ⟨.multiply, 0⟩, ⟨.copy, 0⟩, ⟨.multiply, 0⟩,
    ⟨.push, -0x8000000000000000⟩, ⟨.subtract, 0⟩, ⟨.discard, 0⟩, ⟨.discard, 0⟩, ⟨.discard, 0⟩]

/-- A machine with one value on its stack. -/
def loaded : Machine Streams :=
  { console := Streams.ofInput [], heap := ∅, stack := [-5] }

/-- The exact integer has 252 bits, and the machine has what wrapping it gives. A third value to
throw away is lacking on either side. -/
theorem straight_wraps_once_growing :
    run (growing.take 7) loaded.stack =
        .ok [0x7FFFFFFFFFFFFFFF * 0x7FFFFFFFFFFFFFFF * (0x7FFFFFFFFFFFFFFF * 0x7FFFFFFFFFFFFFFF) +
          0x8000000000000000, -5] ∧
      (loaded.runFor (.ofInstructions growing) 7).stack = [-0x7FFFFFFFFFFFFFFF, -5] ∧
      FailsAt (.ofInstructions growing) loaded 9 .stackUnderflow := by
  have straight : ∀ instruction ∈ growing, instruction.IsStraight := by
    have counted : Numeral.isWritable 0 = true := by decide
    simp [growing, Instruction.IsStraight, Word.InRange, counted]
  have words : ∀ value ∈ loaded.stack, Word.InRange value := by decide
  have seven : run (growing.take 7) loaded.stack =
      .ok [0x7FFFFFFFFFFFFFFF * 0x7FFFFFFFFFFFFFFF * (0x7FFFFFFFFFFFFFFF * 0x7FFFFFFFFFFFFFFF) +
        0x8000000000000000, -5] := rfl
  have beginning : growing.take 7 <+: (Program.ofInstructions growing).instructions :=
    List.take_prefix 7 growing
  have whole : growing <+: (Program.ofInstructions growing).instructions := List.prefix_refl growing
  have ends := (straight_wraps_once
    (fun instruction member => straight instruction (List.mem_of_mem_take member)) beginning rfl rfl
    words).1 _ seven
  have fails := (straight_wraps_once straight whole rfl rfl words).2 9 .stackUnderflow
  exact ⟨seven, congrArg Machine.stack ends, (fails.mp rfl).2⟩

end Unbounded

end BlankCode
