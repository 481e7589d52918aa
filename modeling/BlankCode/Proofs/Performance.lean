/-
Module: BlankCode.Proofs.Performance
Purpose: What performing one instruction can come to, said once for all instructions: which failures
  leave the machine as it was, where the values on the stack come from, when the counter and the
  return addresses change, and what passes between the machine and its console. What every step
  keeps is shown kind by kind of outcome, and what every step keeps every run keeps. A run makes the
  steps that it is allowed, unless one of them comes to an error that cannot be told.
Main exports: Machine.combine_divide, Machine.Refuses, Machine.Provides, Machine.Performs,
  Machine.performs_perform, Machine.raise_cases, Machine.step_cases, Machine.console_step,
  Machine.runFor, Machine.reached, Machine.runFor_eq_iterate, Machine.loop_add, Machine.loop_cases,
  Machine.run_eq, Machine.Act, Machine.actAll_keeps
-/
import BlankCode.Machine
import Mathlib.Logic.Function.Iterate

namespace BlankCode

/-- The operations that go to the position beside them, or may go there. -/
def Operation.isJump : Operation → Bool
  | .call | .jump | .jumpIfZero | .jumpIfNegative => true
  | _ => false

/-- Exactly the commands that refer to a label become jumps. -/
theorem Mnemonic.isJump_operation (mnemonic : Mnemonic) :
    mnemonic.operation.isJump = mnemonic.refersToLabel := by
  cases mnemonic <;> rfl

/-- The value that is handed over. -/
def Console.Output.value : Console.Output → Int
  | .char value | .number value => value

/-- The operation that hands such a value over. -/
def Console.Output.operation : Console.Output → Operation
  | .char _ => .writeChar
  | .number _ => .writeNumber

/-- The operation that asks such a thing. -/
def Console.Query.operation : Console.Query → Operation
  | .char => .readChar
  | .number => .readNumber

/-- What is kept of a reply: a character as it is, a number as a word. -/
def Console.Query.kept : Console.Query → Int → Int
  | .char, value => value
  | .number, value => Word.wrap value

/-- An instruction is fetched from inside the code. -/
theorem Program.inside_of_fetch? {program : Program} {position : Int} {instruction : Instruction}
    (found : program.fetch? position = some instruction) :
    0 ≤ position ∧ position < program.size ∧ instruction ∈ program.instructions := by
  unfold Program.fetch? at found
  split at found
  · rename_i lower
    have upper := (Array.getElem?_eq_some_iff.mp found).1
    refine ⟨lower, ?_, Array.mem_toList_iff.mpr (Array.mem_of_getElem? found)⟩
    unfold Program.size
    omega
  · cases found

/-- Where no instruction is fetched the code has not begun or is over. -/
theorem Program.outside_of_fetch? {program : Program} {position : Int}
    (nothing : program.fetch? position = none) : position < 0 ∨ program.size ≤ position := by
  unfold Program.fetch? at nothing
  split at nothing
  · rename_i lower
    have upper := Array.getElem?_eq_none_iff.mp nothing
    right
    unfold Program.size
    omega
  · omega

/-- No instruction is fetched from exactly those places that are outside of the code. -/
theorem Program.fetch?_eq_none_iff {program : Program} {position : Int} :
    program.fetch? position = none ↔ ¬ (0 ≤ position ∧ position < program.size) := by
  constructor
  · intro nothing
    have outside := outside_of_fetch? nothing
    omega
  · intro outside
    cases found : program.fetch? position with
    | none => rfl
    | some instruction =>
        obtain ⟨lower, upper, _⟩ := inside_of_fetch? found
        exact absurd ⟨lower, upper⟩ outside

/-- Fetching takes an instruction out of the list of them. -/
theorem Program.fetch?_natCast (program : Program) (position : Nat) :
    program.fetch? position = program.instructions[position]? := by
  rw [fetch?, instructions, if_pos (Int.natCast_nonneg position), Int.toNat_natCast,
    Array.getElem?_toList]

/-- An error that is not about the counter can be told if its report can be written. -/
theorem Program.tells_of_ne {error : ExecutionError}
    (other : ∀ index, error ≠ .counterOutOfRange index) (program : Program) :
    program.tells error = error.isTellable := by
  rw [tells, beq_eq_false_iff_ne.mpr (other _), Bool.or_false]

/-- An error that reports no integer can be told. -/
theorem Program.tells_of_quiet {error : ExecutionError} (quiet : error.quantity? = none)
    (program : Program) : program.tells error = true := by
  simp [tells, ExecutionError.isTellable, quiet]

namespace Machine

variable {σ μ : Type}

/-! ### Statuses -/

section

variable {machine : Machine σ μ}

theorem failure?_eq_some_iff {failure : Failure} :
    machine.failure? = some failure ↔ machine.status = .failed failure := by
  unfold failure?
  cases machine.status <;> simp

theorem isRunning_eq_true_iff : machine.isRunning = true ↔ machine.status = .running := by
  unfold isRunning
  cases machine.status <;> simp

theorem isRunning_eq_false_iff : machine.isRunning = false ↔ machine.status ≠ .running := by
  rw [Ne, ← isRunning_eq_true_iff, Bool.not_eq_true]

/-- A machine that has failed does not go on. -/
theorem isRunning_of_failure? {failure : Failure} (failed : machine.failure? = some failure) :
    machine.isRunning = false := by
  rw [isRunning_eq_false_iff, failure?_eq_some_iff.mp failed]
  exact nofun

/-- A machine that neither goes on nor has failed has stopped. -/
theorem status_of_ended (ended : machine.isRunning = false) (unfailed : machine.failure? = none) :
    machine.status = .stopped := by
  cases status : machine.status with
  | running => exact absurd status (isRunning_eq_false_iff.mp ended)
  | stopped => rfl
  | failed failure =>
      rw [failure?_eq_some_iff.mpr status] at unfailed
      cases unfailed

/-- The first failure stays on record. -/
theorem failure?_fail (failure : Failure) :
    (machine.fail failure).failure? = some (machine.failure?.getD failure) := by
  rcases machine with ⟨console, heap, counter, stack, calls, status⟩
  cases status <;> rfl

/-- A machine that has failed or stopped does not go on. -/
@[simp] theorem isRunning_fail (failure : Failure) : (machine.fail failure).isRunning = false :=
  isRunning_of_failure? (failure?_fail failure)

@[simp] theorem isRunning_stop : machine.stop.isRunning = false := by
  rcases machine with ⟨console, heap, counter, stack, calls, status⟩
  cases status <;> rfl

/-- Neither a failure on record nor an end changes anything about the console or the heap. -/
@[simp] theorem console_fail (failure : Failure) :
    (machine.fail failure).console = machine.console := by
  rcases machine with ⟨console, heap, counter, stack, calls, status⟩
  cases status <;> rfl

@[simp] theorem console_stop : machine.stop.console = machine.console := by
  rcases machine with ⟨console, heap, counter, stack, calls, status⟩
  cases status <;> rfl

@[simp] theorem heap_fail (failure : Failure) : (machine.fail failure).heap = machine.heap := by
  rcases machine with ⟨console, heap, counter, stack, calls, status⟩
  cases status <;> rfl

@[simp] theorem heap_stop : machine.stop.heap = machine.heap := by
  rcases machine with ⟨console, heap, counter, stack, calls, status⟩
  cases status <;> rfl

theorem fail_of_running (running : machine.status = .running) (failure : Failure) :
    machine.fail failure = { machine with status := .failed failure } := by
  rw [fail, running]

/-! ### Errors that are told -/

section

variable {program : Program} {error : ExecutionError}

theorem raise_of_tells (told : program.tells error = true) :
    machine.raise program error = machine.fail (.execution error) :=
  if_pos told

theorem raise_of_untold (untold : program.tells error = false) :
    machine.raise program error = machine := by
  rw [raise, untold]
  rfl

/-- Either an error is recorded or the machine stays as it is. -/
theorem raise_cases {motive : Machine σ μ → Prop}
    (told : program.tells error = true → motive (machine.fail (.execution error)))
    (untold : program.tells error = false → motive machine) :
    motive (machine.raise program error) := by
  cases tells : program.tells error with
  | true =>
      rw [raise_of_tells tells]
      exact told tells
  | false =>
      rw [raise_of_untold tells]
      exact untold tells

@[simp] theorem console_raise : (machine.raise program error).console = machine.console :=
  raise_cases (motive := fun next => next.console = machine.console) (fun _ => console_fail _)
    fun _ => rfl

@[simp] theorem heap_raise : (machine.raise program error).heap = machine.heap :=
  raise_cases (motive := fun next => next.heap = machine.heap) (fun _ => heap_fail _) fun _ => rfl

end

end

/-! ### Instructions -/

/-- Where the integer comes from that an error reports: it is on the stack, or beside an instruction
that is no jump. -/
def Reports (machine : Machine σ μ) (instruction : Instruction) (error : ExecutionError) : Prop :=
  ∀ value, error.quantity? = some value →
    value ∈ machine.stack ∨
      instruction.operation.isJump = false ∧ value = instruction.argument

/-- The failures of an instruction that leave the machine as it is. -/
inductive Refuses (instruction : Instruction) : ExecutionError → Prop where
  | underflow : Refuses instruction .stackUnderflow
  | argument (action : String) (count : Int) : Refuses instruction (.negativeCount action count)
  | division (name : String) : Refuses instruction (.divisionByZero name)
  | address (negative : Int) : Refuses instruction (.negativeAddress "retrieve from" negative)
  | calls : Refuses instruction .emptyCallStack
  | invalid (isInvalid : instruction.operation = .invalid) : Refuses instruction .invalidOperation

/-- Where a value comes from that an instruction leaves on the stack. -/
inductive Provides [Memory μ] (machine : Machine σ μ) (instruction : Instruction) : Int → Prop where
  | kept {value : Int} (there : value ∈ machine.stack) : Provides machine instruction value
  | pushed (isPush : instruction.operation = .push) :
      Provides machine instruction instruction.argument
  | computed (value : Int) : Provides machine instruction (Word.wrap value)
  | fetched (address : Int) : Provides machine instruction (Memory.fetch machine.heap address)

/-- What performing an instruction can come to. -/
inductive Performs [Console σ] [Memory μ] (machine : Machine σ μ) (instruction : Instruction) :
    Outcome σ μ → Prop where
  | refused {error : ExecutionError} (reason : Refuses instruction error)
      (reports : Reports machine instruction error) :
      Performs machine instruction (.faulted machine error)
  | rearranged {values : List Int}
      (origin : ∀ value ∈ values, Provides machine instruction value) :
      Performs machine instruction (.done { machine with stack := values })
  | stored {value address : Int} {rest : List Int}
      (top : machine.stack = value :: address :: rest) (addressed : 0 ≤ address)
      (isStore : instruction.operation = .store) :
      Performs machine instruction
        (.done { machine with stack := rest, heap := Memory.store machine.heap address value })
  | misplaced {value address : Int} {rest : List Int}
      (top : machine.stack = value :: address :: rest) (negative : address < 0)
      (isStore : instruction.operation = .store) :
      Performs machine instruction
        (.faulted { machine with stack := rest } (.negativeAddress "store to" address))
  | called (isCall : instruction.operation = .call) :
      Performs machine instruction
        (.done
          { machine with
            calls := machine.counter :: machine.calls
            counter := instruction.argument })
  | went {values : List Int} (jumps : instruction.operation.isJump = true)
      (rest : values <:+ machine.stack) :
      Performs machine instruction
        (.done { machine with stack := values, counter := instruction.argument })
  | returned {position : Int} {rest : List Int} (top : machine.calls = position :: rest) :
      Performs machine instruction (.done { machine with counter := position, calls := rest })
  | exited : Performs machine instruction (.done machine.stop)
  | wrote {value : Int} {rest : List Int} {output : Console.Output} {console : σ}
      (top : machine.stack = value :: rest) (hands : output.value = value)
      (reply : Console.write machine.console output = (.ok (), console))
      (writes : instruction.operation = output.operation) :
      Performs machine instruction (.done { machine with stack := rest, console := console })
  | unwritten {value : Int} {rest : List Int} {output : Console.Output} {fault : Console.Fault}
      {console : σ} (top : machine.stack = value :: rest) (hands : output.value = value)
      (reply : Console.write machine.console output = (.error fault, console))
      (writes : instruction.operation = output.operation) :
      Performs machine instruction
        (.faulted { machine with stack := rest, console := console } fault.error)
  | read {address value : Int} {rest : List Int} {query : Console.Query} {console : σ}
      (top : machine.stack = address :: rest)
      (reply : Console.read machine.console query = (.ok value, console))
      (addressed : 0 ≤ address) (reads : instruction.operation = query.operation) :
      Performs machine instruction
        (.done
          { machine with
            stack := rest
            console := console
            heap := Memory.store machine.heap address (query.kept value) })
  | readMisplaced {address value : Int} {rest : List Int} {query : Console.Query} {console : σ}
      (top : machine.stack = address :: rest)
      (reply : Console.read machine.console query = (.ok value, console)) (negative : address < 0)
      (reads : instruction.operation = query.operation) :
      Performs machine instruction
        (.faulted { machine with stack := rest, console := console }
          (.negativeAddress "store to" address))
  | unread {address : Int} {rest : List Int} {query : Console.Query} {fault : Console.Fault}
      {console : σ} (top : machine.stack = address :: rest)
      (reply : Console.read machine.console query = (.error fault, console))
      (reads : instruction.operation = query.operation) :
      Performs machine instruction
        (.faulted { machine with stack := rest, console := console } fault.error)

/-- Division rounds toward zero. -/
theorem combine_divide (lower upper : Int) :
    combine .divide lower upper =
      if upper = 0 then .error (.divisionByZero "division") else .ok (lower.tdiv upper) := by
  unfold combine
  by_cases zero : upper = 0
  · simp [zero, Word.divide?]
  · simp [zero, Word.divide?_eq_tdiv]

/-- A remainder has the sign of the dividend. -/
theorem combine_modulo (lower upper : Int) :
    combine .modulo lower upper =
      if upper = 0 then .error (.divisionByZero "modulo") else .ok (lower.tmod upper) := by
  unfold combine
  by_cases zero : upper = 0
  · simp [zero, Word.divide?]
  · simp [zero, Word.divide?_eq_tdiv, Int.tmod_def]

/-- An operation fails without a word about its operands. -/
theorem quantity?_of_combine {operation : Operation} {lower upper : Int} {error : ExecutionError}
    (failed : combine operation lower upper = .error error) : error.quantity? = none := by
  cases operation with
  | divide =>
      rw [combine_divide] at failed
      split at failed <;> cases failed
      rfl
  | modulo =>
      rw [combine_modulo] at failed
      split at failed <;> cases failed
      rfl
  | _ =>
      cases failed
      try rfl

/-- Storing asks for an address that is not negative. -/
theorem finishStore_eq [Memory μ] (machine : Machine σ μ) (address value : Int) :
    machine.finishStore address value =
      if address < 0 then .faulted machine (.negativeAddress "store to" address)
      else .done { machine with heap := Memory.store machine.heap address value } := by
  unfold finishStore store
  split <;> rename_i found <;> split at found <;> cases found <;> simp [*]

section

variable [Console σ] [Memory μ] (machine : Machine σ μ) (instruction : Instruction)

theorem performs_arithmetic {operation : Operation} (known : ∀ lower upper error,
      combine operation lower upper = .error error → Refuses instruction error) :
    machine.Performs instruction (machine.arithmetic operation) := by
  unfold arithmetic
  split
  · rename_i upper lower rest top
    cases combined : combine operation lower upper with
    | ok result =>
        refine .rearranged fun value member => ?_
        rcases List.mem_cons.mp member with rfl | below
        · exact .computed result
        · exact .kept (by simp [top, below])
    | error error =>
        have quiet := quantity?_of_combine combined
        exact .refused (known lower upper error combined) (by simp [Reports, quiet])
  · exact .refused .underflow nofun

theorem performs_divide {operation : Operation}
    (divides : operation = .divide ∨ operation = .modulo) :
    machine.Performs instruction (machine.arithmetic operation) := by
  apply performs_arithmetic
  intro lower upper error failed
  rcases divides with rfl | rfl
  all_goals
    simp only [combine] at failed
    cases quotient : Word.divide? lower upper with
    | some value =>
        rw [quotient] at failed
        cases failed
    | none =>
        rw [quotient] at failed
        cases failed
        exact .division _

/-- A count that is refused is the one beside the instruction. -/
theorem performs_negativeCount (straight : instruction.operation.isJump = false) (action : String) :
    machine.Performs instruction
      (.faulted machine (.negativeCount action instruction.argument)) := by
  refine .refused (.argument action _) ?_
  rintro value ⟨⟩
  exact Or.inr ⟨straight, rfl⟩

theorem performs_copy (straight : instruction.operation.isJump = false) :
    machine.Performs instruction (machine.copy instruction.argument) := by
  unfold copy
  split
  · exact performs_negativeCount machine instruction straight _
  · split
    · rename_i value found
      refine .rearranged fun other member => ?_
      rcases List.mem_cons.mp member with rfl | below
      · exact .kept (List.mem_of_getElem? found)
      · exact .kept below
    · exact .refused .underflow nofun

theorem performs_slide (straight : instruction.operation.isJump = false) :
    machine.Performs instruction (machine.slide instruction.argument) := by
  unfold slide
  split
  · exact performs_negativeCount machine instruction straight _
  · split
    · rename_i top rest found
      split
      · exact .refused .underflow nofun
      · refine .rearranged fun value member => .kept ?_
        rw [found]
        rcases List.mem_cons.mp member with rfl | below
        · exact List.mem_cons_self
        · exact List.mem_cons_of_mem _ (List.mem_of_mem_drop below)
    · exact .refused .underflow nofun

theorem performs_retrieve : machine.Performs instruction machine.retrieve := by
  unfold retrieve
  split
  · rename_i address rest found
    split
    · refine .refused (.address _) ?_
      rintro value ⟨⟩
      exact Or.inl (found ▸ List.mem_cons_self)
    · refine .rearranged fun value member => ?_
      rcases List.mem_cons.mp member with rfl | below
      · exact .fetched address
      · exact .kept (by simp [found, below])
  · exact .refused .underflow nofun

theorem performs_branch (jumps : instruction.operation.isJump = true) (condition : Int → Bool) :
    machine.Performs instruction (machine.branch condition instruction.argument) := by
  unfold branch
  split
  · rename_i value rest found
    have below : rest <:+ machine.stack := found ▸ List.suffix_cons value rest
    by_cases taken : condition value
    · rw [if_pos taken]
      exact .went jumps below
    · rw [if_neg taken]
      exact .rearranged fun other member => .kept (below.mem member)
  · exact .refused .underflow nofun

theorem performs_write {output : Int → Console.Output}
    (hands : ∀ value, (output value).value = value)
    (writes : ∀ value, instruction.operation = (output value).operation) :
    machine.Performs instruction (machine.write output) := by
  unfold write
  split
  · rename_i value rest found
    split
    · rename_i console reply
      exact .wrote found (hands value) reply (writes value)
    · rename_i fault console reply
      exact .unwritten found (hands value) reply (writes value)
  · exact .refused .underflow nofun

theorem performs_read (query : Console.Query) {adjust : Int → Int}
    (keeps : adjust = query.kept) (reads : instruction.operation = query.operation) :
    machine.Performs instruction (machine.read query adjust) := by
  unfold Machine.read
  split
  · rename_i address rest found
    split
    · rename_i value console reply
      rw [finishStore_eq, keeps]
      by_cases negative : address < 0
      · rw [if_pos negative]
        exact .readMisplaced found reply negative reads
      · rw [if_neg negative]
        exact .read found reply (Int.not_lt.mp negative) reads
    · rename_i fault console reply
      exact .unread found reply reads
  · exact .refused .underflow nofun

/-- Performing an instruction comes to one of the things that it can come to. -/
theorem performs_perform : machine.Performs instruction (machine.perform instruction) := by
  rcases instruction with ⟨operation, argument⟩
  unfold perform
  cases operation with
  | invalid => exact .refused (.invalid rfl) nofun
  | push =>
      refine .rearranged fun value member => ?_
      rcases List.mem_cons.mp member with rfl | below
      · exact .pushed rfl
      · exact .kept below
  | duplicate =>
      dsimp only
      split
      · rename_i top rest found
        refine .rearranged fun value member => .kept ?_
        rcases List.mem_cons.mp member with rfl | below
        · simp [found]
        · exact below
      · exact .refused .underflow nofun
  | copy => exact performs_copy machine _ rfl
  | swap =>
      dsimp only
      split
      · rename_i first second rest found
        refine .rearranged fun value member => .kept ?_
        rw [found]
        simp only [List.mem_cons] at member ⊢
        rcases member with isSecond | isFirst | below
        · exact Or.inr (Or.inl isSecond)
        · exact Or.inl isFirst
        · exact Or.inr (Or.inr below)
      · exact .refused .underflow nofun
  | discard =>
      dsimp only
      split
      · rename_i top rest found
        exact .rearranged fun value member => .kept (by simp [found, member])
      · exact .refused .underflow nofun
  | slide => exact performs_slide machine _ rfl
  | add | subtract | multiply =>
      apply performs_arithmetic
      rintro lower upper error ⟨⟩
  | divide => exact performs_divide machine _ (Or.inl rfl)
  | modulo => exact performs_divide machine _ (Or.inr rfl)
  | store =>
      dsimp only
      split
      · rename_i value address rest found
        rw [finishStore_eq]
        by_cases negative : address < 0
        · rw [if_pos negative]
          exact .misplaced found negative rfl
        · rw [if_neg negative]
          exact .stored found (Int.not_lt.mp negative) rfl
      · exact .refused .underflow nofun
  | retrieve => exact performs_retrieve machine _
  | call => exact .called rfl
  | jump => exact .went rfl List.suffix_rfl
  | jumpIfZero | jumpIfNegative => exact performs_branch machine _ rfl _
  | ret =>
      dsimp only
      split
      · rename_i position rest found
        exact .returned found
      · exact .refused .calls nofun
  | exit => exact .exited
  | writeChar | writeNumber => exact performs_write machine _ (fun _ => rfl) fun _ => rfl
  | readChar | readNumber => exact performs_read machine _ _ rfl rfl

/-- What an instruction fails of reports nothing but what it found. -/
theorem reports_of_faulted {instruction : Instruction} {error : ExecutionError}
    {left : Machine σ μ} (performs : machine.Performs instruction (.faulted left error)) :
    machine.Reports instruction error := by
  have quiet (fault : Console.Fault) : machine.Reports instruction fault.error := by
    cases fault <;> nofun
  cases performs with
  | refused _ reports => exact reports
  | misplaced top | readMisplaced top =>
      rintro value ⟨⟩
      exact Or.inl (by simp [top])
  | unwritten | unread => exact quiet _

/-- No instruction fails of the counter. -/
theorem ne_counterOutOfRange_of_faulted {instruction : Instruction} {error : ExecutionError}
    {left : Machine σ μ} (performs : machine.Performs instruction (.faulted left error))
    (index : Int) : error ≠ .counterOutOfRange index := by
  cases performs with
  | refused reason => cases reason <;> exact nofun
  | misplaced | readMisplaced => exact nofun
  | @unwritten _ _ _ fault | @unread _ _ _ fault => cases fault <;> exact nofun

/-- So what it fails of can be told if its report can be written. -/
theorem tells_of_faulted (program : Program) {instruction : Instruction} {error : ExecutionError}
    {left : Machine σ μ} (performs : machine.Performs instruction (.faulted left error)) :
    program.tells error = error.isTellable :=
  Program.tells_of_ne (ne_counterOutOfRange_of_faulted machine performs) program

end

/-! ### Steps -/

/-- An attempt that leaves neither a failure nor trouble behind it is done. -/
theorem Outcome.exists_done {program : Program} {outcome : Outcome σ μ}
    (unfailed : (outcome.settle program).failure? = none)
    (whole : outcome.breaksOff program = false) : ∃ next, outcome = .done next := by
  cases outcome with
  | done next => exact ⟨next, rfl⟩
  | faulted left error =>
      have told : program.tells error = true := by simpa [breaksOff] using whole
      rw [settle, raise_of_tells told, failure?_fail] at unfailed
      cases unfailed

section

variable [Console σ] [Memory μ] {program : Program} {machine : Machine σ μ}

theorem attempt_of_fetch? {instruction : Instruction}
    (found : program.fetch? machine.counter = some instruction) :
    machine.attempt program =
      { machine with counter := machine.counter + 1 }.perform instruction := by
  rw [attempt, current, found]

theorem attempt_of_fetch?_eq_none (nothing : program.fetch? machine.counter = none) :
    machine.attempt program = .faulted machine (.counterOutOfRange machine.counter) := by
  rw [attempt, current, nothing]

theorem step_of_running (running : machine.status = .running) :
    machine.step program = (machine.attempt program).settle program := by
  rw [step, running]

theorem step_of_fetch? {instruction : Instruction} (running : machine.status = .running)
    (found : program.fetch? machine.counter = some instruction) :
    machine.step program =
      ({ machine with counter := machine.counter + 1 }.perform instruction).settle program := by
  rw [step_of_running running, attempt_of_fetch? found]

theorem step_of_ended (ended : machine.status ≠ .running) : machine.step program = machine := by
  unfold step
  split
  · rename_i running
    exact absurd running ended
  · rfl

/-- A step leaves a machine that has ended as it is, or finds that the code is at its end, or comes
to what the instruction at the counter comes to. -/
theorem step_cases {motive : Machine σ μ → Prop}
    (ended : machine.status ≠ .running → motive machine)
    (overrun : machine.status = .running → program.fetch? machine.counter = none →
      motive (machine.raise program (.counterOutOfRange machine.counter)))
    (performed : ∀ instruction outcome, machine.status = .running →
      program.fetch? machine.counter = some instruction →
      Performs { machine with counter := machine.counter + 1 } instruction outcome →
      motive (outcome.settle program)) :
    motive (machine.step program) := by
  by_cases running : machine.status = .running
  · rw [step_of_running running]
    cases found : program.fetch? machine.counter with
    | none =>
        rw [attempt_of_fetch?_eq_none found]
        exact overrun running found
    | some instruction =>
        rw [attempt_of_fetch? found]
        exact performed instruction _ running found (performs_perform _ instruction)
  · rw [step_of_ended running]
    exact ended running

/-- A step leaves the console as it is, or hands it one output, or asks it one query. -/
theorem console_step {motive : σ → Prop} (same : motive machine.console)
    (handed : ∀ {output reply console},
      Console.write machine.console output = (reply, console) → motive console)
    (asked : ∀ {query reply console},
      Console.read machine.console query = (reply, console) → motive console) :
    motive (machine.step program).console := by
  apply step_cases (motive := fun next : Machine σ μ => motive next.console)
  · exact fun _ => same
  · intro _ _
    rw [console_raise]
    exact same
  · intro instruction outcome _ _ performs
    cases performs with
    | refused | misplaced =>
        rw [Outcome.settle, console_raise]
        exact same
    | exited =>
        rw [Outcome.settle, console_stop]
        exact same
    | wrote _ _ reply => exact handed reply
    | unwritten _ _ reply =>
        rw [Outcome.settle, console_raise]
        exact handed reply
    | read _ reply => exact asked reply
    | readMisplaced _ reply | unread _ reply =>
        rw [Outcome.settle, console_raise]
        exact asked reply
    | _ => exact same

/-! ### Runs -/

/-- A number of steps, whatever comes of each of them. Those after the end of a machine's activity
change nothing. -/
def runFor (program : Program) : Nat → Machine σ μ → Machine σ μ
  | 0, machine => machine
  | count + 1, machine =>
    match machine.status with
    | .running => runFor program count (machine.step program)
    | _ => machine

/-- The machine that a program has made of a console after some steps. -/
def reached (μ : Type) [EmptyCollection μ] [Memory μ] (program : Program) (console : σ)
    (steps : Nat) : Machine σ μ :=
  (step program)^[steps] (start console)

/-- Running for a number of steps is making as many steps: those after the end change nothing. -/
theorem runFor_eq_iterate (program : Program) (count : Nat) :
    ∀ machine : Machine σ μ, machine.runFor program count = (step program)^[count] machine := by
  induction count with
  | zero =>
      intro machine
      rfl
  | succ count ih =>
      intro machine
      rw [Function.iterate_succ_apply, runFor]
      split
      · exact ih _
      · rename_i ended
        have fixed : machine.step program = machine := step_of_ended ended
        rw [fixed, Function.iterate_fixed fixed]

/-- Steps make no difference to a machine that has ended. -/
theorem runFor_of_ended (ended : machine.isRunning = false) (program : Program) (count : Nat) :
    machine.runFor program count = machine := by
  have fixed : machine.step program = machine := step_of_ended (isRunning_eq_false_iff.mp ended)
  rw [runFor_eq_iterate, Function.iterate_fixed fixed]

/-- The first of a number of steps. -/
theorem runFor_succ (program : Program) (count : Nat) (machine : Machine σ μ) :
    machine.runFor program (count + 1) = (machine.step program).runFor program count := by
  rw [runFor_eq_iterate, runFor_eq_iterate, Function.iterate_succ_apply]

/-- A machine that does not go on comes to no error. -/
theorem breaksOff_of_ended (ended : machine.isRunning = false) :
    machine.breaksOff program = false := by
  rw [breaksOff, ended, Bool.false_and]

theorem breaksOff_of_running (running : machine.status = .running) :
    machine.breaksOff program = (machine.attempt program).breaksOff program := by
  rw [breaksOff, isRunning_eq_true_iff.mpr running, Bool.true_and]

theorem loop_of_ended (ended : machine.isRunning = false) (program : Program) (count : Nat) :
    machine.loop program count = ⟨machine, false⟩ := by
  cases count with
  | zero => rfl
  | succ count =>
      rw [loop]
      split
      · rename_i running
        exact absurd running (isRunning_eq_false_iff.mp ended)
      · rfl

/-- The first turn of the loop. -/
theorem loop_succ (program : Program) (count : Nat) (machine : Machine σ μ) :
    machine.loop program (count + 1) =
      if machine.breaksOff program then ⟨machine.step program, true⟩
      else (machine.step program).loop program count := by
  by_cases running : machine.status = .running
  · rw [loop, running, breaksOff_of_running running, step_of_running running]
  · have ended := isRunning_eq_false_iff.mpr running
    rw [loop_of_ended ended, breaksOff_of_ended ended, step_of_ended running, loop_of_ended ended]
    rfl

/-- A loop makes as many steps as it may, or breaks off with the first step that does. -/
theorem loop_cases (program : Program) (count : Nat) :
    ∀ machine : Machine σ μ,
      (machine.loop program count = ⟨machine.runFor program count, false⟩ ∧
        ∀ earlier < count, (machine.runFor program earlier).breaksOff program = false) ∨
      ∃ earlier < count, (machine.runFor program earlier).breaksOff program = true ∧
        machine.loop program count = ⟨machine.runFor program (earlier + 1), true⟩ := by
  induction count with
  | zero =>
      intro machine
      exact Or.inl ⟨rfl, nofun⟩
  | succ count ih =>
      intro machine
      rw [loop_succ]
      cases broke : machine.breaksOff program with
      | true => exact Or.inr ⟨0, Nat.succ_pos count, broke, by rw [runFor_succ]; rfl⟩
      | false =>
          rcases ih (machine.step program) with ⟨whole, quiet⟩ | ⟨earlier, within, brokeLater, cut⟩
          · refine Or.inl ⟨by rw [runFor_succ]; exact whole, ?_⟩
            rintro (_ | earlier) inTime
            · exact broke
            · rw [runFor_succ]
              exact quiet earlier (Nat.lt_of_succ_lt_succ inTime)
          · refine Or.inr ⟨earlier + 1, Nat.succ_lt_succ within, ?_, ?_⟩
            · rw [runFor_succ]
              exact brokeLater
            · rw [runFor_succ]
              exact cut

/-- A loop none of whose steps breaks off makes them all. -/
theorem loop_of_quiet {count : Nat}
    (quiet : ∀ earlier < count, (machine.runFor program earlier).breaksOff program = false) :
    machine.loop program count = ⟨machine.runFor program count, false⟩ := by
  rcases loop_cases program count machine with ⟨whole, _⟩ | ⟨earlier, within, broke, _⟩
  · exact whole
  · rw [quiet earlier within] at broke
    cases broke

/-- The steps of a run are those that its limit allows or, without one, those that are tried. Only
without a limit may there be no answer. -/
theorem run_eq (program : Program) (limit : Option Int) (tried : Nat) (machine : Machine σ μ) :
    machine.run program limit tried =
      let ran := machine.loop program ((limit.map Int.toNat).getD tried)
      if limit.isNone && ran.goesOn then none else some ran := by
  cases limit <;> rfl

end

/-! ### What a machine is told to do -/

/-- What a machine can be told to do. A run without a limit is tried for a number of steps. -/
inductive Act where
  | step
  | run (limit : Option Int) (tried : Nat)
  | stop
  | fail (failure : Failure)
deriving DecidableEq, Repr

variable [Console σ] [Memory μ]

/-- What comes of an act. Nothing comes of a run that has not come to its end. -/
def act (program : Program) (machine : Machine σ μ) : Act → Option (Ran σ μ)
  | .step => some ⟨machine.step program, machine.breaksOff program⟩
  | .run limit tried => machine.run program limit tried
  | .stop => some ⟨machine.stop, false⟩
  | .fail failure => some ⟨machine.fail failure, false⟩

/-- The machine after acts in a row, whether or not some of them broke off. -/
def actAll (program : Program) : List Act → Machine σ μ → Option (Machine σ μ)
  | [], machine => some machine
  | first :: rest, machine =>
    (machine.act program first).bind fun ran => actAll program rest ran.machine

variable {program : Program} {machine last : Machine σ μ} {invariant : Machine σ μ → Prop}

/-- What every step keeps, every run keeps. -/
theorem run_keeps
    (steps : ∀ machine : Machine σ μ, invariant machine → invariant (machine.step program))
    (holds : invariant machine) {limit : Option Int} {tried : Nat} {ran : Ran σ μ}
    (ends : machine.run program limit tried = some ran) : invariant ran.machine := by
  have after (count : Nat) : invariant (machine.runFor program count) := by
    rw [runFor_eq_iterate]
    exact Function.Iterate.rec invariant holds steps count
  rw [run_eq] at ends
  dsimp only at ends
  split at ends
  · cases ends
  · cases ends
    rcases loop_cases program ((limit.map Int.toNat).getD tried) machine with
      ⟨whole, _⟩ | ⟨earlier, _, _, cut⟩
    · rw [whole]
      exact after _
    · rw [cut]
      exact after _

/-- What every step and every stop keeps, all acts keep that record no failure of their own. -/
theorem actAll_keeps
    (steps : ∀ machine : Machine σ μ, invariant machine → invariant (machine.step program))
    (stops : ∀ machine : Machine σ μ, invariant machine → invariant machine.stop)
    (acts : List Act) :
    ∀ {machine : Machine σ μ}, (∀ failure, .fail failure ∉ acts) → invariant machine →
      machine.actAll program acts = some last → invariant last := by
  induction acts with
  | nil =>
      rintro machine _ holds ⟨⟩
      exact holds
  | cons first rest ih =>
      intro machine noFail holds ends
      obtain ⟨next, acted, ends⟩ := Option.bind_eq_some_iff.mp ends
      refine ih (fun failure inRest => noFail failure (List.mem_cons_of_mem _ inRest)) ?_ ends
      cases first with
      | step =>
          cases acted
          exact steps machine holds
      | run limit tried => exact run_keeps steps holds acted
      | stop =>
          cases acted
          exact stops machine holds
      | fail failure => exact absurd List.mem_cons_self (noFail failure)

end Machine

end BlankCode
