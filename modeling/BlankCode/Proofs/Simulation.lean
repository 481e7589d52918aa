/-
Module: BlankCode.Proofs.Simulation
Purpose: Linking preserves meaning. A machine that runs linked code and an interpreter that runs the
  commands themselves agree after every number of steps: they hold the same values, they stand at
  the same place, and they end in the same way. `Simulates` is kept by each command, hence by each
  step, hence by each run.
Main exports: Simulation.Simulates, Simulation.perform_simulates, Simulation.step_simulates,
  Simulation.iterate_simulates, Simulation.run_simulates
-/
import BlankCode.Console.Streams
import BlankCode.Proofs.Interpreter
import BlankCode.Proofs.Linker
import BlankCode.Proofs.Performance

namespace BlankCode.Simulation

open Linking

variable {σ : Type}

/-- A machine is where an interpreter of some commands is. Positions among the commands are
addresses in the code, and all else is the same. -/
structure Simulates (commands : List Command) (machine : Machine σ) (direct : Interpreter σ) :
    Prop where
  console : machine.console = direct.console
  heap : ∀ cell, machine.heap.fetch cell = direct.heap cell
  counter : machine.counter = address commands direct.position
  stack : machine.stack = direct.stack
  calls : machine.calls = direct.returns.map fun position => (address commands position : Int)
  status : machine.status = direct.status

variable {commands : List Command} {program : Program} {machine : Machine σ}
  {direct : Interpreter σ}

/-- Both end with the same error, or pass over it. -/
theorem Simulates.raise (simulates : Simulates commands machine direct)
    (running : direct.status = .running) {error : ExecutionError}
    (other : ∀ index, error ≠ .counterOutOfRange index) :
    Simulates commands (machine.raise program error) (direct.fail error) := by
  have goesOn : machine.status = .running := simulates.status.trans running
  rw [Machine.raise, Program.tells_of_ne other, Interpreter.fail]
  split
  · rw [Machine.fail, goesOn]
    exact { simulates with status := rfl }
  · exact simulates

/-- Both come to an end. -/
theorem Simulates.exit (simulates : Simulates commands machine direct)
    (running : direct.status = .running) :
    Simulates commands machine.stop { direct with status := .stopped } := by
  have goesOn : machine.status = .running := simulates.status.trans running
  rw [Machine.stop, goesOn]
  exact { simulates with status := rfl }

/-- Both change their stacks in the same way. -/
theorem Simulates.restack (simulates : Simulates commands machine direct) (values : List Int) :
    Simulates commands { machine with stack := values } { direct with stack := values } :=
  { simulates with stack := rfl }

/-! ### The stack -/

/-- The outcome of a change of the stack alone. -/
def restacked (machine : Machine σ) (changed : Option (List Int)) : Machine.Outcome σ Heap :=
  match changed with
  | some values => .done { machine with stack := values }
  | none => .faulted machine .stackUnderflow

theorem Simulates.rearrange (simulates : Simulates commands machine direct)
    (running : direct.status = .running) {outcome : Machine.Outcome σ Heap}
    {change : List Int → Option (List Int)}
    (does : outcome = restacked machine (change machine.stack)) :
    Simulates commands (outcome.settle program) (direct.rearrange change) := by
  rw [Interpreter.rearrange, does, simulates.stack]
  cases change direct.stack with
  | some values => exact simulates.restack values
  | none => exact simulates.raise running (by simp)

theorem Simulates.rearrangeBy (simulates : Simulates commands machine direct)
    (running : direct.status = .running) {outcome : Machine.Outcome σ Heap} {name : String}
    {count : Int} {change : Nat → List Int → Option (List Int)}
    (does : outcome =
      if count < 0 then .faulted machine (.negativeCount name count)
      else restacked machine (change count.toNat machine.stack)) :
    Simulates commands (outcome.settle program) (direct.rearrangeBy name count change) := by
  unfold Interpreter.rearrangeBy
  by_cases negative : count < 0
  · rw [does, if_pos negative, if_pos negative]
    exact simulates.raise running (by simp)
  · rw [if_neg negative] at does
    rw [if_neg negative]
    exact simulates.rearrange running does

/-- Sliding asks whether there are enough values below the top. -/
theorem slide_restacks (machine : Machine σ) (count : Int) :
    machine.slide count =
      if count < 0 then .faulted machine (.negativeCount "slide" count)
      else restacked machine (match machine.stack with
        | top :: rest =>
          if rest.length < count.toNat then none else some (top :: rest.drop count.toNat)
        | [] => none) := by
  unfold Machine.slide
  by_cases negative : count < 0
  · rw [if_pos negative, if_pos negative]
  · rw [if_neg negative, if_neg negative]
    cases machine.stack with
    | nil => rfl
    | cons top rest =>
        by_cases short : rest.length < count.toNat
        · have shortToo : (rest.length : Int) < count := by omega
          simp only [if_pos short, if_pos shortToo]
          rfl
        · have longToo : ¬ (rest.length : Int) < count := by omega
          simp only [if_neg short, if_neg longToo]
          rfl

/-! ### Arithmetic -/

/-- What comes of two values is the same, and wrapping is reduction to 64 bits. -/
theorem Simulates.arithmetic (simulates : Simulates commands machine direct)
    (running : direct.status = .running) {operation : Operation}
    {combine : Int → Int → Except ExecutionError Int}
    (same : ∀ lower upper, Machine.combine operation lower upper = combine lower upper) :
    Simulates commands ((machine.arithmetic operation).settle program) (direct.combine combine) := by
  simp only [Machine.arithmetic, Interpreter.combine, simulates.stack]
  rcases direct.stack with _ | ⟨upper, _ | ⟨lower, rest⟩⟩
  · exact simulates.raise running (by simp)
  · exact simulates.raise running (by simp)
  · simp only [same]
    cases combined : combine lower upper with
    | ok result =>
        simp only [Word.wrap_eq_bmod]
        exact simulates.restack _
    | error error =>
        have quiet := Machine.quantity?_of_combine ((same lower upper).trans combined)
        refine simulates.raise running ?_
        rintro index rfl
        cases quiet

/-! ### The heap and the console -/

theorem Simulates.finishStore (simulates : Simulates commands machine direct)
    (running : direct.status = .running) (cell value : Int) :
    Simulates commands ((machine.finishStore cell value).settle program) (direct.set cell value) := by
  unfold Machine.finishStore Machine.store Interpreter.set
  by_cases negative : cell < 0
  · rw [if_pos negative, if_pos negative]
    exact simulates.raise running (by simp)
  · rw [if_neg negative, if_neg negative]
    refine { simulates with heap := ?_ }
    intro other
    show (machine.heap.store cell value).fetch other = _
    rw [Heap.fetch_store, simulates.heap]

theorem Simulates.store (simulates : Simulates commands machine direct)
    (running : direct.status = .running) :
    Simulates commands
      ((match machine.stack with
        | value :: cell :: rest => Machine.finishStore { machine with stack := rest } cell value
        | _ => .faulted machine .stackUnderflow).settle program)
      (match direct.stack with
        | value :: cell :: rest => { direct with stack := rest }.set cell value
        | _ => direct.fail .stackUnderflow) := by
  rw [simulates.stack]
  rcases direct.stack with _ | ⟨value, _ | ⟨cell, rest⟩⟩
  · exact simulates.raise running (by simp)
  · exact simulates.raise running (by simp)
  · exact (simulates.restack rest).finishStore running cell value

theorem Simulates.retrieve (simulates : Simulates commands machine direct)
    (running : direct.status = .running) :
    Simulates commands (machine.retrieve.settle program)
      (match direct.stack with
        | cell :: rest =>
          if cell < 0 then direct.fail (.negativeAddress "retrieve from" cell)
          else { direct with stack := direct.heap cell :: rest }
        | [] => direct.fail .stackUnderflow) := by
  simp only [Machine.retrieve, simulates.stack]
  cases direct.stack with
  | nil => exact simulates.raise running (by simp)
  | cons cell rest =>
      by_cases negative : cell < 0
      · simp only [if_pos negative]
        exact simulates.raise running (by simp)
      · simp only [if_neg negative]
        rw [← simulates.heap]
        exact simulates.restack _

theorem Simulates.write [Console σ] (simulates : Simulates commands machine direct)
    (running : direct.status = .running) (output : Int → Console.Output) :
    Simulates commands ((machine.write output).settle program)
      (direct.take fun value => Interpreter.write (output value)) := by
  simp only [Machine.write, Interpreter.take, simulates.stack, simulates.console]
  cases direct.stack with
  | nil => exact simulates.raise running (by simp)
  | cons value rest =>
      simp only [Interpreter.write]
      rcases Console.write direct.console (output value) with ⟨reply | reply, console⟩
      · have written : Simulates commands { machine with stack := rest, console := console }
            { direct with stack := rest, console := console } :=
          { simulates with stack := rfl, console := rfl }
        exact written.raise running (by cases reply <;> simp [Console.Fault.error])
      · exact { simulates with stack := rfl, console := rfl }

theorem Simulates.read [Console σ] (simulates : Simulates commands machine direct)
    (running : direct.status = .running) (query : Console.Query) {adjust : Int → Int}
    (same : ∀ value, adjust value = match query with
      | .char => value
      | .number => value.bmod 0x10000000000000000) :
    Simulates commands ((machine.read query adjust).settle program)
      (direct.take fun cell => Interpreter.read query cell) := by
  simp only [Machine.read, Interpreter.take, simulates.stack, simulates.console]
  cases direct.stack with
  | nil => exact simulates.raise running (by simp)
  | cons cell rest =>
      simp only [Interpreter.read]
      rcases Console.read direct.console query with ⟨reply | value, console⟩
      all_goals
        have asked : Simulates commands { machine with stack := rest, console := console }
            { direct with stack := rest, console := console } :=
          { simulates with stack := rfl, console := rfl }
      · exact asked.raise running (by cases reply <;> simp [Console.Fault.error])
      · simp only [same]
        exact asked.finishStore running cell _

/-! ### Labels and calls -/

/-- A label that is marked once is found where it is marked. -/
theorem idxOf_mark (sound : Sound commands) {index : Nat} {label : Label}
    (marks : Marks commands index label) : commands.idxOf ⟨.mark, .label label⟩ = index := by
  have found : Marks commands (commands.idxOf ⟨.mark, .label label⟩) label :=
    List.getElem?_idxOf (List.mem_of_getElem? marks)
  exact marks_unique sound found marks

/-- Going to the address of a mark is going to the label. -/
theorem Simulates.goTo (simulates : Simulates commands machine direct) (sound : Sound commands)
    {index : Nat} {label : Label} (marks : Marks commands index label) :
    Simulates commands { machine with counter := address commands index }
      (direct.goTo commands label) := by
  refine { simulates with counter := ?_ }
  rw [Interpreter.goTo, idxOf_mark sound marks]

theorem Simulates.call (simulates : Simulates commands machine direct) :
    Simulates commands { machine with calls := machine.counter :: machine.calls }
      { direct with returns := direct.position :: direct.returns } := by
  refine { simulates with calls := ?_ }
  rw [simulates.counter, simulates.calls, List.map_cons]

theorem Simulates.branch (simulates : Simulates commands machine direct)
    (running : direct.status = .running) (sound : Sound commands) {index : Nat} {label : Label}
    (marks : Marks commands index label) {condition : Int → Bool} {holds : Int → Prop}
    [DecidablePred holds] (same : ∀ value, condition value = decide (holds value)) :
    Simulates commands ((machine.branch condition (address commands index)).settle program)
      (direct.take fun value state =>
        if holds value then state.goTo commands label else state) := by
  simp only [Machine.branch, Interpreter.take, simulates.stack]
  cases direct.stack with
  | nil => exact simulates.raise running (by simp)
  | cons value rest =>
      simp only [same, decide_eq_true_eq]
      by_cases isTaken : holds value
      · rw [if_pos isTaken, if_pos isTaken]
        exact (simulates.restack rest).goTo sound marks
      · rw [if_neg isTaken, if_neg isTaken]
        exact simulates.restack rest

theorem Simulates.ret (simulates : Simulates commands machine direct)
    (running : direct.status = .running) :
    Simulates commands
      ((match machine.calls with
        | position :: rest =>
          Machine.Outcome.done { machine with counter := position, calls := rest }
        | [] => .faulted machine .emptyCallStack).settle program)
      (match direct.returns with
        | position :: rest => { direct with position := position, returns := rest }
        | [] => direct.fail .emptyCallStack) := by
  rw [simulates.calls]
  cases direct.returns with
  | nil => exact simulates.raise running (by simp)
  | cons position rest => exact { simulates with counter := rfl, calls := rfl }

/-! ### Commands, steps and runs -/

/-- A command does what its instruction does. -/
theorem perform_simulates [Console σ] (simulates : Simulates commands machine direct)
    (running : direct.status = .running) (sound : Sound commands) {command : Command}
    {instruction : Instruction} (compiles : Compiles commands command instruction) :
    Simulates commands ((machine.perform instruction).settle program)
      (direct.perform commands command) := by
  cases compiles with
  | @number mnemonic value takes =>
      cases mnemonic <;> simp only [Mnemonic.parameter, reduceCtorEq] at takes
      all_goals dsimp only [Mnemonic.operation, Machine.perform, Interpreter.perform]
      case push =>
        apply simulates.rearrange running
        rfl
      case copy =>
        apply simulates.rearrangeBy running
        unfold Machine.copy
        cases machine.stack[value.toNat]? <;> rfl
      case slide =>
        apply simulates.rearrangeBy running
        exact slide_restacks machine value
  | @reference mnemonic label index refers marks =>
      cases mnemonic <;> simp only [Mnemonic.refersToLabel, Bool.false_eq_true] at refers
      all_goals dsimp only [Mnemonic.operation, Machine.perform, Interpreter.perform]
      case call => exact simulates.call.goTo sound marks
      case jump => exact simulates.goTo sound marks
      case jumpIfZero => exact simulates.branch running sound marks fun value => rfl
      case jumpIfNegative => exact simulates.branch running sound marks fun value => rfl
  | @plain mnemonic argument takes =>
      cases mnemonic <;> simp only [Mnemonic.parameter, reduceCtorEq] at takes
      all_goals dsimp only [Mnemonic.operation, Machine.perform, Interpreter.perform]
      case absent | count => exact simulates.raise running (by simp)
      case duplicate | discard =>
        apply simulates.rearrange running
        cases machine.stack <;> rfl
      case swap =>
        apply simulates.rearrange running
        rcases machine.stack with _ | ⟨_, _ | ⟨_, _⟩⟩ <;> rfl
      case add | subtract | multiply => exact simulates.arithmetic running fun _ _ => rfl
      case divide => exact simulates.arithmetic running Machine.combine_divide
      case modulo => exact simulates.arithmetic running Machine.combine_modulo
      case store => exact simulates.store running
      case retrieve => exact simulates.retrieve running
      case ret => exact simulates.ret running
      case exit => exact simulates.exit running
      case writeChar => exact simulates.write running .char
      case writeNumber => exact simulates.write running .number
      case readChar => exact simulates.read running .char fun _ => rfl
      case readNumber => exact simulates.read running .number Word.wrap_eq_bmod

/-- The instruction of a command is fetched at the command's address. -/
theorem fetch?_address {program : Program}
    (compiled : List.Forall₂ (Compiles commands) (body commands) program.instructions)
    {index : Nat} {command : Command} (there : commands[index]? = some command)
    (other : command.mnemonic ≠ .mark) :
    ∃ instruction, program.fetch? (address commands index) = some instruction ∧
      Compiles commands command instruction := by
  obtain ⟨within, isThere⟩ := List.getElem?_eq_some_iff.mp (body_getElem?_address there other)
  obtain ⟨sameLength, pairs⟩ := List.forall₂_iff_get.mp compiled
  refine ⟨program.instructions[address commands index], ?_, ?_⟩
  · rw [Program.fetch?_natCast]
    exact List.getElem?_eq_getElem (sameLength ▸ within)
  · have pair := pairs _ within (sameLength ▸ within)
    rw [List.get_eq_getElem, isThere] at pair
    exact pair

/-- Behind the last instruction nothing is fetched. -/
theorem fetch?_length {program : Program}
    (compiled : List.Forall₂ (Compiles commands) (body commands) program.instructions) :
    program.fetch? (body commands).length = none := by
  rw [Program.fetch?_natCast, compiled.length_eq]
  exact List.getElem?_eq_none (Nat.le_refl _)

/-- One step of the code is one step of the commands. -/
theorem step_simulates [Console σ] {program : Program}
    (linked : link commands = .ok program) (simulates : Simulates commands machine direct) :
    Simulates commands (machine.step program) (direct.step commands) := by
  obtain ⟨sound, compiled⟩ : Sound commands ∧
      List.Forall₂ (Compiles commands) (body commands) program.instructions := by
    cases links_of_link linked with
    | linked sound _ _ compiled => exact ⟨sound, compiled⟩
  simp only [Machine.step, Machine.attempt, Interpreter.step, simulates.status]
  cases running : direct.status with
  | stopped | failed => exact simulates
  | running =>
      dsimp only
      have here : machine.counter =
          address commands (Interpreter.ahead commands direct.position) := by
        rw [simulates.counter, Interpreter.address_ahead]
      rw [Machine.current, here]
      cases there : commands[Interpreter.ahead commands direct.position]? with
      | some command =>
          have other := Interpreter.ahead_ne_mark there
          obtain ⟨instruction, stands, compiles⟩ := fetch?_address compiled there other
          rw [stands]
          dsimp only
          refine perform_simulates ?_ rfl sound compiles
          refine { simulates with counter := ?_, status := rfl }
          rw [address_succ there other]
          rfl
      | none =>
          have behind := Interpreter.address_of_ahead_none there
          have atEnd : (program.size : Int) = (body commands).length := by
            rw [compiled.length_eq]
            rfl
          have told : program.tells (.counterOutOfRange (body commands).length) = true := by
            simp [Program.tells, atEnd]
          rw [Interpreter.address_ahead, behind, fetch?_length compiled]
          dsimp only [Machine.Outcome.settle]
          rw [Machine.raise_of_tells told, Machine.fail_of_running (simulates.status.trans running)]
          exact { simulates with status := rfl }

/-- Any number of steps of the code are as many steps of the commands. -/
theorem iterate_simulates [Console σ] {program : Program} (linked : link commands = .ok program)
    (steps : Nat) :
    ∀ {machine : Machine σ} {direct : Interpreter σ}, Simulates commands machine direct →
      Simulates commands ((Machine.step program)^[steps] machine)
        ((Interpreter.step commands)^[steps] direct) := by
  induction steps with
  | zero =>
      intro machine direct simulates
      exact simulates
  | succ steps ih =>
      intro machine direct simulates
      rw [Function.iterate_succ_apply, Function.iterate_succ_apply]
      exact ih (step_simulates linked simulates)

/-- A machine starts where the interpreter starts. -/
theorem start_simulates (commands : List Command) (console : σ) :
    Simulates commands (Machine.start console) (Interpreter.start console) where
  console := rfl
  heap := Heap.fetch_empty
  counter := rfl
  stack := rfl
  calls := rfl
  status := rfl

/-- Linking preserves meaning. Whatever is read and however many steps are made, the machine that
runs the code of some commands and the interpreter that runs the commands hold the same values on
their stacks and heaps, have read and written the same, have ended or gone wrong in the same way if
they have, and have their positions and return addresses at the same instructions. -/
theorem run_simulates {program : Program} (linked : link commands = .ok program) (input : Text)
    (steps : Nat) :
    Simulates commands
      ((Machine.step program)^[steps] (Machine.start (Streams.ofInput input)))
      ((Interpreter.step commands)^[steps] (Interpreter.start (Streams.ofInput input))) :=
  iterate_simulates linked steps (start_simulates commands _)

/-- Counts down from three and then calls what writes the last number. -/
def countdown : List Command :=
  [⟨.push, .integer 3⟩, ⟨.mark, .label [0x20]⟩, ⟨.mark, .label []⟩, ⟨.push, .integer 1⟩,
    ⟨.subtract, .absent⟩, ⟨.duplicate, .absent⟩, ⟨.jumpIfZero, .label [0x09]⟩,
    ⟨.jump, .label []⟩, ⟨.mark, .label [0x09]⟩, ⟨.call, .label [0x09, 0x20]⟩, ⟨.exit, .absent⟩,
    ⟨.mark, .label [0x09, 0x20]⟩, ⟨.writeNumber, .absent⟩, ⟨.ret, .absent⟩]

/-- The labels of a countdown lead backward and forward, and two are marked at one place. -/
theorem run_simulates_countdown :
    ∃ program, link countdown = .ok program ∧ program.labels = 4 ∧ program.forward = 2 ∧
      Simulates countdown
        ((Machine.step program)^[19] (Machine.start (Streams.ofInput [])))
        ((Interpreter.step countdown)^[19] (Interpreter.start (Streams.ofInput []))) :=
  ⟨_, rfl, rfl, rfl, run_simulates rfl [] 19⟩

end BlankCode.Simulation
