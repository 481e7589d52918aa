/-
Module: BlankCode.Machine
Purpose: The stack machine. A machine performs one instruction of its program at a time against its
  stacks, its heap and its console. The first failure is recorded and ends all activity, and so does
  an exit; what a failing instruction had done before it failed stays done. An error that cannot be
  told, because an integer in its report has too many digits, is not recorded and ends nothing but
  the run that it comes up in.
Main exports: Status, Machine, Machine.perform, Machine.attempt, Machine.step, Machine.Ran,
  Machine.run
-/
import BlankCode.Console
import BlankCode.Heap
import BlankCode.Program
import BlankCode.Word

namespace BlankCode

/-- Whether a machine goes on. Only one that does not can have failed. -/
inductive Status where
  | running
  | stopped
  | failed (failure : Failure)
deriving DecidableEq, Repr, Inhabited

/-- The state of a machine. Both stacks have their top first. The counter and the return addresses
are positions in the code, and may lie outside it. [SPEC VirtualMachine] -/
structure Machine (σ : Type) (μ : Type := Heap) where
  console : σ
  heap : μ
  counter : Int := 0
  stack : List Int := []
  calls : List Int := []
  status : Status := .running

/-- Whether the errors of a machine that runs a program can be told. At the end of the code the
counter is the length of a list, and no memory holds one whose length has too many digits. -/
def Program.tells (program : Program) (error : ExecutionError) : Bool :=
  error.isTellable || error == .counterOutOfRange program.size

/-- How performing an instruction ends: either way with a machine, that has done all it got to. A
faulted one has yet to tell its error. -/
inductive Machine.Outcome (σ μ : Type) where
  | done (machine : Machine σ μ)
  | faulted (machine : Machine σ μ) (error : ExecutionError)

namespace Machine

variable {σ μ : Type}

/-- A machine before its first step. -/
def start [EmptyCollection μ] (console : σ) : Machine σ μ :=
  { console := console, heap := ∅ }

/-- The failure recorded, if there is one. -/
def failure? (machine : Machine σ μ) : Option Failure :=
  match machine.status with
  | .failed failure => some failure
  | _ => none

/-- A machine that goes on. -/
def isRunning (machine : Machine σ μ) : Bool :=
  match machine.status with
  | .running => true
  | _ => false

/-- Ends all activity. A failure stays recorded. [SPEC VirtualMachine.stop] -/
def stop (machine : Machine σ μ) : Machine σ μ :=
  match machine.status with
  | .running => { machine with status := .stopped }
  | _ => machine

/-- Records a failure, unless there is one already. [SPEC VirtualMachine.fail] -/
def fail (machine : Machine σ μ) (failure : Failure) : Machine σ μ :=
  match machine.status with
  | .failed _ => machine
  | _ => { machine with status := .failed failure }

/-- Asks for a number of values on the stack. Instructions do not ask in so many words, because they
find out when they look for the values; this is for somebody who asks a machine from outside.
[SPEC VirtualMachine.require] -/
def require (machine : Machine σ μ) (count : Int) : Except ExecutionError Unit :=
  if (machine.stack.length : Int) < count then .error .stackUnderflow else .ok ()

/-- Stores a value on the heap. Addresses are not negative. [SPEC VirtualMachine.store] -/
def store [Memory μ] (machine : Machine σ μ) (address value : Int) :
    Except ExecutionError (Machine σ μ) :=
  if address < 0 then .error (.negativeAddress "store to" address)
  else .ok { machine with heap := Memory.store machine.heap address value }

/-- Stores a value as the last act of an instruction. -/
def finishStore [Memory μ] (machine : Machine σ μ) (address value : Int) : Outcome σ μ :=
  match machine.store address value with
  | .ok next => .done next
  | .error error => .faulted machine error

/-- The result of an arithmetic operation on the two topmost values, the lower one first.
[SPEC BinArith._combine] -/
def combine (operation : Operation) (lower upper : Int) : Except ExecutionError Int :=
  match operation with
  | .add => .ok (lower + upper)
  | .subtract => .ok (lower - upper)
  | .multiply => .ok (lower * upper)
  | .divide =>
    match Word.divide? lower upper with
    | some quotient => .ok quotient
    | none => .error (.divisionByZero "division")
  | .modulo =>
    match Word.divide? lower upper with
    | some quotient => .ok (lower - upper * quotient)
    | none => .error (.divisionByZero "modulo")
  | _ => .error .invalidOperation

/-- Replaces the two topmost values by the wrapped result of an operation on them.
[SPEC BinArith.perform] -/
def arithmetic (machine : Machine σ μ) (operation : Operation) : Outcome σ μ :=
  match machine.stack with
  | upper :: lower :: rest =>
    match combine operation lower upper with
    | .ok result => .done { machine with stack := Word.wrap result :: rest }
    | .error error => .faulted machine error
  | _ => .faulted machine .stackUnderflow

/-- Pushes a copy of the value that lies `count` places below the top. [SPEC Copy.perform] -/
def copy (machine : Machine σ μ) (count : Int) : Outcome σ μ :=
  if count < 0 then .faulted machine (.negativeCount "copy" count)
  else
    match machine.stack[count.toNat]? with
    | some value => .done { machine with stack := value :: machine.stack }
    | none => .faulted machine .stackUnderflow

/-- Takes `count` values out from under the top. [SPEC Slide.perform] -/
def slide (machine : Machine σ μ) (count : Int) : Outcome σ μ :=
  if count < 0 then .faulted machine (.negativeCount "slide" count)
  else
    match machine.stack with
    | top :: rest =>
      if (rest.length : Int) < count then .faulted machine .stackUnderflow
      else .done { machine with stack := top :: rest.drop count.toNat }
    | [] => .faulted machine .stackUnderflow

/-- Replaces the address on top by the value stored there. [SPEC Retrieve.perform] -/
def retrieve [Memory μ] (machine : Machine σ μ) : Outcome σ μ :=
  match machine.stack with
  | address :: rest =>
    if address < 0 then .faulted machine (.negativeAddress "retrieve from" address)
    else .done { machine with stack := Memory.fetch machine.heap address :: rest }
  | [] => .faulted machine .stackUnderflow

/-- Takes a value off the stack and goes to a position if the value satisfies a condition.
[SPEC JumpIfZero.perform, JumpIfNegative.perform] -/
def branch (machine : Machine σ μ) (condition : Int → Bool) (target : Int) : Outcome σ μ :=
  match machine.stack with
  | value :: rest =>
    .done
      { machine with
        stack := rest
        counter := if condition value then target else machine.counter }
  | [] => .faulted machine .stackUnderflow

/-- Takes a value off the stack and hands it to the console.
[SPEC WriteChar.perform, WriteNumber.perform] -/
def write [Console σ] (machine : Machine σ μ) (output : Int → Console.Output) :
    Outcome σ μ :=
  match machine.stack with
  | value :: rest =>
    match Console.write machine.console (output value) with
    | (.ok (), console) => .done { machine with stack := rest, console := console }
    | (.error fault, console) =>
      .faulted { machine with stack := rest, console := console } fault.error
  | [] => .faulted machine .stackUnderflow

/-- Takes an address off the stack, asks the console, and stores what it makes of the reply there.
[SPEC ReadChar.perform, ReadNumber.perform] -/
def read [Console σ] [Memory μ] (machine : Machine σ μ) (query : Console.Query)
    (adjust : Int → Int) : Outcome σ μ :=
  match machine.stack with
  | address :: rest =>
    match Console.read machine.console query with
    | (.ok value, console) =>
      finishStore { machine with stack := rest, console := console } address (adjust value)
    | (.error fault, console) =>
      .faulted { machine with stack := rest, console := console } fault.error
  | [] => .faulted machine .stackUnderflow

/-- Performs an instruction. The counter is already past it. [SPEC OPERATIONS, perform] -/
def perform [Console σ] [Memory μ] (machine : Machine σ μ) (instruction : Instruction) :
    Outcome σ μ :=
  match instruction.operation with
  | .invalid => .faulted machine .invalidOperation
  | .push => .done { machine with stack := instruction.argument :: machine.stack }
  | .duplicate =>
    match machine.stack with
    | top :: _ => .done { machine with stack := top :: machine.stack }
    | [] => .faulted machine .stackUnderflow
  | .copy => machine.copy instruction.argument
  | .swap =>
    match machine.stack with
    | first :: second :: rest => .done { machine with stack := second :: first :: rest }
    | _ => .faulted machine .stackUnderflow
  | .discard =>
    match machine.stack with
    | _ :: rest => .done { machine with stack := rest }
    | [] => .faulted machine .stackUnderflow
  | .slide => machine.slide instruction.argument
  | .add => machine.arithmetic .add
  | .subtract => machine.arithmetic .subtract
  | .multiply => machine.arithmetic .multiply
  | .divide => machine.arithmetic .divide
  | .modulo => machine.arithmetic .modulo
  | .store =>
    match machine.stack with
    | value :: address :: rest => finishStore { machine with stack := rest } address value
    | _ => .faulted machine .stackUnderflow
  | .retrieve => machine.retrieve
  | .call =>
    .done
      { machine with
        calls := machine.counter :: machine.calls
        counter := instruction.argument }
  | .jump => .done { machine with counter := instruction.argument }
  | .jumpIfZero => machine.branch (· == 0) instruction.argument
  | .jumpIfNegative => machine.branch (· < 0) instruction.argument
  | .ret =>
    match machine.calls with
    | position :: rest => .done { machine with counter := position, calls := rest }
    | [] => .faulted machine .emptyCallStack
  | .exit => .done machine.stop
  | .writeChar => machine.write .char
  | .writeNumber => machine.write .number
  | .readChar => machine.read .char id
  | .readNumber => machine.read .number Word.wrap

/-- The instruction that the counter stands at. [SPEC VirtualMachine.current_instruction] -/
def current (program : Program) (machine : Machine σ μ) : Except ExecutionError Instruction :=
  match program.fetch? machine.counter with
  | some instruction => .ok instruction
  | none => .error (.counterOutOfRange machine.counter)

/-- An instruction's attempt, from fetching it: where there is none the counter stays. -/
def attempt [Console σ] [Memory μ] (program : Program) (machine : Machine σ μ) : Outcome σ μ :=
  match machine.current program with
  | .ok instruction => { machine with counter := machine.counter + 1 }.perform instruction
  | .error error => .faulted machine error

/-- Records an error, if it can be told. One that cannot leaves the machine as it is, and
running. -/
def raise (program : Program) (machine : Machine σ μ) (error : ExecutionError) : Machine σ μ :=
  if program.tells error then machine.fail (.execution error) else machine

/-- The machine that an outcome leaves, with the error recorded if there is one that can be told. -/
def Outcome.settle (program : Program) : Outcome σ μ → Machine σ μ
  | .done machine => machine
  | .faulted machine error => machine.raise program error

/-- Whether an outcome has an error that cannot be told. -/
def Outcome.breaksOff (program : Program) : Outcome σ μ → Bool
  | .done _ => false
  | .faulted _ error => !program.tells error

/-- One step: fetches an instruction, moves the counter past it, and performs it. A machine that
does not go on stays as it is. [SPEC VirtualMachine.step] -/
def step [Console σ] [Memory μ] (program : Program) (machine : Machine σ μ) : Machine σ μ :=
  match machine.status with
  | .running => (machine.attempt program).settle program
  | _ => machine

/-- Whether the next step comes to an error that cannot be told. -/
def breaksOff [Console σ] [Memory μ] (program : Program) (machine : Machine σ μ) : Bool :=
  machine.isRunning && (machine.attempt program).breaksOff program

/-- What comes of a run: the machine that it leaves, and whether it broke off with an error that
could not be told. -/
structure Ran (σ μ : Type) where
  machine : Machine σ μ
  brokeOff : Bool

/-- Whether a run would have gone on if it had been allowed more steps. -/
def Ran.goesOn (ran : Ran σ μ) : Bool :=
  ran.machine.isRunning && !ran.brokeOff

/-- The loop of a run: at most a number of steps, up to the first that breaks off or ends the
machine's activity. [SPEC VirtualMachine.run] -/
def loop [Console σ] [Memory μ] (program : Program) : Nat → Machine σ μ → Ran σ μ
  | 0, machine => ⟨machine, false⟩
  | count + 1, machine =>
    match machine.status with
    | .running =>
      let outcome := machine.attempt program
      if outcome.breaksOff program then ⟨outcome.settle program, true⟩
      else loop program count (outcome.settle program)
    | _ => ⟨machine, false⟩

/-- Runs a machine until it ends its activity, or as many steps as the limit allows; a negative
limit allows none. Without a limit the number of steps tried is given apart, and there is no answer
when they do not suffice. [SPEC VirtualMachine.run] -/
def run [Console σ] [Memory μ] (program : Program) (limit : Option Int) (tried : Nat)
    (machine : Machine σ μ) : Option (Ran σ μ) :=
  match limit with
  | some steps => some (machine.loop program steps.toNat)
  | none =>
    let ran := machine.loop program tried
    if ran.goesOn then none else some ran

end Machine

end BlankCode
