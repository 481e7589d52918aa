/-
Module: BlankCode.Proofs.Exposure
Purpose: A source run from beginning to end once more, by steps each of which says for itself where
  it is not defined. Tables and dictionaries are looked up and may lack the key, arguments are of
  any kind until they are found to be of the right one, positions in lists are counted from either
  end and may lie outside, stacks may be empty and divisors zero, and what goes wrong behind a
  console comes out unless it is caught. That none of this ever happens is not built in.
Main exports: Exposed.Mishap, Exposed.Trouble, Exposed.feed, Exposed.link, Exposed.perform,
  Exposed.evaluate
-/
import BlankCode.Evaluation

namespace BlankCode.Exposed

/-- What goes wrong where a step is not defined. -/
inductive Mishap where
  | missingKey
  | wrongKind (kind : String)
  | notAByte (value : Int)
  | indexOutOfRange (index : Int)
  | emptyPop
  | zeroDivisor
  | raised (kind text : String)
deriving DecidableEq, Repr

/-- Why there is no result: a failure that the program is told of, or a mishap. -/
inductive Trouble where
  | failure (failure : Failure)
  | mishap (mishap : Mishap)
deriving DecidableEq, Repr

/-- What is raised and is nobody's failure is a mishap. -/
def Trouble.ofDefeat : Defeat → Trouble
  | .failure known => .failure known
  | .raised kind text => .mishap (.raised kind text)

/-- A value or trouble in its place. -/
abbrev Attempt := Except Trouble

/-- The entry for a key that has to be there. -/
def entry {κ α : Type} [BEq κ] (table : List (κ × α)) (key : κ) : Attempt α :=
  match table.lookup key with
  | some value => .ok value
  | none => .error (.mishap .missingKey)

/-! ### Reading -/

/-- The rows of the spelling automaton: where each byte leads. [SPEC TRANSITIONS] -/
def transitions : List (Stem × List (Int × Stem.Branch)) :=
  [(.start, [(0x20, .stem .stack), (0x09, .stem .tab), (0x0A, .stem .flow)]),
    (.tab, [(0x20, .stem .arithmetic), (0x09, .stem .heap), (0x0A, .stem .console)]),
    (.stack,
      [(0x20, .command .push), (0x09, .stem .stackTab), (0x0A, .stem .stackLineFeed)]),
    (.stackTab, [(0x20, .command .copy), (0x0A, .command .slide)]),
    (.stackLineFeed,
      [(0x20, .command .duplicate), (0x09, .command .swap), (0x0A, .command .discard)]),
    (.arithmetic, [(0x20, .stem .arithmeticSpace), (0x09, .stem .arithmeticTab)]),
    (.arithmeticSpace,
      [(0x20, .command .add), (0x09, .command .subtract), (0x0A, .command .multiply)]),
    (.arithmeticTab, [(0x20, .command .divide), (0x09, .command .modulo)]),
    (.heap, [(0x20, .command .store), (0x09, .command .retrieve)]),
    (.console, [(0x20, .stem .consoleSpace), (0x09, .stem .consoleTab)]),
    (.consoleSpace, [(0x20, .command .writeChar), (0x09, .command .writeNumber)]),
    (.consoleTab, [(0x20, .command .readChar), (0x09, .command .readNumber)]),
    (.flow, [(0x20, .stem .flowSpace), (0x09, .stem .flowTab), (0x0A, .stem .flowLineFeed)]),
    (.flowSpace, [(0x20, .command .mark), (0x09, .command .call), (0x0A, .command .jump)]),
    (.flowTab,
      [(0x20, .command .jumpIfZero), (0x09, .command .jumpIfNegative), (0x0A, .command .ret)]),
    (.flowLineFeed, [(0x0A, .command .exit)])]

/-- What begins after a spelling, by what the command takes. [SPEC parse] -/
def readers : List (Parameter × (Mnemonic → Mode.Turn)) :=
  [(.nothing, fun mnemonic => .completes ⟨mnemonic, .absent⟩),
    (.number, fun mnemonic => .moves (.sign mnemonic)),
    (.label, fun mnemonic => .moves (.label mnemonic []))]

/-- A number as a byte, which not every number is. -/
def byte (value : Int) : Attempt UInt8 :=
  if 0 ≤ value ∧ value < 0x100 then .ok (UInt8.ofNat value.toNat)
  else .error (.mishap (.notAByte value))

/-- Takes one number of the stream. Within numbers every step is defined. [SPEC parse] -/
def feed (mode : Mode) (value : Int) : Attempt Mode.Turn :=
  match mode with
  | .spelling stem => do
    let row ← entry transitions stem
    match row.lookup value with
    | none => return .refuses (stem.refusal value)
    | some (.stem longer) => return .moves (.spelling longer)
    | some (.command mnemonic) =>
      let reader ← entry readers mnemonic.parameter
      return reader mnemonic
  | .label mnemonic bytes => do
    if value = 0x0A then return .completes ⟨mnemonic, .label bytes.reverse⟩
    else if value = 0x20 ∨ value = 0x09 then
      return .moves (.label mnemonic ((← byte value) :: bytes))
    else return .refuses (.unexpectedByte value "label" "")
  | .sign _ | .digits _ _ _ _ => return mode.feed value

/-- Takes one number of the stream, unless the reading has ended. -/
def take (reading : Reading) (value : Int) : Attempt Reading :=
  match reading.position with
  | .error _ => return reading
  | .ok mode => return Reading.ofTurn reading.completed (← feed mode value)

/-- The program that a source spells. What is raised behind its last byte comes out unless something
is wrong with the bytes in front of it. [SPEC parse_source] -/
def parse (source : Source) : Attempt (List Command) := do
  let reading ← source.values.foldlM take {}
  match reading.position, source.refusal? with
  | .ok _, some defeat => throw (.ofDefeat defeat)
  | _, _ => reading.result.mapError (.failure ∘ .parse)

/-! ### Linking -/

/-- The operation of each command. [SPEC OPERATIONS] -/
def operations : List (Mnemonic × Operation) :=
  [(.absent, .invalid), (.push, .push), (.duplicate, .duplicate), (.copy, .copy), (.swap, .swap),
    (.discard, .discard), (.slide, .slide), (.add, .add), (.subtract, .subtract),
    (.multiply, .multiply), (.divide, .divide), (.modulo, .modulo), (.store, .store),
    (.retrieve, .retrieve), (.mark, .invalid), (.call, .call), (.jump, .jump),
    (.jumpIfZero, .jumpIfZero), (.jumpIfNegative, .jumpIfNegative), (.ret, .ret), (.exit, .exit),
    (.writeChar, .writeChar), (.writeNumber, .writeNumber), (.readChar, .readChar),
    (.readNumber, .readNumber), (.count, .invalid)]

/-- An instruction whose argument may still be of any kind. -/
structure Draft where
  operation : Operation
  argument : Argument
deriving DecidableEq, Repr

/-- What has been made of the commands so far. Anything may be a key of the labels, whose entries
are an address and an index, the latest first; the fix-ups are positions with what they refer to.
-/
structure Ledger where
  labels : List (Argument × Nat × Nat) := []
  last : Option Argument := none
  code : Array Draft := #[]
  fixUps : List (Nat × Argument) := []
deriving DecidableEq, Repr

/-- The letters of a label, which only a label has. -/
def letters : Argument → Attempt String
  | .label bytes => .ok (Label.letters bytes)
  | other => .error (.mishap (.wrongKind other.kind))

/-- The number beside an operation before any label is looked up: the argument of a command that
takes a number, whatever it is, or zero. -/
def given (command : Command) : Argument :=
  match command.mnemonic.parameter with
  | .number => command.argument
  | _ => .integer 0

/-- Whether something is among the keys of the labels. -/
def Ledger.knows (ledger : Ledger) (key : Argument) : Bool :=
  (ledger.labels.lookup key).isSome

/-- Puts an operation and what stands beside it behind the code. -/
def Ledger.emit (ledger : Ledger) (operation : Operation) (argument : Argument) : Ledger :=
  { ledger with code := ledger.code.push ⟨operation, argument⟩ }

/-- Takes in a mark, of which there may be only one for each key. -/
def Ledger.mark (ledger : Ledger) (index : Nat) (key : Argument) : Attempt Ledger :=
  if ledger.knows key then do
    let text ← letters key
    let previous ← entry ledger.labels key
    throw (.failure (.link (.duplicateLabel text index previous.2)))
  else
    return { ledger with
      labels := (key, ledger.code.size, index) :: ledger.labels
      last := some key }

/-- Takes in a reference, whose address may be known already. -/
def Ledger.refer (ledger : Ledger) (operation : Operation) (key : Argument) : Attempt Ledger :=
  if ledger.knows key then do
    let known ← entry ledger.labels key
    return ledger.emit operation (.integer known.1)
  else
    return { ledger.emit operation (.integer 0) with
      fixUps := (ledger.code.size, key) :: ledger.fixUps }

/-- Takes in the command at an index. The number beside an operation is whatever is given.
[SPEC translate] -/
def Ledger.enter (ledger : Ledger) (index : Nat) (command : Command) : Attempt Ledger :=
  match command.complaint? index with
  | some complaint => throw (.failure (.link (.invalidCommand complaint)))
  | none =>
    if command.mnemonic = .mark then ledger.mark index command.argument
    else do
      let operation ← entry operations command.mnemonic
      if command.mnemonic.refersToLabel then ledger.refer operation command.argument
      else return ledger.emit operation (given command)

/-- Takes in commands, the first of which has the given index. -/
def Ledger.enterAll (ledger : Ledger) (index : Nat) : List Command → Attempt Ledger
  | [] => return ledger
  | command :: rest => do
    let next ← ledger.enter index command
    next.enterAll (index + 1) rest

/-- Fails when no instruction follows the last mark. [SPEC translate] -/
def Ledger.close (ledger : Ledger) : Attempt Unit :=
  match ledger.last with
  | none => return
  | some last => do
    let known ← entry ledger.labels last
    if ledger.code.size ≤ known.1 then
      let text ← letters last
      throw (.failure (.link (.labelPastEnd text)))

/-- Gives an argument to the instruction at a position, if there is one. -/
def setArgument (code : Array Draft) (position : Nat) (argument : Argument) :
    Attempt (Array Draft) :=
  if position < code.size then return code.modify position ({ · with argument := argument })
  else throw (.mishap (.indexOutOfRange position))

/-- Fills in the addresses that were lacking. [SPEC translate] -/
def Ledger.patch (ledger : Ledger) (code : Array Draft) :
    List (Nat × Argument) → Attempt (Array Draft)
  | [] => return code
  | (position, label) :: rest =>
    if ledger.knows label then do
      let known ← entry ledger.labels label
      let filled ← setArgument code position (.integer known.1)
      ledger.patch filled rest
    else do
      let text ← letters label
      throw (.failure (.link (.undefinedLabel text position)))

/-- An instruction whose argument is a number, which the machine has to be given. -/
def Draft.instruction (draft : Draft) : Attempt Instruction :=
  match draft.argument with
  | .integer value => return ⟨draft.operation, value⟩
  | other => throw (.mishap (.wrongKind other.kind))

/-- The code of some commands. [SPEC translate] -/
def link (commands : List Command) : Attempt Program := do
  let ledger ← Ledger.enterAll {} 0 commands
  ledger.close
  let code ← ledger.patch ledger.code ledger.fixUps.reverse
  let instructions ← code.toList.mapM Draft.instruction
  return {
    code := instructions.toArray
    labels := ledger.labels.length
    forward := ledger.fixUps.length }

/-- The code of a source. [SPEC load] -/
def load (source : Source) : Attempt Program := do
  link (← parse source)

/-! ### The machine -/

section

variable {σ μ α : Type}

/-- What a machine does to itself, with a value or trouble as the outcome. -/
abbrev Act (σ μ : Type) := EStateM Trouble (Machine σ μ)

/-- Fails, if the error can be told. -/
def fail (error : ExecutionError) : Act σ μ α :=
  throw (.ofDefeat error.defeat)

/-- Asks for a number of values on the stack. [SPEC VirtualMachine.require] -/
def require (count : Int) : Act σ μ Unit := do
  if ((← get).stack.length : Int) < count then fail .stackUnderflow

/-- Puts a value on the stack. -/
def push (value : Int) : Act σ μ Unit :=
  modify fun machine => { machine with stack := value :: machine.stack }

/-- Takes the value off that is on top of the stack. -/
def pop : Act σ μ Int := do
  match (← get).stack with
  | top :: rest =>
    modify ({ · with stack := rest })
    return top
  | [] => throw (.mishap .emptyPop)

/-- The place from the front that an index means in a list: if negative it is counted from the end.
-/
def place? (length : Nat) (index : Int) : Option Nat :=
  if 0 ≤ index then if index < length then some index.toNat else none
  else if 0 ≤ index + length then some (index + length).toNat
  else none

/-- The value at an index, counted from the bottom of the stack or, if negative, from its top. -/
def item (index : Int) : Act σ μ Int := do
  let values := (← get).stack.reverse
  match (place? values.length index).bind (values[·]?) with
  | some value => return value
  | none => throw (.mishap (.indexOutOfRange index))

/-- Replaces the value at an index. -/
def setItem (index value : Int) : Act σ μ Unit := do
  let values := (← get).stack.reverse
  match place? values.length index with
  | some place => modify ({ · with stack := (values.set place value).reverse })
  | none => throw (.mishap (.indexOutOfRange index))

/-- Takes off all values from an index up. An index outside stands for the nearest end. -/
def deleteFrom (index : Int) : Act σ μ Unit := do
  let values := (← get).stack.reverse
  let first := if index < 0 then (index + values.length).toNat else index.toNat
  modify ({ · with stack := (values.take first).reverse })

/-- Goes to a position. -/
def goTo (position : Int) : Act σ μ Unit :=
  modify ({ · with counter := position })

/-- Takes the return address off that is on top of its stack. -/
def popCall : Act σ μ Int := do
  match (← get).calls with
  | top :: rest =>
    modify ({ · with calls := rest })
    return top
  | [] => throw (.mishap .emptyPop)

/-- The quotient rounded down, unless the divisor is zero. -/
def floorDivide (dividend divisor : Int) : Act σ μ Int :=
  if divisor = 0 then throw (.mishap .zeroDivisor) else return dividend.fdiv divisor

/-- The quotient rounded toward zero. [SPEC truncated_divide] -/
def truncatedDivide (dividend divisor : Int) : Act σ μ Int := do
  let quotient ← floorDivide dividend.natAbs divisor.natAbs
  return if dividend < 0 ↔ divisor < 0 then quotient else -quotient

/-- The result of an arithmetic operation on the two topmost values, the lower one first.
[SPEC BinArith._combine] -/
def combine (operation : Operation) (lower upper : Int) : Act σ μ Int := do
  match operation with
  | .add => return lower + upper
  | .subtract => return lower - upper
  | .multiply => return lower * upper
  | .divide =>
    if upper = 0 then fail (.divisionByZero "division")
    truncatedDivide lower upper
  | .modulo =>
    if upper = 0 then fail (.divisionByZero "modulo")
    return lower - upper * (← truncatedDivide lower upper)
  | _ => fail .invalidOperation

/-- Replaces the two topmost values by the wrapped result of an operation on them.
[SPEC BinArith.perform] -/
def arithmetic (operation : Operation) : Act σ μ Unit := do
  require 2
  let upper ← item (-1)
  let lower ← item (-2)
  let result ← combine operation lower upper
  deleteFrom (-2)
  push (Word.wrap result)

/-- Pushes a copy of the value that lies `count` places below the top. [SPEC Copy.perform] -/
def copy (count : Int) : Act σ μ Unit := do
  if count < 0 then fail (.negativeCount "copy" count)
  require (count + 1)
  push (← item (-count - 1))

/-- Takes `count` values out from under the top. [SPEC Slide.perform] -/
def slide (count : Int) : Act σ μ Unit := do
  if count < 0 then fail (.negativeCount "slide" count)
  require (count + 1)
  let top ← pop
  deleteFrom ((← get).stack.length - count)
  push top

/-- Exchanges the two topmost values. [SPEC Swap.perform] -/
def swap : Act σ μ Unit := do
  require 2
  let upper ← item (-1)
  let lower ← item (-2)
  setItem (-1) lower
  setItem (-2) upper

/-- Takes a value off the stack and goes to a position if the value satisfies a condition.
[SPEC JumpIfZero.perform, JumpIfNegative.perform] -/
def branch (condition : Int → Bool) (target : Int) : Act σ μ Unit := do
  require 1
  if condition (← pop) then goTo target

/-- Stores a value on the heap. [SPEC VirtualMachine.store] -/
def store [Memory μ] (address value : Int) : Act σ μ Unit := do
  if address < 0 then fail (.negativeAddress "store to" address)
  modify fun machine => { machine with heap := Memory.store machine.heap address value }

/-- Replaces the address on top by the value stored there. [SPEC Retrieve.perform] -/
def retrieve [Memory μ] : Act σ μ Unit := do
  require 1
  let address ← item (-1)
  if address < 0 then fail (.negativeAddress "retrieve from" address)
  setItem (-1) (Memory.fetch (← get).heap address)

/-- A call of the console. Its own refusal is a failure; all else that goes wrong is a mishap. -/
def ask (call : σ → Except Console.Fault α × σ) : Act σ μ α := fun machine =>
  match call machine.console with
  | (.ok value, console) => .ok value { machine with console := console }
  | (.error (.refused message), console) =>
    .error (.failure (.execution (.console message none))) { machine with console := console }
  | (.error (.raised kind text), console) =>
    .error (.mishap (.raised kind text)) { machine with console := console }

/-- Turns what was raised behind the console into a failure. [SPEC VirtualMachine.call_console] -/
def guarded (act : Act σ μ α) : Act σ μ α :=
  tryCatch act fun
    | .mishap (.raised kind text) => fail (.console (kind ++ ": " ++ text) (some kind))
    | trouble => throw trouble

/-- Takes a value off the stack and hands it to the console.
[SPEC WriteChar.perform, WriteNumber.perform] -/
def write [Console σ] (output : Int → Console.Output) : Act σ μ Unit := do
  require 1
  let value ← pop
  guarded (ask (Console.write · (output value)))

/-- Takes an address off the stack, asks the console, and stores what it makes of the reply there.
[SPEC ReadChar.perform, ReadNumber.perform] -/
def read [Console σ] [Memory μ] (query : Console.Query) (adjust : Int → Int) : Act σ μ Unit := do
  require 1
  let address ← pop
  let value ← guarded (ask (Console.read · query))
  store address (adjust value)

/-- Performs an instruction. The counter is already past it. [SPEC OPERATIONS, perform] -/
def perform [Console σ] [Memory μ] (instruction : Instruction) : Act σ μ Unit := do
  match instruction.operation with
  | .invalid => fail .invalidOperation
  | .push => push instruction.argument
  | .duplicate =>
    require 1
    push (← item (-1))
  | .copy => copy instruction.argument
  | .swap => swap
  | .discard =>
    require 1
    discard pop
  | .slide => slide instruction.argument
  | .add => arithmetic .add
  | .subtract => arithmetic .subtract
  | .multiply => arithmetic .multiply
  | .divide => arithmetic .divide
  | .modulo => arithmetic .modulo
  | .store =>
    require 2
    let value ← pop
    let address ← pop
    store address value
  | .retrieve => retrieve
  | .call =>
    modify fun machine => { machine with calls := machine.counter :: machine.calls }
    goTo instruction.argument
  | .jump => goTo instruction.argument
  | .jumpIfZero => branch (· == 0) instruction.argument
  | .jumpIfNegative => branch (· < 0) instruction.argument
  | .ret =>
    if (← get).calls.isEmpty then fail .emptyCallStack
    goTo (← popCall)
  | .exit => modify Machine.stop
  | .writeChar => write .char
  | .writeNumber => write .number
  | .readChar => read .char id
  | .readNumber => read .number Word.wrap

/-- The instruction that the counter stands at. Only a counter inside the code is followed. The
length of the code has never too many digits to be told.
[SPEC VirtualMachine.current_instruction] -/
def current (program : Program) : Act σ μ Instruction := do
  let index := (← get).counter
  if index = program.size then throw (.failure (.execution (.counterOutOfRange index)))
  if ¬ (0 ≤ index ∧ index < program.size) then fail (.counterOutOfRange index)
  match (place? program.size index).bind (program.instructions[·]?) with
  | some instruction => return instruction
  | none => throw (.mishap (.indexOutOfRange index))

/-- Records the failure that an act ends with, which comes out all the same. A mishap is not
recorded. [SPEC VirtualMachine.step] -/
def recording (act : Act σ μ Unit) : Act σ μ Unit :=
  tryCatch act fun
    | .failure failure => do
      modify (·.fail failure)
      throw (.failure failure)
    | trouble => throw trouble

/-- One step. A failure comes out of the step that it ends and of every later one, a mishap out of
its own step alone. [SPEC VirtualMachine.step] -/
def step [Console σ] [Memory μ] (program : Program) : Act σ μ Unit := do
  match (← get).status with
  | .failed failure => throw (.failure failure)
  | .stopped => return
  | .running =>
    recording do
      let instruction ← current program
      modify fun machine => { machine with counter := machine.counter + 1 }
      perform instruction

/-- At most a number of steps. [SPEC VirtualMachine.run] -/
def loop [Console σ] [Memory μ] (program : Program) : Nat → Act σ μ Unit
  | 0 => return
  | count + 1 => do
    if (← get).isRunning then
      step program
      loop program count

end

/-- The output of a source that exits within the limit, or the trouble in its place. Without a limit
there is no answer when the source goes on for all the steps tried. [SPEC whitespace] -/
def evaluate (source : Source) (input : Text) (limit : Option Int) (tried : Nat) :
    Option (Attempt Text) :=
  match load source with
  | .error trouble => some (.error trouble)
  | .ok program =>
    let first : Machine Streams := Machine.start (Streams.ofInput input)
    match (loop program ((limit.map Int.toNat).getD tried)).run first with
    | .error trouble _ => some (.error trouble)
    | .ok _ last =>
      if last.isRunning then
        limit.map fun steps => .error (.ofDefeat (ExecutionError.stepLimit steps).defeat)
      else some (.ok last.console.output)

end BlankCode.Exposed
