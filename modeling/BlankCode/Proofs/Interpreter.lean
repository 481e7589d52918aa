/-
Module: BlankCode.Proofs.Interpreter
Purpose: A second account of what a program does, which knows nothing of linking: the commands are
  run as they stand. Positions and return addresses are positions in the list of commands, marks are
  passed over on the way to the next command, a label is looked for when it is gone to, and the heap
  is a function.
Main exports: Interpreter, Interpreter.perform, Interpreter.step, Interpreter.ahead_ne_mark,
  Interpreter.address_ahead
-/
import BlankCode.Machine
import BlankCode.Proofs.Linking

namespace BlankCode

/-- The state of a run of commands. Both stacks have their top first. -/
structure Interpreter (σ : Type) where
  console : σ
  heap : Int → Int := fun _ => 0
  position : Nat := 0
  stack : List Int := []
  returns : List Nat := []
  status : Status := .running

namespace Interpreter

variable {σ : Type}

/-- The state before the first command. -/
def start (console : σ) : Interpreter σ :=
  { console := console }

/-- Ends the run with an error. One that cannot be told, because of an integer in it with too many
digits, is passed over. -/
def fail (state : Interpreter σ) (error : ExecutionError) : Interpreter σ :=
  if error.isTellable then { state with status := .failed (.execution error) } else state

/-- Goes to the mark of a label. -/
def goTo (commands : List Command) (label : Label) (state : Interpreter σ) : Interpreter σ :=
  { state with position := commands.idxOf ⟨.mark, .label label⟩ }

/-- Changes the stack and nothing else. There is no change where values are missing. -/
def rearrange (state : Interpreter σ) (change : List Int → Option (List Int)) : Interpreter σ :=
  match change state.stack with
  | some values => { state with stack := values }
  | none => state.fail .stackUnderflow

/-- Changes the stack under a count, which must not be negative. -/
def rearrangeBy (state : Interpreter σ) (name : String) (count : Int)
    (change : Nat → List Int → Option (List Int)) : Interpreter σ :=
  if count < 0 then state.fail (.negativeCount name count)
  else state.rearrange (change count.toNat)

/-- Puts what comes of the two topmost values, the lower one first, in their place, as a number of
64 bits. Values of which nothing comes stay. -/
def combine (state : Interpreter σ) (operation : Int → Int → Except ExecutionError Int) :
    Interpreter σ :=
  match state.stack with
  | upper :: lower :: rest =>
    match operation lower upper with
    | .ok result => { state with stack := result.bmod 0x10000000000000000 :: rest }
    | .error error => state.fail error
  | _ => state.fail .stackUnderflow

/-- Takes the topmost value and goes on with it. -/
def take (state : Interpreter σ) (next : Int → Interpreter σ → Interpreter σ) : Interpreter σ :=
  match state.stack with
  | top :: rest => next top { state with stack := rest }
  | [] => state.fail .stackUnderflow

/-- Sets the cell at an address, which must not be negative. -/
def set (address value : Int) (state : Interpreter σ) : Interpreter σ :=
  if address < 0 then state.fail (.negativeAddress "store to" address)
  else { state with heap := fun other => if address = other then value else state.heap other }

/-- Writes to the console. -/
def write [Console σ] (output : Console.Output) (state : Interpreter σ) : Interpreter σ :=
  match Console.write state.console output with
  | (.ok (), console) => { state with console := console }
  | (.error fault, console) => { state with console := console }.fail fault.error

/-- Reads from the console and sets a cell to the reply, as a number of 64 bits. -/
def read [Console σ] (query : Console.Query) (address : Int) (state : Interpreter σ) :
    Interpreter σ :=
  match Console.read state.console query with
  | (.ok value, console) =>
    let kept := match query with
      | .char => value
      | .number => value.bmod 0x10000000000000000
    { state with console := console }.set address kept
  | (.error fault, console) => { state with console := console }.fail fault.error

/-- What a command does. The position is already behind it. -/
def perform [Console σ] (commands : List Command) (state : Interpreter σ) :
    Command → Interpreter σ
  | ⟨.push, .integer value⟩ => state.rearrange fun values => some (value :: values)
  | ⟨.duplicate, _⟩ => state.rearrange fun
    | top :: rest => some (top :: top :: rest)
    | [] => none
  | ⟨.copy, .integer count⟩ => state.rearrangeBy "copy" count fun count values =>
    values[count]?.map fun value => value :: values
  | ⟨.swap, _⟩ => state.rearrange fun
    | first :: second :: rest => some (second :: first :: rest)
    | _ => none
  | ⟨.discard, _⟩ => state.rearrange fun
    | _ :: rest => some rest
    | [] => none
  | ⟨.slide, .integer count⟩ => state.rearrangeBy "slide" count fun count values =>
    match values with
    | top :: rest => if rest.length < count then none else some (top :: rest.drop count)
    | [] => none
  | ⟨.add, _⟩ => state.combine fun lower upper => .ok (lower + upper)
  | ⟨.subtract, _⟩ => state.combine fun lower upper => .ok (lower - upper)
  | ⟨.multiply, _⟩ => state.combine fun lower upper => .ok (lower * upper)
  | ⟨.divide, _⟩ => state.combine fun lower upper =>
    if upper = 0 then .error (.divisionByZero "division") else .ok (lower.tdiv upper)
  | ⟨.modulo, _⟩ => state.combine fun lower upper =>
    if upper = 0 then .error (.divisionByZero "modulo") else .ok (lower.tmod upper)
  | ⟨.store, _⟩ =>
    match state.stack with
    | value :: address :: rest => { state with stack := rest }.set address value
    | _ => state.fail .stackUnderflow
  | ⟨.retrieve, _⟩ =>
    match state.stack with
    | address :: rest =>
      if address < 0 then state.fail (.negativeAddress "retrieve from" address)
      else { state with stack := state.heap address :: rest }
    | [] => state.fail .stackUnderflow
  | ⟨.call, .label label⟩ =>
    { state with returns := state.position :: state.returns }.goTo commands label
  | ⟨.jump, .label label⟩ => state.goTo commands label
  | ⟨.jumpIfZero, .label label⟩ => state.take fun value state =>
    if value = 0 then state.goTo commands label else state
  | ⟨.jumpIfNegative, .label label⟩ => state.take fun value state =>
    if value < 0 then state.goTo commands label else state
  | ⟨.ret, _⟩ =>
    match state.returns with
    | position :: rest => { state with position := position, returns := rest }
    | [] => state.fail .emptyCallStack
  | ⟨.exit, _⟩ => { state with status := .stopped }
  | ⟨.writeChar, _⟩ => state.take fun value => write (.char value)
  | ⟨.writeNumber, _⟩ => state.take fun value => write (.number value)
  | ⟨.readChar, _⟩ => state.take fun address => read .char address
  | ⟨.readNumber, _⟩ => state.take fun address => read .number address
  | _ => state.fail .invalidOperation

open Linking

/-- The position of the first command from a position on that is no mark. -/
def ahead (commands : List Command) (position : Nat) : Nat :=
  position + (commands.drop position).findIdx (·.mnemonic ≠ .mark)

/-- Passes over marks and performs the command behind them. Where no command is left the run fails,
and the number of commands that are no marks is reported. A run that has ended stays as it is. -/
def step [Console σ] (commands : List Command) (state : Interpreter σ) : Interpreter σ :=
  match state.status with
  | .running =>
    let here := ahead commands state.position
    match commands[here]? with
    | some command => { state with position := here + 1 }.perform commands command
    | none =>
      { state with status := .failed (.execution (.counterOutOfRange (body commands).length)) }
  | _ => state

/-! ### Passing over marks -/

/-- The command that is come to is no mark. -/
theorem ahead_ne_mark {commands : List Command} {position : Nat} {command : Command}
    (there : commands[ahead commands position]? = some command) : command.mnemonic ≠ .mark := by
  unfold ahead at there
  rw [← List.getElem?_drop] at there
  have stops := List.findIdx_of_getElem?_eq_some there
  simpa using stops

/-- Passing over marks passes over no instruction. -/
theorem address_ahead (commands : List Command) (position : Nat) :
    address commands (ahead commands position) = address commands position := by
  have passed : body ((commands.drop position).take
      ((commands.drop position).findIdx (·.mnemonic ≠ .mark))) = [] := by
    apply List.filter_eq_nil_iff.mpr
    intro command member
    obtain ⟨offset, within, rfl⟩ := List.mem_take_iff_getElem.mp member
    have goesOn := List.not_of_lt_findIdx (Nat.lt_of_lt_of_le within (Nat.min_le_left _ _))
    simpa using goesOn
  unfold address ahead
  rw [List.take_add, body_append, passed, List.append_nil]

/-- Where no command is left all instructions are behind. -/
theorem address_of_ahead_none {commands : List Command} {position : Nat}
    (none : commands[ahead commands position]? = none) :
    address commands position = (body commands).length := by
  rw [← address_ahead]
  unfold address
  rw [List.take_of_length_le (List.getElem?_eq_none_iff.mp none)]

end Interpreter

end BlankCode
