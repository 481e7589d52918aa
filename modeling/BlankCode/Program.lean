/-
Module: BlankCode.Program
Purpose: Linking commands into code in one pass. A mark notes where its label leads, and each other
  command becomes one instruction. A reference to a label that was marked before gets its address
  at once; one to a label still to come is noted and gets it when all commands have been seen. Of
  several errors the one noticed first is reported: during the pass errors come in the order of the
  commands; then comes a label behind all code; then the first reference, in the order of the code,
  to a label that is never marked.
Main exports: Definition, FixUp, Linker, Program, link
-/
import BlankCode.Command
import BlankCode.Command.Reading
import BlankCode.Failure
import BlankCode.Instruction

namespace BlankCode

/-- The complaint about a command that stands for no instruction and no mark, or that has an
argument of the wrong kind. Truth values are no numbers here. [SPEC _check_argument] -/
def Command.complaint? (index : Nat) (command : Command) : Option String :=
  let expected (kind : String) : String :=
    "index " ++ toString index ++ ": expected " ++ kind ++ " argument for " ++
      command.mnemonic.title ++ ", got " ++ command.argument.kind
  if !command.mnemonic.isCommand then
    some ("index " ++ toString index ++ ": invalid command: " ++ command.mnemonic.title)
  else
    match command.mnemonic.parameter, command.argument with
    | .nothing, _ => none
    | .number, .integer _ => none
    | .number, _ => some (expected "int")
    | .label, .label _ => none
    | .label, _ => some (expected "bytes")

/-- The label that a command marks. -/
def Command.marks? (command : Command) : Option Label :=
  match command.mnemonic, command.argument with
  | .mark, .label label => some label
  | _, _ => none

/-- The label that a command refers to. -/
def Command.refersTo? (command : Command) : Option Label :=
  match command.mnemonic.refersToLabel, command.argument with
  | true, .label label => some label
  | _, _ => none

/-- The number that goes with a command's operation, unless it is an address: the number that the
command takes, or zero. -/
def Command.operand (command : Command) : Int :=
  match command.mnemonic.parameter, command.argument with
  | .number, .integer value => value
  | _, _ => 0

theorem Command.marks?_eq_some_iff {command : Command} {label : Label} :
    command.marks? = some label ↔ command = ⟨.mark, .label label⟩ := by
  constructor
  · intro marks
    rcases command with ⟨mnemonic, argument⟩
    unfold marks? at marks
    split at marks
    · rename_i isMark given
      cases marks
      cases isMark
      cases given
      rfl
    · cases marks
  · rintro rfl
    rfl

theorem Command.refersTo?_eq_some_iff {command : Command} {label : Label} :
    command.refersTo? = some label ↔
      command.mnemonic.refersToLabel = true ∧ command.argument = .label label := by
  unfold refersTo?
  constructor
  · intro refers
    split at refers
    · rename_i doesRefer given
      cases refers
      exact ⟨doesRefer, given⟩
    · cases refers
  · rintro ⟨refers, given⟩
    simp [refers, given]

/-- Of the commands that are not complained of, exactly the marks mark a label. -/
theorem Command.marks?_eq_none_iff {command : Command} {index : Nat}
    (quiet : command.complaint? index = none) :
    command.marks? = none ↔ command.mnemonic ≠ .mark := by
  rcases command with ⟨mnemonic, argument⟩
  constructor
  · rintro noMark rfl
    cases argument <;> simp_all [complaint?, marks?, Mnemonic.isCommand, Mnemonic.parameter]
  · intro other
    unfold marks?
    split
    · rename_i isMark _
      exact absurd isMark other
    · rfl

/-- What a mark says of its label: the address it leads to, and the index of the mark itself. -/
structure Definition where
  label : Label
  address : Nat
  index : Nat
deriving DecidableEq, Repr

/-- A reference to a label that had not been marked before: the position of the instruction that
lacks the address. -/
structure FixUp where
  position : Nat
  label : Label
deriving DecidableEq, Repr

/-- What has been made of the commands so far. -/
structure Linker where
  /-- The marks so far, latest first. -/
  definitions : List Definition := []
  /-- The instructions so far. Where an address is lacking there is zero. -/
  code : Array Instruction := #[]
  /-- The instructions that lack an address, latest first. -/
  fixUps : List FixUp := []
deriving DecidableEq, Repr

namespace Linker

/-- What is known of a label. -/
def find? (linker : Linker) (label : Label) : Option Definition :=
  linker.definitions.find? (·.label == label)

/-- Puts an operation and the number beside it behind the code. -/
def emit (linker : Linker) (operation : Operation) (argument : Int) : Linker :=
  { linker with code := linker.code.push ⟨operation, argument⟩ }

/-- Takes in the command at an index. An address that is known is filled in, and one that is not
known is left to be filled in. [SPEC translate] -/
def enter (linker : Linker) (index : Nat) (command : Command) : Except LinkError Linker :=
  match command.complaint? index with
  | some complaint => .error (.invalidCommand complaint)
  | none =>
    match command.marks?, command.refersTo? with
    | some label, _ =>
      match linker.find? label with
      | some previous => .error (.duplicateLabel label.letters index previous.index)
      | none =>
        .ok { linker with
          definitions := ⟨label, linker.code.size, index⟩ :: linker.definitions }
    | none, some label =>
      match linker.find? label with
      | some definition => .ok (linker.emit command.mnemonic.operation definition.address)
      | none =>
        .ok { linker.emit command.mnemonic.operation 0 with
          fixUps := ⟨linker.code.size, label⟩ :: linker.fixUps }
    | none, none => .ok (linker.emit command.mnemonic.operation command.operand)

/-- Takes in commands, the first of which has the given index. [SPEC translate] -/
def enterAll (linker : Linker) (index : Nat) : List Command → Except LinkError Linker
  | [] => .ok linker
  | command :: rest =>
    match linker.enter index command with
    | .ok next => next.enterAll (index + 1) rest
    | .error error => .error error

/-- The label of the last mark, when no instruction follows it. An earlier mark has instructions
after it whenever the last one has. [SPEC translate] -/
def pastEnd? (linker : Linker) : Option Label :=
  match linker.definitions with
  | [] => none
  | latest :: _ => if linker.code.size ≤ latest.address then some latest.label else none

/-- Fills in the addresses that were lacking, first in the order of the code. [SPEC translate] -/
def patch (linker : Linker) (code : Array Instruction) :
    List FixUp → Except LinkError (Array Instruction)
  | [] => .ok code
  | fixUp :: rest =>
    match linker.find? fixUp.label with
    | none => .error (.undefinedLabel fixUp.label.letters fixUp.position)
    | some definition =>
      linker.patch
        (code.modify fixUp.position fun instruction =>
          { instruction with argument := definition.address })
        rest

end Linker

/-- Linked code, with the counts that a report of the linking gives. -/
structure Program where
  code : Array Instruction
  /-- The number of labels. -/
  labels : Nat := 0
  /-- The number of references that came before the mark of their label. -/
  forward : Nat := 0
deriving DecidableEq, Repr

namespace Program

/-- Code without labels. -/
def ofInstructions (instructions : List Instruction) : Program :=
  { code := instructions.toArray }

/-- The instructions in order. -/
def instructions (program : Program) : List Instruction :=
  program.code.toList

/-- The number of instructions. -/
def size (program : Program) : Nat :=
  program.code.size

/-- The instruction at a position; only positions inside the code have one. -/
def fetch? (program : Program) (position : Int) : Option Instruction :=
  if 0 ≤ position then program.code[position.toNat]? else none

end Program

/-- The code of some commands. [SPEC translate] -/
def link (commands : List Command) : Except LinkError Program :=
  match Linker.enterAll {} 0 commands with
  | .error error => .error error
  | .ok linker =>
    match linker.pastEnd? with
    | some label => .error (.labelPastEnd label.letters)
    | none =>
      match linker.patch linker.code linker.fixUps.reverse with
      | .error error => .error error
      | .ok code => .ok
        { code := code
          labels := linker.definitions.length
          forward := linker.fixUps.length }

/-- The code of a source. [SPEC load] -/
def Source.load (source : Source) : Except Defeat Program :=
  match source.parse with
  | .error defeat => .error defeat
  | .ok commands =>
    match link commands with
    | .error error => .error (.failure (.link error))
    | .ok program => .ok program

end BlankCode
