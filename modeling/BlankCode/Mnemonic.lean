/-
Module: BlankCode.Mnemonic
Purpose: The commands of the language by name: their groups, their parameters, their titles, and the
  tokens each is spelled with. Two of the names are placeholders, which no source can spell.
Main exports: Group, Parameter, Mnemonic, Mnemonic.spelling?
-/
import BlankCode.Token

namespace BlankCode

/-- The groups of commands; the first tokens of a command's spelling say which it belongs to.
[SPEC Imp] -/
inductive Group where
  | none
  | stack
  | arithmetic
  | heap
  | flow
  | console
deriving DecidableEq, Repr, Inhabited

/-- The group's text in a listing. -/
def Group.text : Group → String
  | .none => "IMP:None"
  | .stack => "IMP:Stack Manipulation"
  | .arithmetic => "IMP:Arithmetic"
  | .heap => "IMP:Heap Access"
  | .flow => "IMP:Flow Control"
  | .console => "IMP:I/O"

/-- What follows a command's spelling. [SPEC Argument] -/
inductive Parameter where
  | nothing
  | number
  | label
deriving DecidableEq, Repr, Inhabited

/-- The name of a command. [SPEC Cmd] -/
inductive Mnemonic where
  | absent
  | push
  | duplicate
  | copy
  | swap
  | discard
  | slide
  | add
  | subtract
  | multiply
  | divide
  | modulo
  | store
  | retrieve
  | mark
  | call
  | jump
  | jumpIfZero
  | jumpIfNegative
  | ret
  | exit
  | writeChar
  | writeNumber
  | readChar
  | readNumber
  | count
deriving DecidableEq, Repr, Inhabited

namespace Mnemonic

/-- All names, in the order of their codes. -/
def all : List Mnemonic :=
  [.absent, .push, .duplicate, .copy, .swap, .discard, .slide, .add, .subtract, .multiply, .divide,
    .modulo, .store, .retrieve, .mark, .call, .jump, .jumpIfZero, .jumpIfNegative, .ret, .exit,
    .writeChar, .writeNumber, .readChar, .readNumber, .count]

/-- The position of a name among all of them. -/
def code (mnemonic : Mnemonic) : Nat :=
  all.idxOf mnemonic

/-- The group of a command. -/
def group : Mnemonic → Group
  | .absent | .count => .none
  | .push | .duplicate | .copy | .swap | .discard | .slide => .stack
  | .add | .subtract | .multiply | .divide | .modulo => .arithmetic
  | .store | .retrieve => .heap
  | .mark | .call | .jump | .jumpIfZero | .jumpIfNegative | .ret | .exit => .flow
  | .writeChar | .writeNumber | .readChar | .readNumber => .console

/-- What a command takes. -/
def parameter : Mnemonic → Parameter
  | .push | .copy | .slide => .number
  | .mark | .call | .jump | .jumpIfZero | .jumpIfNegative => .label
  | _ => .nothing

/-- The title of a command in listings and messages. -/
def title : Mnemonic → String
  | .absent => "None"
  | .push => "Push"
  | .duplicate => "Duplicate"
  | .copy => "Copy"
  | .swap => "Swap"
  | .discard => "Discard"
  | .slide => "Slide"
  | .add => "Add"
  | .subtract => "Subtract"
  | .multiply => "Multiply"
  | .divide => "Division"
  | .modulo => "Modulo"
  | .store => "Store"
  | .retrieve => "Retrieve"
  | .mark => "Label"
  | .call => "Call"
  | .jump => "Jump"
  | .jumpIfZero => "JumpIfZero"
  | .jumpIfNegative => "JumpIfNegative"
  | .ret => "Return"
  | .exit => "Exit"
  | .writeChar => "WriteChar"
  | .writeNumber => "WriteNumber"
  | .readChar => "ReadChar"
  | .readNumber => "ReadNumber"
  | .count => "Count"

/-- A name that stands for a command, and is no placeholder. [SPEC Cmd.is_mnemonic] -/
def isCommand : Mnemonic → Bool
  | .absent | .count => false
  | _ => true

/-- A command that goes to a label, or may go there. A mark defines one instead.
[SPEC Cmd.references_label] -/
def refersToLabel : Mnemonic → Bool
  | .call | .jump | .jumpIfZero | .jumpIfNegative => true
  | _ => false

/-- The tokens that a command begins with; its argument, if it has one, follows them.
[SPEC PREFIXES] -/
def spelling? : Mnemonic → Option (List Token)
  | .absent => none
  | .push => some [.space, .space]
  | .copy => some [.space, .tab, .space]
  | .slide => some [.space, .tab, .lineFeed]
  | .duplicate => some [.space, .lineFeed, .space]
  | .swap => some [.space, .lineFeed, .tab]
  | .discard => some [.space, .lineFeed, .lineFeed]
  | .add => some [.tab, .space, .space, .space]
  | .subtract => some [.tab, .space, .space, .tab]
  | .multiply => some [.tab, .space, .space, .lineFeed]
  | .divide => some [.tab, .space, .tab, .space]
  | .modulo => some [.tab, .space, .tab, .tab]
  | .store => some [.tab, .tab, .space]
  | .retrieve => some [.tab, .tab, .tab]
  | .mark => some [.lineFeed, .space, .space]
  | .call => some [.lineFeed, .space, .tab]
  | .jump => some [.lineFeed, .space, .lineFeed]
  | .jumpIfZero => some [.lineFeed, .tab, .space]
  | .jumpIfNegative => some [.lineFeed, .tab, .tab]
  | .ret => some [.lineFeed, .tab, .lineFeed]
  | .exit => some [.lineFeed, .lineFeed, .lineFeed]
  | .writeChar => some [.tab, .lineFeed, .space, .space]
  | .writeNumber => some [.tab, .lineFeed, .space, .tab]
  | .readChar => some [.tab, .lineFeed, .tab, .space]
  | .readNumber => some [.tab, .lineFeed, .tab, .tab]
  | .count => none

theorem isCommand_eq_false_iff {mnemonic : Mnemonic} :
    mnemonic.isCommand = false ↔ mnemonic = .absent ∨ mnemonic = .count := by
  cases mnemonic <;> decide

/-- The placeholders take nothing. -/
theorem isCommand_of_takes {mnemonic : Mnemonic} (takes : mnemonic.parameter ≠ .nothing) :
    mnemonic.isCommand = true := by
  revert takes
  cases mnemonic <;> decide

/-- What takes a label and does not mark it refers to it. -/
theorem refersToLabel_iff {mnemonic : Mnemonic} :
    mnemonic.refersToLabel = true ↔ mnemonic.parameter = .label ∧ mnemonic ≠ .mark := by
  cases mnemonic <;> decide

/-- Exactly the placeholders have no spelling. -/
theorem spelling?_isSome (mnemonic : Mnemonic) :
    mnemonic.spelling?.isSome = mnemonic.isCommand := by
  cases mnemonic <;> rfl

end Mnemonic

end BlankCode
