/-
Module: BlankCode.Instruction
Purpose: What a machine executes: an operation with a number beside it. The operations that make no
  use of the number may carry one all the same, and it tells instructions apart.
Main exports: Operation, Mnemonic.operation, Instruction, Instruction.text
-/
import BlankCode.Mnemonic

namespace BlankCode

/-- The operations of the machine. Performing the invalid one always fails. -/
inductive Operation where
  | invalid
  | push
  | duplicate
  | copy
  | swap
  | discard
  | slide
  | add
  | subtract
  | multiply
  | divide
  | modulo
  | store
  | retrieve
  | call
  | jump
  | jumpIfZero
  | jumpIfNegative
  | ret
  | exit
  | writeChar
  | writeNumber
  | readChar
  | readNumber
deriving DecidableEq, Repr, Inhabited

namespace Operation

/-- All operations. -/
def all : List Operation :=
  [.invalid, .push, .duplicate, .copy, .swap, .discard, .slide, .add, .subtract, .multiply, .divide,
    .modulo, .store, .retrieve, .call, .jump, .jumpIfZero, .jumpIfNegative, .ret, .exit, .writeChar,
    .writeNumber, .readChar, .readNumber]

/-- The operation's name. -/
def name : Operation → String
  | .invalid => "Invalid"
  | .push => "Push"
  | .duplicate => "Duplicate"
  | .copy => "Copy"
  | .swap => "Swap"
  | .discard => "Discard"
  | .slide => "Slide"
  | .add => "Add"
  | .subtract => "Subtract"
  | .multiply => "Multiply"
  | .divide => "Division"
  | .modulo => "Modulo"
  | .store => "Store"
  | .retrieve => "Retrieve"
  | .call => "Call"
  | .jump => "Jump"
  | .jumpIfZero => "JumpIfZero"
  | .jumpIfNegative => "JumpIfNegative"
  | .ret => "Return"
  | .exit => "Exit"
  | .writeChar => "WriteChar"
  | .writeNumber => "WriteNumber"
  | .readChar => "ReadChar"
  | .readNumber => "ReadNumber"

/-- The operations that make use of the number beside them. -/
def usesArgument : Operation → Bool
  | .push | .copy | .slide | .call | .jump | .jumpIfZero | .jumpIfNegative => true
  | _ => false

end Operation

/-- The operation of a command. A mark has none of its own, and the placeholders have none at all.
[SPEC OPERATIONS] -/
def Mnemonic.operation : Mnemonic → Operation
  | .absent | .mark | .count => .invalid
  | .push => .push
  | .duplicate => .duplicate
  | .copy => .copy
  | .swap => .swap
  | .discard => .discard
  | .slide => .slide
  | .add => .add
  | .subtract => .subtract
  | .multiply => .multiply
  | .divide => .divide
  | .modulo => .modulo
  | .store => .store
  | .retrieve => .retrieve
  | .call => .call
  | .jump => .jump
  | .jumpIfZero => .jumpIfZero
  | .jumpIfNegative => .jumpIfNegative
  | .ret => .ret
  | .exit => .exit
  | .writeChar => .writeChar
  | .writeNumber => .writeNumber
  | .readChar => .readChar
  | .readNumber => .readNumber

/-- An instruction. Jump targets are positions in the code, and may lie outside it.
[SPEC Instruction] -/
structure Instruction where
  operation : Operation
  argument : Int := 0
deriving DecidableEq, Repr, Inhabited

/-- The instruction's text; the number is shown when it is made use of.
[SPEC Nullary.__str__, Unary.__str__] -/
def Instruction.text (instruction : Instruction) : String :=
  if instruction.operation.usesArgument then
    instruction.operation.name ++ "(" ++ toString instruction.argument ++ ")"
  else instruction.operation.name

end BlankCode
