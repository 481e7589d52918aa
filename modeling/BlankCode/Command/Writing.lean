/-
Module: BlankCode.Command.Writing
Purpose: Writing commands back as source. Numbers are written with no leading zeros and zero with no
  digit at all; labels are written as they are.
Main exports: WriteError, writeNumber, writeLabel, Command.write, writeAll
-/
import BlankCode.Command.Reading

namespace BlankCode

/-- Why a command cannot be written. -/
inductive WriteError where
  | numberTooLarge
  | noSpelling (mnemonic : Mnemonic)
  | notANumber (argument : Argument)
  | notALabel (argument : Argument)
deriving DecidableEq, Repr

/-- The binary digits of a number, the most significant first. Zero has none. -/
def binaryDigits (value : Nat) : List Token :=
  if value = 0 then []
  else (Nat.toDigits 2 value).map fun digit => if digit = '1' then .tab else .space

/-- The tokens of a number: sign, digits, line feed. -/
def numberTokens (value : Int) : List Token :=
  (if value < 0 then .tab else .space) :: (binaryDigits value.natAbs ++ [.lineFeed])

/-- A number as source. [SPEC encode_number] -/
def writeNumber (value : Int) : Except WriteError (List UInt8) :=
  if value.natAbs < Nat.pow 2 literalBits then .ok ((numberTokens value).map Token.byte)
  else .error .numberTooLarge

/-- A label as source. [SPEC encode_label] -/
def writeLabel (label : Label) : List UInt8 :=
  label ++ [Token.lineFeed.byte]

/-- The argument of a command as source. -/
def Command.writeArgument (command : Command) : Except WriteError (List UInt8) :=
  match command.mnemonic.parameter with
  | .nothing => .ok []
  | .number =>
    match command.argument.asInteger? with
    | some value => writeNumber value
    | none => .error (.notANumber command.argument)
  | .label =>
    match command.argument with
    | .label bytes => .ok (writeLabel bytes)
    | argument => .error (.notALabel argument)

/-- A command as source. [SPEC encode_command] -/
def Command.write (command : Command) : Except WriteError (List UInt8) :=
  match command.mnemonic.spelling? with
  | none => .error (.noSpelling command.mnemonic)
  | some spelling =>
    match command.writeArgument with
    | .ok argument => .ok (spelling.map Token.byte ++ argument)
    | .error error => .error error

/-- Commands as source, or the error of the first that cannot be written. [SPEC encode] -/
def writeAll (commands : List Command) : Except WriteError (List UInt8) :=
  (commands.mapM Command.write).map List.flatten

end BlankCode
