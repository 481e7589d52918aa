/-
Module: BlankCode.Command
Purpose: Commands with their arguments, as they are read from a source or put together by a caller.
  A caller may give a command any argument; whether it suits the command is for linking to say.
Main exports: Label, Label.letters, Argument, Argument.kind, Command, Command.text, Command.agrees
-/
import BlankCode.Binary64
import BlankCode.Mnemonic
import BlankCode.Text.Quoted
import BlankCode.Text.Utf8

namespace BlankCode

/-- A label is told from others by its bytes alone. -/
abbrev Label := List UInt8

/-- A label for the eye: spaces and tabs as the letters S and T, all else as the text it encodes.
[SPEC format_label] -/
def Label.letters (label : Label) : String :=
  String.ofList ((Utf8.decodeLossy label).map fun
    | ' ' => 'S'
    | '\t' => 'T'
    | char => char)

/-- What may stand beside a mnemonic. -/
inductive Argument where
  | absent
  | integer (value : Int)
  | boolean (value : Bool)
  | label (bytes : Label)
  | text (content : Text)
  | float (number : Binary64)
deriving DecidableEq, Repr, Inhabited

namespace Argument

/-- The kind of an argument, as messages name it. -/
def kind : Argument → String
  | .absent => "NoneType"
  | .integer _ => "int"
  | .boolean _ => "bool"
  | .label _ => "bytes"
  | .text _ => "str"
  | .float _ => "float"

/-- The argument written out. -/
def written : Argument → String
  | .absent => "None"
  | .integer value => toString value
  | .boolean true => "True"
  | .boolean false => "False"
  | .label bytes => Quoted.bytes bytes
  | .text content => Quoted.text content
  | .float number => number.text

/-- The integer that an argument counts as: truth values count as one and zero. -/
def asInteger? : Argument → Option Int
  | .integer value => some value
  | .boolean true => some 1
  | .boolean false => some 0
  | _ => none

/-- Arguments agree when they are numbers of one value, or else the same. -/
def agrees (left right : Argument) : Bool :=
  match left.asInteger?, right.asInteger? with
  | some value, some other => value == other
  | some value, none =>
    match right with
    | .float number => number.equalsInt value
    | _ => false
  | none, some value =>
    match left with
    | .float number => number.equalsInt value
    | _ => false
  | none, none =>
    match left, right with
    | .float number, .float other => number.equals other
    | _, _ => left == right

end Argument

/-- A command of a program. [SPEC Command] -/
structure Command where
  mnemonic : Mnemonic
  argument : Argument := .absent
deriving DecidableEq, Repr, Inhabited

namespace Command

/-- The command's text: its title, followed in parentheses by the argument it takes. The argument of
a command that takes none is not shown. [SPEC Command.__str__] -/
def text (command : Command) : String :=
  match command.mnemonic.parameter, command.argument with
  | .nothing, _ => command.mnemonic.title
  | .label, .label bytes =>
    command.mnemonic.title ++ "(" ++ Quoted.string (Label.letters bytes) ++ ")"
  | _, argument => command.mnemonic.title ++ "(" ++ argument.written ++ ")"

/-- Commands agree when their names are the same and their arguments agree. -/
def agrees (left right : Command) : Bool :=
  left.mnemonic == right.mnemonic && left.argument.agrees right.argument

end Command

end BlankCode
