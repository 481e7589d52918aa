/-
Module: BlankCode.Failure
Purpose: Everything that can go wrong with a program, by the stage that notices it, and the one line
  that reports it. A report may have an integer of any size in it, and one with too many digits
  cannot be written: then there is no failure to be told of, and something else is raised in its
  place.
Main exports: ParseError, LinkError, ExecutionError, Failure, Failure.message, Defeat,
  ExecutionError.isTellable, ExecutionError.defeat
-/
import BlankCode.Numeral
import BlankCode.Token

namespace BlankCode

/-- Why a token stream is no program. -/
inductive ParseError where
  /-- A number in the stream that cannot stand where it does; the reason may be empty. -/
  | unexpectedByte (byte : Int) (state reason : String)
  | unexpectedEnd (during : String)
  | numberTooLarge
deriving DecidableEq, Repr

/-- Why a list of commands cannot be linked. Labels are given by their letters, and indices count
commands, except that the position of an undefined label counts instructions. -/
inductive LinkError where
  | invalidCommand (complaint : String)
  | duplicateLabel (label : String) (index previous : Int)
  | labelPastEnd (label : String)
  | undefinedLabel (label : String) (position : Int)
deriving DecidableEq, Repr

/-- Why a machine cannot go on. -/
inductive ExecutionError where
  | stackUnderflow
  | negativeAddress (action : String) (address : Int)
  | emptyCallStack
  | counterOutOfRange (index : Int)
  | divisionByZero (operation : String)
  /-- An argument that somebody finds invalid, in their own words. -/
  | invalidArgument (complaint : String)
  /-- An argument that the machine finds invalid: a count of values that is negative. -/
  | negativeCount (action : String) (count : Int)
  | invalidOperation
  /-- The console's own message, and the kind of the failure behind it when there is one. -/
  | console (message : String) (cause : Option String)
  | stepLimit (steps : Int)
deriving DecidableEq, Repr

/-- A failure of any stage. [SPEC WhitespaceError] -/
inductive Failure where
  | parse (error : ParseError)
  | link (error : LinkError)
  | execution (error : ExecutionError)
deriving DecidableEq, Repr

/-- The report of a parse error. [SPEC ParseError] -/
def ParseError.message : ParseError → String
  | .unexpectedByte byte state reason =>
    "unexpected byte " ++ Token.hexadecimal byte ++ " in state " ++ state ++
      (if reason.isEmpty then "" else ": " ++ reason)
  | .unexpectedEnd during => "unexpected end of input while reading " ++ during
  | .numberTooLarge => "number too large for implementation (>63 bits)"

/-- The report of a link error. [SPEC TranslationError] -/
def LinkError.message : LinkError → String
  | .invalidCommand complaint => complaint
  | .duplicateLabel label index previous =>
    "index " ++ toString index ++ ": duplicate label (from index " ++ toString previous ++ "): " ++
      label
  | .labelPastEnd label => "label points past end of code: " ++ label
  | .undefinedLabel label _ => "undefined label: " ++ label

/-- The report of an execution error. [SPEC ExecutionError] -/
def ExecutionError.message : ExecutionError → String
  | .stackUnderflow => "stack underflow"
  | .negativeAddress action address => action ++ " negative heap address: " ++ toString address
  | .emptyCallStack => "return with empty call stack"
  | .counterOutOfRange index => "program counter out of range: " ++ toString index
  | .divisionByZero operation => operation ++ " by zero"
  | .invalidArgument complaint => complaint
  | .negativeCount action count => action ++ " with negative count: " ++ toString count
  | .invalidOperation => "invalid opcode"
  | .console message _ => message
  | .stepLimit steps => "program did not halt within " ++ toString steps ++ " steps"

/-- The report of a failure. -/
def Failure.message : Failure → String
  | .parse error => error.message
  | .link error => error.message
  | .execution error => error.message

/-- What keeps a program from its result: a failure that the program is told of, or something of
another kind that is raised on the way and is nobody's failure. -/
inductive Defeat where
  | failure (failure : Failure)
  | raised (kind text : String)
deriving DecidableEq, Repr

/-- An integer that has to be written and has too many digits. -/
def Defeat.unwritable : Defeat :=
  .raised "ValueError" (Numeral.limitText "")

/-- The integer in the report of an execution error that may be of any size, if there is one. -/
def ExecutionError.quantity? : ExecutionError → Option Int
  | .negativeAddress _ address => some address
  | .counterOutOfRange index => some index
  | .negativeCount _ count => some count
  | .stepLimit steps => some steps
  | _ => none

/-- An execution error can be told if its report can be written. -/
def ExecutionError.isTellable (error : ExecutionError) : Bool :=
  error.quantity?.all Numeral.isWritable

theorem ExecutionError.isTellable_of_quantity? {error : ExecutionError} {value : Int}
    (reports : error.quantity? = some value) : error.isTellable = Numeral.isWritable value := by
  rw [isTellable, reports, Option.all_some]

/-- What comes of an execution error: the failure or, where the report cannot be written, the word
that an integer has too many digits. -/
def ExecutionError.defeat (error : ExecutionError) : Defeat :=
  if error.isTellable then .failure (.execution error) else .unwritable

end BlankCode
