/-
Module: BlankCode.Console
Purpose: What a machine talks to. A console has a state of its own; every call gives a reply, or
  a fault in its place, and the state after the call.
Main exports: Console.Output, Console.Query, Console.Fault, Console
-/
import BlankCode.Failure

namespace BlankCode

/-- What a machine hands to its console. -/
inductive Console.Output where
  | char (value : Int)
  | number (value : Int)
deriving DecidableEq, Repr

/-- What a machine asks its console for. -/
inductive Console.Query where
  | char
  | number
deriving DecidableEq, Repr

/-- Why a console gives no reply: it refuses by itself, or something of a certain kind went wrong
behind it. -/
inductive Console.Fault where
  | refused (message : String)
  | raised (kind text : String)
deriving DecidableEq, Repr

/-- A fault as the machine reports it. [SPEC VirtualMachine.call_console] -/
def Console.Fault.error : Console.Fault → ExecutionError
  | .refused message => .console message none
  | .raised kind text => .console (kind ++ ": " ++ text) (some kind)

/-- The calls that a console answers. -/
class Console (σ : Type) where
  write : σ → Console.Output → Except Console.Fault Unit × σ
  read : σ → Console.Query → Except Console.Fault Int × σ

end BlankCode
