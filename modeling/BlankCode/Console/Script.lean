/-
Module: BlankCode.Console.Script
Purpose: A console whose replies are laid down beforehand, and which keeps a record of all calls.
  When the replies run out, writing still succeeds and reading fails.
Main exports: Script, Script.Call
-/
import BlankCode.Console

namespace BlankCode

/-- A call that a console received. -/
inductive Script.Call where
  | write (output : Console.Output)
  | read (query : Console.Query)
deriving DecidableEq, Repr

/-- The replies still to be given, for each kind of call, and the calls received, latest first. -/
structure Script where
  charWrites : List (Except Console.Fault Unit) := []
  numberWrites : List (Except Console.Fault Unit) := []
  charReads : List (Except Console.Fault Int) := []
  numberReads : List (Except Console.Fault Int) := []
  received : List Script.Call := []

namespace Script

/-- The calls received, in order. -/
def calls (script : Script) : List Call :=
  script.received.reverse

/-- The reply of a read after the last one laid down. -/
def exhausted : Except Console.Fault Int :=
  .error (.raised "EOFError" "script exhausted")

/-- Records the call and gives the next reply for its kind. -/
def write (script : Script) (output : Console.Output) : Except Console.Fault Unit × Script :=
  let received := .write output :: script.received
  match output with
  | .char _ =>
    (script.charWrites.headD (.ok ()),
      { script with charWrites := script.charWrites.tail, received := received })
  | .number _ =>
    (script.numberWrites.headD (.ok ()),
      { script with numberWrites := script.numberWrites.tail, received := received })

/-- Records the call and gives the next reply for its kind. -/
def read (script : Script) (query : Console.Query) : Except Console.Fault Int × Script :=
  let received := .read query :: script.received
  match query with
  | .char =>
    (script.charReads.headD exhausted,
      { script with charReads := script.charReads.tail, received := received })
  | .number =>
    (script.numberReads.headD exhausted,
      { script with numberReads := script.numberReads.tail, received := received })

instance : Console Script where
  write := write
  read := read

end Script

end BlankCode
