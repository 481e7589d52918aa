/-
Module: BlankCode.Main
Purpose: The program: one command line carried out over the files and standard streams at hand.
  Input is taken line by line, when a program asks for it and has none left, and output appears at
  once.
Main exports: main
-/
import BlankCode.CommandLine.Session

namespace BlankCode.Main

/-- The number of an error, which comes from the system with either sign. -/
def errorNumber (code : UInt32) : Nat :=
  min code.toNat (0x100000000 - code.toNat)

/-- Why a file cannot be opened, by the error that the system gives. -/
def fileError (name : Text) : IO.Error → FileError
  | .inappropriateType _ code _ =>
    if errorNumber code = 20 then .notADirectory name else .isADirectory name
  | .invalidArgument _ code _ =>
    if errorNumber code = 36 then .nameTooLong name else .missing name
  | _ => .missing name

/-- The file of a name, as the system has it. -/
def openFile (name : Text) : IO (Except FileError Source) := do
  try
    let content ← IO.FS.readBinFile (String.ofList name.characters)
    return .ok (.whole (.bytes content.toList))
  catch error =>
    return .error (fileError name error)

/-- Shows the lines reported, and forgets them. -/
def showReports (session : Session) : IO Session := do
  let errors ← IO.getStderr
  errors.putStr (String.ofList session.reported.characters)
  errors.flush
  return { session with reports := [] }

/-- Shows what was printed, and forgets it. -/
def showPrinted (terminal : Terminal) : IO Terminal := do
  let streams := terminal.streams
  if streams.written.isEmpty then return terminal
  let output ← IO.getStdout
  output.putStr (String.ofList streams.output.characters)
  output.flush
  return ⟨{ streams with written := [] }⟩

/-- Takes a line of input when the next instruction reads and nothing is left to be read. -/
def supply (program : Program) (machine : Machine Terminal) : IO (Machine Terminal) := do
  let streams := machine.console.streams
  let reads := match machine.current program with
    | .ok instruction => instruction.operation == .readChar || instruction.operation == .readNumber
    | .error _ => false
  if reads && streams.unread.isEmpty then
    let line ← (← IO.getStdin).getLine
    let unread := (Text.ofString line).uniformLines
    return { machine with console := ⟨{ streams with unread := unread }⟩ }
  else return machine

/-- Runs a machine step by step, while it goes on and has steps left. -/
partial def drive (program : Program) (session : Session) (left : Option Nat)
    (machine : Machine Terminal) : IO (Machine.Ran Terminal Heap) := do
  if machine.isRunning && left ≠ some 0 then
    let supplied ← supply program machine
    let _ ← showReports (session.log "DEBUG" ((supplied.note? program).toList.map .ofString))
    let outcome := supplied.attempt program
    let next := outcome.settle program
    let shown ← showPrinted next.console
    if outcome.breaksOff program then return ⟨{ next with console := shown }, true⟩
    drive program session (left.map Nat.pred) { next with console := shown }
  else return ⟨machine, false⟩

/-- Shows a session and gives the exit code of its ending back. -/
def finish (ending : Ending) (session : Session) : IO UInt32 := do
  let _ ← showPrinted session.terminal
  let _ ← showReports session
  match ending with
  | .exit code => return code.toUInt32
  | .breakdown cause =>
    (← IO.getStderr).putStrLn cause.message
    return 1

/-- Carries out the words of the command line. -/
def carryOut (words : List Text) : IO UInt32 := do
  let named := match Request.ofWords words with
    | .proceed options => options.file
    | _ => []
  let opened ← if named.isEmpty then pure (.error (.missing named)) else openFile named
  match ({} : Session).stage (fun _ => opened) words with
  | .finished ending session => finish ending session
  | .ready program limit session =>
    let quiet ← showReports session
    let ran ← drive program quiet (limit.map Int.toNat) (Machine.start quiet.terminal)
    let (ending, after) := quiet.conclude limit ran
    finish ending after

end BlankCode.Main

/-- Carries out the command line. [SPEC main] -/
def main (words : List String) : IO UInt32 :=
  BlankCode.Main.carryOut (words.map BlankCode.Text.ofString)
