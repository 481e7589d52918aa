/-
Module: BlankCode.CommandLine.Session
Purpose: Command lines carried out one after the other over the same files and streams. A session
  holds what the input still has, what was printed and reported, how many handlers report what is
  logged, and how much is logged. Every command line that is accepted sees to it that there is a
  handler, and sets the level anew, so nothing but the input passes from one to the next. One that
  cannot even report why it fails breaks down, and the session with it.
Main exports: Level, Breakdown, Ending, Session, Session.start, Session.configure, Session.log,
  Session.invoke, Session.invokeAll
-/
import BlankCode.CommandLine.Directory
import BlankCode.CommandLine.Options
import BlankCode.CommandLine.Usage
import BlankCode.Console.Terminal
import BlankCode.Evaluation
import BlankCode.Machine.Trace

namespace BlankCode

/-- How much a session logs: everything, or nothing of what is ordinary. -/
inductive Level where
  | everything
  | warnings
deriving DecidableEq, Repr, Inhabited

/-- What a command line cannot cope with. -/
inductive Breakdown where
  /-- A program was to be run by a limit that came without a number. -/
  | voidLimit
  /-- The name of a file has no bytes, on account of a surrogate. -/
  | nameWithoutBytes
  /-- The name of a file has a null character in it, which no system takes. -/
  | nullInName
  /-- Something was raised that is no failure of the program. -/
  | raised (kind text : String)
deriving DecidableEq, Repr

/-- The words for a breakdown. -/
def Breakdown.message : Breakdown → String
  | .voidLimit => "the step limit has no number"
  | .nameWithoutBytes => "a file name cannot hold that surrogate"
  | .nullInName => "a file name cannot hold a null character"
  | .raised kind text => kind ++ ": " ++ text

/-- How a command line ends. -/
inductive Ending where
  | exit (code : Nat)
  | breakdown (cause : Breakdown)
deriving DecidableEq, Repr

/-- The streams of a session, and how it logs. -/
structure Session where
  /-- The input and what was printed. -/
  terminal : Terminal := {}
  /-- The lines reported, latest first. -/
  reports : List Text := []
  /-- How many handlers are installed. Each of them reports whatever is logged. -/
  handlers : Nat := 0
  level : Level := .warnings
deriving DecidableEq, Repr

/-- A text with its line ends made uniform: a carriage return becomes a line feed, and a line feed
right after a carriage return is dropped. -/
def Text.uniformLines (text : Text) : Text :=
  ((none :: text.map some).zip text).filterMap fun (before, point) =>
    if point = CodePoint.carriageReturn then some CodePoint.lineFeed
    else if point = CodePoint.lineFeed ∧ before = some CodePoint.carriageReturn then none
    else some point

/-- A line of the listing: the command's text in a column of its own, unless it is too long for
that, and its group. [SPEC execute] -/
def Command.listing (command : Command) : String :=
  let text := command.text
  text ++ String.ofList (List.replicate (24 - text.length) ' ') ++ command.mnemonic.group.text

namespace Session

/-- A session with an input. -/
def start (input : String) : Session :=
  { terminal := ⟨Streams.ofInput (Text.ofString input).uniformLines⟩ }

/-- The characters printed, in order. -/
def printed (session : Session) : String :=
  String.ofList session.terminal.streams.output.characters

/-- The lines reported, in order, each with its end. -/
def reported (session : Session) : Text :=
  session.reports.reverse.flatMap fun line => line ++ [.lineFeed]

/-- Prints lines. -/
def printLines (session : Session) (lines : List String) : Session :=
  let text := lines.flatMap fun line => Text.ofString (line ++ "\n")
  { session with terminal := ⟨session.terminal.streams.append text⟩ }

/-- Reports lines. -/
def report (session : Session) (lines : List Text) : Session :=
  { session with reports := lines.reverse ++ session.reports }

/-- Gets ready to log for a command line: installs a handler, unless there is one already, and sets
the level. [SPEC configure_logging] -/
def configure (session : Session) (verbose : Bool) : Session :=
  { session with
    handlers := if session.handlers = 0 then 1 else session.handlers
    level := if verbose then .everything else .warnings }

/-- Logs lines, if the session logs everything: each handler reports each of them. -/
def log (session : Session) (mark : String) (lines : List Text) : Session :=
  match session.level with
  | .everything =>
    session.report (lines.flatMap fun line =>
      List.replicate session.handlers (Text.ofString ("[" ++ mark ++ "] ") ++ line))
  | .warnings => session

/-- How far a command line has come before anything runs. -/
inductive Stage where
  /-- It has come to its end. -/
  | finished (ending : Ending) (session : Session)
  /-- A program is to be run, with a limit if one was given. -/
  | ready (program : Program) (limit : Option Int) (session : Session)

/-- Reports what kept a command line from its end. [SPEC main] -/
def giveUp (session : Session) (message : String) : Ending × Session :=
  (.exit 1, session.report [.ofString ("Error: " ++ message)])

/-- Ends a command line whose program has no result: reports a failure, and breaks down on all else.
[SPEC main] -/
def yield (session : Session) : Defeat → Ending × Session
  | .failure failure => session.giveUp failure.message
  | .raised kind text => (.breakdown (.raised kind text), session)

/-- Carries out accepted options on a source up to the running of a program: lists its commands, or
links them. [SPEC execute, load] -/
def prepare (session : Session) (options : Options) (source : Source) : Stage :=
  match source.parse with
  | .error defeat =>
    let (ending, last) := session.yield defeat
    .finished ending last
  | .ok commands =>
    let parsed := session.log "DEBUG"
      [.ofString ("parsed " ++ toString commands.length ++ " commands")]
    if options.list then .finished (.exit 0) (parsed.printLines (commands.map Command.listing))
    else
      match link commands with
      | .error error =>
        let (ending, last) := parsed.giveUp error.message
        .finished ending last
      | .ok program =>
        let count := toString program.size ++ " instructions"
        let linked := parsed.log "DEBUG"
          [.ofString ("translated " ++ count ++ ", " ++ toString program.labels ++ " labels, " ++
            toString program.forward ++ " fix-ups")]
        let running := linked.log "INFO"
          [Text.ofString "running " ++ options.file ++ Text.ofString (" (" ++ count ++ ")")]
        match options.maxSteps with
        | .unlimited => .ready program none running
        | .atMost steps => .ready program (some steps) running
        | .void => .finished (.breakdown .voidLimit) running

/-- Carries out a command line up to the running of a program. [SPEC main] -/
def stage (session : Session) (files : Files) (words : List Text) : Stage :=
  match Request.ofWords words with
  | .help => .finished (.exit 0) (session.printLines Usage.help)
  | .mistake message =>
    .finished (.exit 2) (session.report
      [.ofString Usage.synopsis, Text.ofString (Usage.programName ++ ": error: ") ++ message])
  | .proceed options =>
    let opened := session.configure options.verbose
    match Utf8.encodeName? options.file with
    | none => .finished (.breakdown .nameWithoutBytes) opened
    | some bytes =>
      if bytes.contains 0 then .finished (.breakdown .nullInName) opened
      else
        match files options.file with
        | .error error =>
          let (ending, last) := opened.giveUp error.message
          .finished ending last
        | .ok source => opened.prepare options source

/-- Takes the streams back from a machine and tells how its run ended. [SPEC execute, main] -/
def conclude (session : Session) (limit : Option Int) (ran : Machine.Ran Terminal Heap) :
    Ending × Session :=
  let after := { session with terminal := ran.machine.console }
  match ran.defeat? limit with
  | some defeat => after.yield defeat
  | none => (.exit 0, after)

/-- Runs a program on the session's streams. [SPEC execute] -/
def execute (session : Session) (program : Program) (limit : Option Int) (tried : Nat) :
    Option (Ending × Session) :=
  let first : Machine Terminal := Machine.start session.terminal
  match first.run program limit tried with
  | none => none
  | some ran =>
    let notes := match session.level with
      | .everything => first.trace program (match limit with
          | some steps => steps.toNat
          | none => tried)
      | .warnings => []
    some ((session.log "DEBUG" (notes.map .ofString)).conclude limit ran)

/-- Carries out one command line: how it ends, and the session after it. [SPEC main] -/
def invoke (session : Session) (files : Files) (words : List Text) (tried : Nat) :
    Option (Ending × Session) :=
  match session.stage files words with
  | .finished ending last => some (ending, last)
  | .ready program limit running => running.execute program limit tried

/-- Carries out command lines in order, up to the first that breaks down: how they end, and the
session after the last of them. -/
def invokeAll (session : Session) (files : Files) (tried : Nat) :
    List (List Text) → Option (List Ending × Session)
  | [] => some ([], session)
  | words :: rest =>
    match session.invoke files words tried with
    | none => none
    | some (.breakdown cause, last) => some ([.breakdown cause], last)
    | some (.exit code, next) =>
      match next.invokeAll files tried rest with
      | none => none
      | some (endings, last) => some (.exit code :: endings, last)

end Session

end BlankCode
