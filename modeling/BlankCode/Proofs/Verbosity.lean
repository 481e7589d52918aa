/-
Module: BlankCode.Proofs.Verbosity
Purpose: A verbose command line only observes. It ends as it would without the flag, it prints the
  same and reads as much, and when the lines of the log are taken out of what it reports, what is
  left is what it would report without the flag. The log has a line for each stage that the source
  gets through, and then a line for each instruction that the run dispatches.
Main exports: Session.Stage.Logs, Verbosity.headings, Verbosity.prepare_logs,
  Verbosity.execute_logs, Verbosity.invoke_logs, Verbosity.Observes, Verbosity.verbosity_observes
-/
import BlankCode.Proofs.Tally
import BlankCode.Proofs.Verbosity.Dispatch
import BlankCode.Proofs.Verbosity.Flag
import BlankCode.Proofs.Verbosity.Log

namespace BlankCode

/-! ### Stages -/

namespace Session

/-- Two stages at which command lines have come equally far, one of them with a log, and the program
that is then to be run with its limit, if there is one. By then nothing has been read or printed. -/
inductive Stage.Logs (terminal : Terminal) (log : List Text) :
    Option (Program × Option Int) → Stage → Stage → Prop where
  | finished (ending : Ending) {quiet loud : Session} (logs : Session.Logs log quiet loud) :
      Logs terminal log none (.finished ending quiet) (.finished ending loud)
  | ready {program : Program} (legible : program.Legible) (limit : Option Int)
      {quiet loud : Session} (logs : Session.Logs log quiet loud)
      (untouched : quiet.terminal = terminal) :
      Logs terminal log (some (program, limit)) (.ready program limit quiet)
        (.ready program limit loud)

end Session

namespace Verbosity

/-- The source that a command line gets to see. -/
def opened? (files : Files) (options : Options) : Option Source :=
  match Utf8.encodeName? options.file with
  | none => none
  | some bytes => if bytes.contains 0 then none else (files options.file).toOption

/-- What is logged of the reading of commands. -/
def parsed (commands : Nat) : Text :=
  .ofString "[DEBUG] " ++ .ofString ("parsed " ++ toString commands ++ " commands")

/-- What is logged of linking. -/
def translated (instructions labels forward : Nat) : Text :=
  .ofString "[DEBUG] " ++ .ofString ("translated " ++ (toString instructions ++ " instructions") ++
    ", " ++ toString labels ++ " labels, " ++ toString forward ++ " fix-ups")

/-- What is logged right before a run. -/
def running (file : Text) (instructions : Nat) : Text :=
  .ofString "[INFO] " ++ (.ofString "running " ++ file ++
    .ofString (" (" ++ (toString instructions ++ " instructions") ++ ")"))

/-- What is logged of an instruction that is dispatched. -/
def dispatched (dispatch : Machine.Dispatch) : Text :=
  .ofString "[DEBUG] " ++ .ofString dispatch.text

/-- What is logged before anything runs. A stage that fails does not log anything of itself. -/
def headings (options : Options) (source : Source) : List Text :=
  match source.parse with
  | .error _ => []
  | .ok commands =>
    parsed commands.length ::
      if options.list then []
      else
        match link commands with
        | .error _ => []
        | .ok program =>
          [translated program.size program.labels program.forward,
            running options.file program.size]

/-- The program that a source is to be run as, with the limit to run it by. -/
def job? (options : Options) (source : Source) : Option (Program × Option Int) :=
  match source.load, options.list, options.maxSteps with
  | .ok program, false, .unlimited => some (program, none)
  | .ok program, false, .atMost steps => some (program, some steps)
  | _, _, _ => none

variable {log : List Text} {quiet loud : Session} {options : Options} {files : Files}

open Session

theorem oneLine_parsed (commands : Nat) :
    OneLine ("parsed " ++ toString commands ++ " commands") :=
  .append (.append (.literal (by decide)) (oneLine_natural _)) (.literal (by decide))

theorem oneLine_count (instructions : Nat) : OneLine (toString instructions ++ " instructions") :=
  .append (oneLine_natural _) (.literal (by decide))

theorem oneLine_translated (instructions labels forward : Nat) :
    OneLine ("translated " ++ (toString instructions ++ " instructions") ++ ", " ++
      toString labels ++ " labels, " ++ toString forward ++ " fix-ups") := by
  have begun : OneLine ("translated " ++ (toString instructions ++ " instructions") ++ ", ") :=
    .append (.append (.literal (by decide)) (oneLine_count _)) (.literal (by decide))
  have labelled := (begun.append (oneLine_natural labels)).append
    (show OneLine " labels, " from .literal (by decide))
  exact (labelled.append (oneLine_natural forward)).append (.literal (by decide))

/-- A string in one line makes a line. -/
theorem unbroken_singleton {string : String} (isLine : OneLine string) :
    ∀ line ∈ [Text.ofString string], CodePoint.lineFeed ∉ line := by
  intro line among
  rw [List.mem_singleton.mp among, lineFeed_mem_ofString]
  exact isLine

theorem unbroken_running {file : Text} (unbroken : CodePoint.lineFeed ∉ file)
    (instructions : Nat) :
    ∀ line ∈ [Text.ofString "running " ++ file ++
        Text.ofString (" (" ++ (toString instructions ++ " instructions") ++ ")")],
      CodePoint.lineFeed ∉ line := by
  have start : OneLine "running " := .literal (by decide)
  have last : OneLine (" (" ++ (toString instructions ++ " instructions") ++ ")") :=
    .append (.append (.literal (by decide)) (oneLine_count instructions)) (.literal (by decide))
  intro line among
  rw [List.mem_singleton.mp among, List.mem_append, List.mem_append, lineFeed_mem_ofString,
    lineFeed_mem_ofString]
  rintro ((inStart | inFile) | inLast)
  · exact start inStart
  · exact unbroken inFile
  · exact last inLast

/-- Up to the run, a verbose command line does what a quiet one does, and keeps a log of the stages
that the source gets through. -/
theorem prepare_logs (logs : Session.Logs [] quiet loud)
    (unbroken : CodePoint.lineFeed ∉ options.file) (source : Source) :
    Stage.Logs quiet.terminal (headings options source) (job? options source)
      (quiet.prepare { options with verbose := false } source)
      (loud.prepare { options with verbose := true } source) := by
  unfold prepare headings job? Source.load
  cases parses : source.parse with
  | error defeat =>
      obtain ⟨sameEnding, after⟩ := logs.yield defeat fun failure isFailure =>
        Source.oneLine_of_parse (parses.trans (congrArg Except.error isFailure))
      simp only [sameEnding]
      exact .finished _ after
  | ok commands =>
      have first := logs.debug (unbroken_singleton (oneLine_parsed commands.length))
      dsimp only
      cases options.list with
      | true =>
          have noJob := first.printLines (commands.map Command.listing)
          cases link commands with
          | error error => exact .finished _ noJob
          | ok program => exact .finished _ noJob
      | false =>
          cases links : link commands with
          | error error =>
              exact .finished _ (first.giveUp (Linking.oneLine_of_link parses links))
          | ok program =>
              have counts := oneLine_translated program.size program.labels program.forward
              have second := first.debug (unbroken_singleton counts)
              have third := second.info (unbroken_running unbroken program.size)
              have legible := Program.legible_of_load (Linking.load_of_link parses links)
              cases options.maxSteps with
              | unlimited => exact .ready legible none third (by simp)
              | atMost steps => exact .ready legible (some steps) third (by simp)
              | void => exact .finished _ third

/-- What a command line logs before anything runs. -/
def headed (files : Files) (options : Options) : List Text :=
  (opened? files options).elim [] (headings options)

/-- What a command line is to run, with its limit. -/
def due? (files : Files) (options : Options) : Option (Program × Option Int) :=
  (opened? files options).bind (job? options)

/-- The same of a whole command line. -/
theorem stage_logs {words loudWords : List Text}
    (quietly : Request.ofWords words = .proceed { options with verbose := false })
    (loudly : Request.ofWords loudWords = .proceed { options with verbose := true })
    (unbroken : CodePoint.lineFeed ∉ options.file) (input : String) :
    Stage.Logs (start input).terminal (headed files options) (due? files options)
      ((start input).stage files words) ((start input).stage files loudWords) := by
  have logs : Session.Logs [] ((start input).configure false) ((start input).configure true) :=
    ⟨rfl, rfl, rfl, rfl, rfl, rfl, nofun⟩
  simp only [stage, quietly, loudly, headed, due?, opened?]
  cases Utf8.encodeName? options.file with
  | none => exact .finished _ logs
  | some bytes =>
      dsimp only
      cases bytes.contains 0 with
      | true => exact .finished _ logs
      | false =>
          cases files options.file with
          | error error => exact .finished _ (logs.giveUp error.oneLine)
          | ok source => exact prepare_logs logs unbroken source

/-! ### Runs -/

/-- Two command lines that have come to the same end, one of them with a log. -/
structure Ended (log : List Text) (quiet loud : Ending × Session) : Prop where
  ending : loud.1 = quiet.1
  logs : Session.Logs log quiet.2 loud.2

/-- What a run logs: a line for each instruction that it dispatches. -/
def dispatchedBy (terminal : Terminal) (tried : Nat) (job : Program × Option Int) : List Text :=
  (Machine.dispatches job.1 ((job.2.map Int.toNat).getD tried)
    (Machine.start terminal : Machine Terminal)).map dispatched

/-- The streams come back from a machine alike, and so does what it failed of. -/
theorem conclude_logs (logs : Session.Logs log quiet loud) {limit : Option Int}
    {ran : Machine.Ran Terminal Heap}
    (tells : ∀ failure, ran.defeat? limit = some (.failure failure) → OneLine failure.message) :
    Ended log (quiet.conclude limit ran) (loud.conclude limit ran) := by
  have after : Session.Logs log { quiet with terminal := ran.machine.console }
      { loud with terminal := ran.machine.console } := { logs with terminal := rfl }
  unfold conclude
  cases defeated : ran.defeat? limit with
  | none => exact ⟨rfl, after⟩
  | some defeat =>
      obtain ⟨sameEnding, ended⟩ := after.yield defeat fun failure isFailure =>
        tells failure (defeated.trans (congrArg some isFailure))
      exact ⟨sameEnding, ended⟩

/-- A run that is observed is the run that it would be anyway. -/
theorem execute_logs (logs : Session.Logs log quiet loud) {program : Program}
    (legible : program.Legible) (limit : Option Int) (tried : Nat) :
    Option.Rel (Ended (log ++ dispatchedBy quiet.terminal tried (program, limit)))
      (quiet.execute program limit tried) (loud.execute program limit tried) := by
  unfold execute
  rw [logs.terminal, logs.quietly, logs.loudly]
  dsimp only
  cases ends : (Machine.start quiet.terminal : Machine Terminal).run program limit tried with
  | none => exact .none
  | some ran =>
      have tells (failure : Failure) (defeated : ran.defeat? limit = some (.failure failure)) :
          OneLine failure.message := Machine.oneLine_of_defeat? Terminal.terse ends defeated
      have unbroken : ∀ line ∈ (Machine.dispatches program ((limit.map Int.toNat).getD tried)
          (Machine.start quiet.terminal : Machine Terminal)).map (Text.ofString ·.text),
            CodePoint.lineFeed ∉ line := by
        intro line among
        obtain ⟨dispatch, _, rfl⟩ := List.mem_map.mp among
        rw [lineFeed_mem_ofString]
        exact dispatch.oneLine_text
      have noted := logs.debug unbroken
      rw [logs.silent, List.map_map] at noted
      apply Option.Rel.some
      rw [Machine.trace_of_legible legible, List.map_map, logs.silent]
      cases limit with
      | none => exact conclude_logs noted tells
      | some steps => exact conclude_logs noted tells

/-- What a command line logs in all. -/
def logOf (files : Files) (options : Options) (input : String) (tried : Nat) : List Text :=
  headed files options ++
    (due? files options).elim [] (dispatchedBy (start input).terminal tried)

/-- Carries a stage to its end. -/
def finish (tried : Nat) : Stage → Option (Ending × Session)
  | .finished ending last => some (ending, last)
  | .ready program limit session => session.execute program limit tried

theorem invoke_eq_finish (session : Session) (files : Files) (words : List Text) (tried : Nat) :
    session.invoke files words tried = finish tried (session.stage files words) := by
  unfold invoke finish
  cases session.stage files words with
  | finished ending last => rfl
  | ready program limit running => rfl

/-- From the stage that was reached both go on alike. -/
theorem finish_logs {terminal : Terminal} {job : Option (Program × Option Int)}
    {quietStage loudStage : Stage} (logs : Stage.Logs terminal log job quietStage loudStage)
    (tried : Nat) :
    Option.Rel (Ended (log ++ job.elim [] (dispatchedBy terminal tried)))
      (finish tried quietStage) (finish tried loudStage) := by
  cases logs with
  | finished ending logs =>
      apply Option.Rel.some
      exact ⟨rfl, by simpa using logs⟩
  | ready legible limit logs untouched =>
      subst untouched
      exact execute_logs logs legible limit tried

/-- A verbose command line does what a quiet one does, and logs the stages that the source gets
through and the instructions that are dispatched. -/
theorem invoke_logs {words loudWords : List Text}
    (quietly : Request.ofWords words = .proceed { options with verbose := false })
    (loudly : Request.ofWords loudWords = .proceed { options with verbose := true })
    (unbroken : CodePoint.lineFeed ∉ options.file) (input : String) (tried : Nat) :
    Option.Rel (Ended (logOf files options input tried))
      ((start input).invoke files words tried) ((start input).invoke files loudWords tried) := by
  rw [invoke_eq_finish, invoke_eq_finish]
  exact finish_logs (stage_logs quietly loudly unbroken input) tried

/-! ### Main result -/

/-- The number of steps that a run may take: as many as are tried, unless a limit is set. A limit
without a number allows none. -/
def allowance (tried : Nat) : StepLimit → Nat
  | .unlimited => tried
  | .atMost steps => steps.toNat
  | .void => 0

/-- A command line that only observes, next to the one that it observes. They end alike and leave
the same streams, with what was printed and what of the input is unread, and without the lines of
the log they have reported the same. -/
structure Observes (quiet loud : Ending × Session) : Prop where
  ending : loud.1 = quiet.1
  terminal : loud.2.terminal = quiet.2.terminal
  reported : loud.2.reported.withoutLog = quiet.2.reported

theorem Ended.observes {quiet loud : Option (Ending × Session)}
    (ended : Option.Rel (Ended log) quiet loud) : Option.Rel Observes quiet loud := by
  cases ended with
  | none => exact .none
  | some ended =>
      apply Option.Rel.some
      exact ⟨ended.ending, ended.logs.terminal, ended.logs.reported⟩

theorem Ended.logged {quiet : Option (Ending × Session)} {loud : Ending × Session}
    (ended : Option.Rel (Ended log) quiet (some loud)) :
    loud.2.reported.logged = log.map (· ++ [.lineFeed]) := by
  cases ended with
  | some ended => exact ended.logs.logged

theorem Observes.of_rel {quiet : Ending × Session} {loud : Option (Ending × Session)}
    (alike : Option.Rel Observes (some quiet) loud) : ∃ result, loud = some result ∧
      Observes quiet result := by
  cases alike with
  | some observes => exact ⟨_, rfl, observes⟩

/-- A file with a source that loads, to be run and not only to be listed. -/
structure Loads (files : Files) (options : Options) (source : Source) (commands : List Command)
    (program : Program) : Prop where
  opened : opened? files options = some source
  parses : source.parse = .ok commands
  links : link commands = .ok program
  unlisted : options.list = false

/-- The log of a source that loads: a line for each stage, and a line for each instruction that is
dispatched. -/
theorem Loads.logOf_eq {source : Source} {commands : List Command} {program : Program}
    (loads : Loads files options source commands program) (input : String) (tried : Nat) :
    logOf files options input tried =
      parsed commands.length ::
        translated program.size program.labels program.forward ::
          running options.file program.size ::
            (Machine.dispatches program (allowance tried options.maxSteps)
              (Machine.start (start input).terminal : Machine Terminal)).map dispatched := by
  have loaded := Linking.load_of_link loads.parses loads.links
  unfold logOf headed due?
  rw [loads.opened]
  unfold headings job?
  simp only [Option.elim_some, Option.bind_some, loads.parses, loads.links, loads.unlisted, loaded]
  cases options.maxSteps with
  | unlimited => rfl
  | atMost steps => rfl
  | void => rfl

/-- A verbose command line only observes. Whether it runs to its end, how it ends, what it prints
and what it reads are as without the flag, and so is what it reports, but for the lines of the log.
For a source that loads these are the numbers of commands, of instructions, of labels and of
references that stand before their mark, then the file that is run, and then each instruction that
the run dispatches, with where it stands and what the stack holds at that time. -/
theorem verbosity_observes {words loudWords : List Text}
    (quietly : Request.ofWords words = .proceed { options with verbose := false })
    (loudly : Request.ofWords loudWords = .proceed { options with verbose := true })
    (unbroken : CodePoint.lineFeed ∉ options.file) (files : Files) (input : String) (tried : Nat) :
    Request.ofWords (Text.ofString "-v" :: words) = .proceed { options with verbose := true } ∧
    Option.Rel Observes ((start input).invoke files words tried)
      ((start input).invoke files loudWords tried) ∧
    ∀ {source : Source} {commands : List Command} {program : Program},
      Loads files options source commands program →
        commands.length = program.size + program.labels ∧
        program.labels = Linking.markCount commands ∧
        program.forward = Linking.forwardReferences commands ∧
        ∀ ending last, (start input).invoke files loudWords tried = some (ending, last) →
          last.reported.logged =
            (parsed commands.length ::
              translated program.size program.labels program.forward ::
                running options.file program.size ::
                  (Machine.dispatches program (allowance tried options.maxSteps)
                    (Machine.start (start input).terminal : Machine Terminal)).map dispatched).map
              (· ++ [.lineFeed]) := by
  have ended : Option.Rel (Ended (logOf files options input tried)) _ _ :=
    invoke_logs quietly loudly unbroken input tried
  refine ⟨?_, ?_, ?_⟩
  · rw [Request.ofWords_verbose, quietly]
    rfl
  · exact Ended.observes ended
  · intro source commands program loads
    obtain ⟨counted, labelled, awaited⟩ := Linking.tally_of_link loads.links
    refine ⟨counted, labelled, awaited, ?_⟩
    intro ending last came
    rw [came] at ended
    rw [Ended.logged ended, loads.logOf_eq input tried]

/-- A jump over a number, to a division by zero. -/
def leap : Source :=
  .whole (.text (.ofString "   \t\n\n \n\t\n   \t\t\n\n  \t\n    \n\t \t "))

def leapOptions : Options where
  file := .ofString "leap.ws"

def leapCommands : List Command :=
  [⟨.push, .integer 1⟩, ⟨.jump, .label [0x09]⟩, ⟨.push, .integer 3⟩, ⟨.mark, .label [0x09]⟩,
    ⟨.push, .integer 0⟩, ⟨.divide, .absent⟩]

def leapCode : Program where
  code := #[⟨.push, 1⟩, ⟨.jump, 3⟩, ⟨.push, 3⟩, ⟨.push, 0⟩, ⟨.divide, 0⟩]
  labels := 1
  forward := 1

/-- One reference waits for its mark, the number is not dispatched, and the division is, for all
that it fails. -/
theorem verbosity_observes_leap :
    let files := Directory.open? ⟨[(.ofString "leap.ws", leap)]⟩
    let words := [Text.ofString "leap.ws"]
    let loudWords := [Text.ofString "leap.ws", Text.ofString "-v"]
    ∃ quiet loud, (start "").invoke files words 9 = some (.exit 1, quiet) ∧
      (start "").invoke files loudWords 9 = some (.exit 1, loud) ∧
      loud.reported.withoutLog = quiet.reported ∧
      quiet.reported = Text.ofString "Error: division by zero\n" ∧
      loud.reported.logged =
        ["[DEBUG] parsed 6 commands\n",
          "[DEBUG] translated 5 instructions, 1 labels, 1 fix-ups\n",
          "[INFO] running leap.ws (5 instructions)\n",
          "[DEBUG] 0: Push(1) stack=[]\n",
          "[DEBUG] 1: Jump(3) stack=[1]\n",
          "[DEBUG] 3: Push(0) stack=[1]\n",
          "[DEBUG] 4: Division stack=[1, 0]\n"].map Text.ofString := by
  intro files words loudWords
  have quietly : Request.ofWords words =
      .proceed { leapOptions with verbose := false } := by decide +kernel
  have loudly : Request.ofWords loudWords =
      .proceed { leapOptions with verbose := true } := by decide +kernel
  have unbroken : CodePoint.lineFeed ∉ leapOptions.file := by decide +kernel
  have loads : Loads files leapOptions leap leapCommands leapCode := {
    opened := by decide +kernel
    parses := rfl
    links := rfl
    unlisted := rfl }
  have failed : ∃ quiet, (start "").invoke files words 9 = some (.exit 1, quiet) ∧
      quiet.reported = Text.ofString "Error: division by zero\n" := by
    refine ⟨_, rfl, ?_⟩
    decide +kernel
  obtain ⟨quiet, came, reported⟩ := failed
  obtain ⟨-, alike, log⟩ := verbosity_observes quietly loudly unbroken files "" 9
  rw [came] at alike
  obtain ⟨⟨ending, loud⟩, loudCame, observes⟩ := Observes.of_rel alike
  obtain rfl : ending = .exit 1 := observes.ending
  obtain ⟨-, -, -, logged⟩ := log loads
  refine ⟨quiet, loud, came, loudCame, observes.reported, reported, ?_⟩
  rw [logged _ _ loudCame]
  decide +kernel

end Verbosity

end BlankCode
