/-
Module: BlankCode.Proofs.Independence.Behind
Purpose: What was shown before makes no difference to what is shown then. A command line that is
  carried out in a session goes the same way in one that had printed and reported other things
  before, as long as both are set up to log alike, and what it shows comes behind those.
Main exports: Streams.behind, Terminal.behind, Machine.loop_mapConsole, Machine.run_mapConsole,
  Machine.traceFrom_mapConsole, Machine.dispatches_mapConsole, Session.behind,
  Session.prepare_behind, Session.stage_behind, Session.execute_behind
-/
import BlankCode.CommandLine.Session
import BlankCode.Proofs.Record
import BlankCode.Proofs.Verbosity.Dispatch

namespace BlankCode

/-! ### Machines -/

/-- Streams to which a text, given latest first, had been written before. -/
def Streams.behind (earlier : Text) (streams : Streams) : Streams :=
  { streams with written := streams.written ++ earlier }

/-- A terminal on which a text had been written before. -/
def Terminal.behind (earlier : Text) (terminal : Terminal) : Terminal :=
  ⟨terminal.streams.behind earlier⟩

theorem Streams.write_behind (earlier : Text) (streams : Streams) (output : Console.Output) :
    (streams.behind earlier).write output =
      Prod.map id (behind earlier) (streams.write output) := by
  cases output with
  | char value =>
      simp only [write]
      cases CodePoint.ofInt? value with
      | none => rfl
      | some point => rfl
  | number value =>
      simp only [write]
      split
      · simp [append, behind]
      · rfl

/-- What is accepted or refused, and what is replied, does not depend on what was written before. -/
theorem Terminal.mirrors_behind (earlier : Text) (terminal : Terminal) :
    Console.Mirrors (behind earlier) terminal where
  write := by
    intro output
    simp only [Console.write, write, behind, Streams.write_behind]
    cases output with
    | number value => rfl
    | char value =>
        dsimp only
        cases CodePoint.ofInt? value with
        | none => rfl
        | some point =>
            dsimp only
            split
            · rfl
            · rfl
  read := by
    intro query
    rcases terminal with ⟨⟨unread, written⟩⟩
    cases query with
    | char | number => cases unread <;> rfl

namespace Machine

variable {σ τ μ : Type} [Console σ] [Console τ] [Memory μ] {image : σ → τ}

/-- What comes of a run, with another console in the place of the machine's own. -/
def Ran.mapConsole (image : σ → τ) (ran : Ran σ μ) : Ran τ μ :=
  ⟨ran.machine.mapConsole image, ran.brokeOff⟩

/-- A loop is the same with the image of the console in its place. -/
theorem loop_mapConsole (mirrors : ∀ console, Console.Mirrors image console) (program : Program)
    (count : Nat) :
    ∀ machine : Machine σ μ,
      (machine.mapConsole image).loop program count =
        (machine.loop program count).mapConsole image := by
  induction count with
  | zero =>
      intro machine
      rfl
  | succ count ih =>
      intro machine
      have mirrored (instruction : Instruction)
          (_ : program.fetch? machine.counter = some instruction) :
          machine.Mirrored image instruction := mirrored_of_mirrors mirrors instruction
      rw [loop_succ, loop_succ, breaksOff_mapConsole fun _ => mirrored,
        step_mapConsole fun _ => mirrored, ih]
      split <;> rfl

/-- So is a run. -/
theorem run_mapConsole (mirrors : ∀ console, Console.Mirrors image console) (program : Program)
    (limit : Option Int) (tried : Nat) (machine : Machine σ μ) :
    (machine.mapConsole image).run program limit tried =
      (machine.run program limit tried).map (Ran.mapConsole image) := by
  rw [run_eq, run_eq, loop_mapConsole mirrors]
  generalize machine.loop program _ = ran
  have same : (ran.mapConsole image).goesOn = ran.goesOn := rfl
  dsimp only
  rw [same]
  split <;> rfl

/-- The same is noted of it. -/
theorem traceFrom_mapConsole (mirrors : ∀ console, Console.Mirrors image console)
    (program : Program) (count : Nat) :
    ∀ (notes : List String) (machine : Machine σ μ),
      traceFrom program notes count (machine.mapConsole image) =
        traceFrom program notes count machine := by
  induction count with
  | zero =>
      intro notes machine
      rfl
  | succ count ih =>
      intro notes machine
      have mirrored (instruction : Instruction)
          (_ : program.fetch? machine.counter = some instruction) :
          machine.Mirrored image instruction := mirrored_of_mirrors mirrors instruction
      have noted : (machine.mapConsole image).note? program = machine.note? program := rfl
      rw [traceFrom, traceFrom, noted, breaksOff_mapConsole fun _ => mirrored,
        step_mapConsole fun _ => mirrored]
      cases machine.note? program with
      | none => rfl
      | some note =>
          dsimp only
          rw [ih]

/-- The same instructions are dispatched. -/
theorem dispatches_mapConsole (mirrors : ∀ console, Console.Mirrors image console)
    (program : Program) (steps : Nat) (machine : Machine σ μ) :
    dispatches program steps (machine.mapConsole image) = dispatches program steps machine := by
  apply List.filterMap_congr
  intro step _
  rw [iterate_step_mapConsole mirrors]
  rfl

end Machine

/-! ### Command lines -/

namespace Session

/-- A session that has shown what it has shown behind what another one had. -/
def behind (earlier session : Session) : Session :=
  { session with
    terminal := session.terminal.behind earlier.terminal.streams.written
    reports := session.reports ++ earlier.reports }

/-- A stage that is reached in such a session. -/
def Stage.behind (earlier : Session) : Stage → Stage
  | .finished ending last => .finished ending (earlier.behind last)
  | .ready program limit running => .ready program limit (earlier.behind running)

variable {earlier session : Session}

theorem report_behind (lines : List Text) :
    (earlier.behind session).report lines = earlier.behind (session.report lines) := by
  simp [report, behind]

theorem printLines_behind (lines : List String) :
    (earlier.behind session).printLines lines = earlier.behind (session.printLines lines) := by
  simp [printLines, behind, Terminal.behind, Streams.behind, Streams.append]

theorem log_behind (mark : String) (lines : List Text) :
    (earlier.behind session).log mark lines = earlier.behind (session.log mark lines) := by
  rcases session with ⟨terminal, reports, handlers, level⟩
  cases level with
  | everything => exact report_behind _
  | warnings => rfl

theorem giveUp_behind (message : String) :
    (earlier.behind session).giveUp message =
      Prod.map id (earlier.behind) (session.giveUp message) :=
  congrArg (Ending.exit 1, ·) (report_behind _)

theorem yield_behind (defeat : Defeat) :
    (earlier.behind session).yield defeat =
      Prod.map id (earlier.behind) (session.yield defeat) := by
  cases defeat with
  | failure failure => exact giveUp_behind _
  | raised kind text => rfl

/-- Up to the run, what was shown before makes no difference. -/
theorem prepare_behind (options : Options) (source : Source) :
    (earlier.behind session).prepare options source =
      (session.prepare options source).behind earlier := by
  unfold prepare
  simp only [log_behind, printLines_behind, giveUp_behind, yield_behind]
  cases source.parse with
  | error error => rfl
  | ok commands =>
      dsimp only
      cases options.list with
      | true => rfl
      | false =>
          cases link commands with
          | error error => rfl
          | ok program => cases options.maxSteps <;> rfl

/-- The same of a whole command line, if it is set up to log alike. -/
theorem stage_behind {shared : Session} {files : Files} {words : List Text} {options : Options}
    (asks : Request.ofWords words = .proceed options)
    (alike : shared.configure options.verbose =
      earlier.behind (session.configure options.verbose)) :
    shared.stage files words = (session.stage files words).behind earlier := by
  simp only [stage, asks, alike]
  cases Utf8.encodeName? options.file with
  | none => rfl
  | some bytes =>
      dsimp only
      cases bytes.contains 0 with
      | true => rfl
      | false =>
          cases files options.file with
          | error error =>
              simp only [giveUp_behind]
              rfl
          | ok source => exact prepare_behind options source

theorem conclude_behind (limit : Option Int) (ran : Machine.Ran Terminal Heap) :
    (earlier.behind session).conclude limit
        (ran.mapConsole (Terminal.behind earlier.terminal.streams.written)) =
      Prod.map id (earlier.behind) (session.conclude limit ran) := by
  have same : (ran.mapConsole (Terminal.behind earlier.terminal.streams.written)).defeat? limit =
      ran.defeat? limit := rfl
  unfold conclude
  rw [same]
  cases ran.defeat? limit with
  | none => rfl
  | some defeat =>
      exact @yield_behind earlier { session with terminal := ran.machine.console } defeat

/-- A run goes as it would go, and so does the log of it. -/
theorem execute_behind (program : Program) (limit : Option Int) (tried : Nat) :
    (earlier.behind session).execute program limit tried =
      (session.execute program limit tried).map (Prod.map id (earlier.behind)) := by
  have mirrors := Terminal.mirrors_behind earlier.terminal.streams.written
  have first : (Machine.start (earlier.behind session).terminal : Machine Terminal) =
      (Machine.start session.terminal : Machine Terminal).mapConsole
        (Terminal.behind earlier.terminal.streams.written) := rfl
  have level : (earlier.behind session).level = session.level := rfl
  unfold execute
  simp only [first, level, Machine.run_mapConsole mirrors, Machine.trace,
    Machine.traceFrom_mapConsole mirrors, log_behind]
  cases (Machine.start session.terminal : Machine Terminal).run program limit tried with
  | none => rfl
  | some ran => exact congrArg some (conclude_behind limit ran)

end Session

end BlankCode
