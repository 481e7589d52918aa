/-
Module: BlankCode.Proofs.Independence.Account
Purpose: What a command line does to the session it is carried out in, from its beginning to its
  end. It takes from the front of the input and prints behind what was printed, it does not install
  another handler where there is one, and if the session logs everything it adds to the log one line
  for each of its own headings and dispatches.
Main exports: Session.logged, Session.Advances, Independence.prepare_advances,
  Independence.stage_advances, Independence.execute_advances, Independence.invoke_advances
-/
import BlankCode.Proofs.Encoding
import BlankCode.Proofs.Verbosity

namespace BlankCode

/-! ### Terminals -/

namespace Terminal

/-- Whatever is handed over, a terminal's text to be read stays, and its text written grows. -/
theorem continues_write {terminal next : Terminal} {output : Console.Output}
    {reply : Except Console.Fault Unit} (handed : Console.write terminal output = (reply, next)) :
    terminal.streams.Continues next.streams := by
  have written : Console.write terminal.streams output =
    ((terminal.streams.write output).1, (terminal.streams.write output).2) := rfl
  have plain := Streams.continues_write written
  simp only [Console.write, write] at handed
  cases output with
  | number value =>
      cases handed
      exact plain
  | char value =>
      dsimp only at handed
      split at handed
      · split at handed
        · cases handed
          exact .refl _
        · cases handed
          exact plain
      · cases handed
        exact plain

theorem continues_read {terminal next : Terminal} {query : Console.Query}
    {reply : Except Console.Fault Int} (asked : Console.read terminal query = (reply, next)) :
    terminal.streams.Continues next.streams := by
  cases asked
  have read : Console.read terminal.streams query =
    ((terminal.streams.read query).1, (terminal.streams.read query).2) := rfl
  exact Streams.continues_read read

end Terminal

/-- A run goes on with the texts of its terminal. -/
theorem Machine.continues_run {program : Program} {limit : Option Int} {tried : Nat}
    {first : Machine Terminal} {ran : Ran Terminal Heap}
    (ends : first.run program limit tried = some ran) :
    first.console.streams.Continues ran.machine.console.streams := by
  have steps (machine : Machine Terminal)
      (before : first.console.streams.Continues machine.console.streams) :
      first.console.streams.Continues (machine.step program).console.streams := by
    apply before.trans
    apply console_step
      (motive := fun console : Terminal => machine.console.streams.Continues console.streams)
    · exact .refl _
    · exact Terminal.continues_write
    · exact Terminal.continues_read
  exact run_keeps steps (.refl _) ends

/-! ### Sessions -/

namespace Session

/-- The lines of the log that a session has reported, in order. -/
def logged (session : Session) : List Text :=
  session.reports.reverse.filter (Text.IsLogged ·)

/-- What a session keeps of a log. -/
def keeps (session : Session) (log : List Text) : List Text :=
  match session.level with
  | .everything => log
  | .warnings => []

/-- A session has gone on: it has used up input and printed, and it has logged some lines, if it
logs everything. How it logs has not changed. -/
structure Advances (log : List Text) (before after : Session) : Prop where
  streams : before.terminal.streams.Continues after.terminal.streams
  handlers : after.handlers = before.handlers
  level : after.level = before.level
  logged : after.logged = before.logged ++ before.keeps log

namespace Advances

variable {log : List Text} {before after : Session}

theorem refl (session : Session) : Advances [] session session where
  streams := .refl _
  handlers := rfl
  level := rfl
  logged := by
    unfold keeps
    cases session.level <;> exact (List.append_nil _).symm

theorem trans {more : List Text} {last : Session} (early : Advances log before after)
    (late : Advances more after last) : Advances (log ++ more) before last where
  streams := early.streams.trans late.streams
  handlers := late.handlers.trans early.handlers
  level := late.level.trans early.level
  logged := by
    rw [late.logged, early.logged, List.append_assoc]
    unfold keeps
    rw [early.level]
    cases before.level <;> rfl

/-- A line that is none of the log is reported and not logged. -/
theorem report (advances : Advances log before after) {line : Text} (other : ¬ line.IsLogged) :
    Advances log before (after.report [line]) :=
  { advances with logged := by rw [← advances.logged]; simp [Session.logged, Session.report, other] }

theorem giveUp (advances : Advances log before after) (message : String) :
    Advances log before (after.giveUp message).2 :=
  advances.report (Text.not_isLogged_error message)

theorem yield (advances : Advances log before after) (defeat : Defeat) :
    Advances log before (after.yield defeat).2 := by
  cases defeat with
  | failure failure => exact advances.giveUp failure.message
  | raised kind text => exact advances

/-- Another terminal takes the place of the one before. -/
theorem retake (advances : Advances log before after) {terminal : Terminal}
    (continues : after.terminal.streams.Continues terminal.streams) :
    Advances log before { after with terminal := terminal } :=
  { advances with streams := advances.streams.trans continues }

theorem printLines (advances : Advances log before after) (lines : List String) :
    Advances log before (after.printLines lines) := by
  apply advances.retake
  constructor
  · exact List.suffix_rfl
  · simp [Streams.output, Streams.append]

/-- What is logged under one of the two marks is reported once, if there is one handler. -/
theorem note (advances : Advances log before after) (handled : before.handlers = 1)
    {mark start : String} (marks : "[" ++ mark ++ "] " = start)
    (starts : start = "[DEBUG] " ∨ start = "[INFO] ") (lines : List Text) :
    Advances (log ++ lines.map (Text.ofString start ++ ·)) before (after.log mark lines) := by
  apply advances.trans
  cases level : after.level with
  | warnings =>
      rw [Session.log, level]
      exact { refl after with
        logged := by simp [keeps, level] }
  | everything =>
      rw [log_eq_report level (advances.handlers.trans handled) marks]
      refine { refl after with logged := ?_ }
      have all : (lines.map (Text.ofString start ++ ·)).filter (Text.IsLogged ·) =
          lines.map (Text.ofString start ++ ·) := by
        rw [List.filter_eq_self]
        intro line among
        obtain ⟨text, _, rfl⟩ := List.mem_map.mp among
        exact decide_eq_true (Text.isLogged_marked starts text)
      rw [keeps, level]
      simp only [Session.logged, Session.report, List.reverse_append, List.reverse_reverse,
        List.filter_append, all]

theorem debug (advances : Advances log before after) (handled : before.handlers = 1)
    (lines : List Text) :
    Advances (log ++ lines.map (Text.ofString "[DEBUG] " ++ ·)) before
      (after.log "DEBUG" lines) :=
  advances.note handled (by decide) (Or.inl rfl) lines

theorem info (advances : Advances log before after) (handled : before.handlers = 1)
    (lines : List Text) :
    Advances (log ++ lines.map (Text.ofString "[INFO] " ++ ·)) before (after.log "INFO" lines) :=
  advances.note handled (by decide) (Or.inr rfl) lines

end Advances

/-- A stage to which a session has gone on, and the program that is then to be run with its limit,
if there is one. By then nothing has been read or printed. -/
inductive Stage.Advances (log : List Text) (before : Session) :
    Option (Program × Option Int) → Stage → Prop where
  | finished (ending : Ending) {last : Session} (advances : Session.Advances log before last) :
      Advances log before none (.finished ending last)
  | ready {program : Program} (legible : program.Legible) (limit : Option Int) {running : Session}
      (advances : Session.Advances log before running)
      (untouched : running.terminal = before.terminal) :
      Advances log before (some (program, limit)) (.ready program limit running)

end Session

/-! ### Command lines -/

namespace Independence

open Session Verbosity

variable {session : Session} {options : Options} {files : Files}

/-- Up to the run, a session logs the headings of what a command line does. -/
theorem prepare_advances (handled : session.handlers = 1) (source : Source) :
    Stage.Advances (headings options source) session (job? options source)
      (session.prepare options source) := by
  unfold prepare headings job? Source.load
  cases parses : source.parse with
  | error defeat => exact .finished _ ((Advances.refl session).yield defeat)
  | ok commands =>
      have first := (Advances.refl session).debug handled
        [.ofString ("parsed " ++ toString commands.length ++ " commands")]
      dsimp only
      cases options.list with
      | true =>
          have noJob := first.printLines (commands.map Command.listing)
          cases link commands with
          | error error => exact .finished _ noJob
          | ok program => exact .finished _ noJob
      | false =>
          cases links : link commands with
          | error error => exact .finished _ (first.giveUp _)
          | ok program =>
              have second := first.debug handled
                [.ofString ("translated " ++ (toString program.size ++ " instructions") ++ ", " ++
                  toString program.labels ++ " labels, " ++ toString program.forward ++
                  " fix-ups")]
              have third := second.info handled
                [Text.ofString "running " ++ options.file ++
                  Text.ofString (" (" ++ (toString program.size ++ " instructions") ++ ")")]
              have legible := Program.legible_of_load (Linking.load_of_link parses links)
              cases options.maxSteps with
              | unlimited => exact .ready legible none third (by simp)
              | atMost steps => exact .ready legible (some steps) third (by simp)
              | void => exact .finished _ third

/-- The same of a whole command line, from where its session is set up. -/
theorem stage_advances {words : List Text} (asks : Request.ofWords words = .proceed options)
    (handled : (session.configure options.verbose).handlers = 1) :
    Stage.Advances (headed files options) (session.configure options.verbose)
      (due? files options) (session.stage files words) := by
  have start := Advances.refl (session.configure options.verbose)
  simp only [stage, asks, headed, due?, opened?]
  cases Utf8.encodeName? options.file with
  | none => exact .finished _ start
  | some bytes =>
      dsimp only
      cases bytes.contains 0 with
      | true => exact .finished _ start
      | false =>
          cases files options.file with
          | error error => exact .finished _ (start.giveUp _)
          | ok source => exact prepare_advances handled source

/-- The streams come back from a machine, and the failure that it ended with is reported. -/
theorem conclude_advances {log : List Text} {before : Session}
    (advances : Advances log before session) (limit : Option Int)
    {ran : Machine.Ran Terminal Heap}
    (continues : session.terminal.streams.Continues ran.machine.console.streams) :
    Advances log before (session.conclude limit ran).2 := by
  have after := advances.retake continues
  unfold conclude
  cases ran.defeat? limit with
  | none => exact after
  | some defeat => exact after.yield defeat

/-- A run logs the instructions that it dispatches. -/
theorem execute_advances (handled : session.handlers = 1) {program : Program}
    (legible : program.Legible) {limit : Option Int} {tried : Nat} {ending : Ending}
    {last : Session}
    (came : session.execute program limit tried = some (ending, last)) :
    Advances (dispatchedBy session.terminal tried (program, limit)) session last := by
  unfold execute at came
  dsimp only at came
  cases ends : (Machine.start session.terminal : Machine Terminal).run program limit tried with
  | none =>
      rw [ends] at came
      cases came
  | some ran =>
      have continues := Machine.continues_run ends
      have logs := (Advances.refl session).debug handled
        ((Machine.dispatches program ((limit.map Int.toNat).getD tried)
          (Machine.start session.terminal : Machine Terminal)).map (Text.ofString ·.text))
      rw [List.map_map] at logs
      rw [ends] at came
      obtain ⟨rfl, rfl⟩ := Prod.mk.inj (Option.some.inj came)
      refine conclude_advances ?_ limit (by rw [terminal_log]; exact continues)
      -- the notes of a run are made only if they are logged, so that the level decides what they are
      cases level : session.level with
      | warnings =>
          have silent (lines : List Text) : session.log "DEBUG" lines = session := by
            rw [log, level]
          rw [silent] at logs ⊢
          exact logs
      | everything =>
          rw [Machine.trace_of_legible legible, List.map_map]
          cases limit with
          | none => exact logs
          | some steps => exact logs

/-- What a command line logs in all, from where its session is set up. -/
theorem invoke_advances {words : List Text} (asks : Request.ofWords words = .proceed options)
    (handled : (session.configure options.verbose).handlers = 1) {tried : Nat} {ending : Ending}
    {last : Session} (came : session.invoke files words tried = some (ending, last)) :
    Advances (headed files options ++
        (due? files options).elim [] (dispatchedBy session.terminal tried))
      (session.configure options.verbose) last := by
  rw [invoke_eq_finish] at came
  generalize reached : session.stage files words = stage at came
  have staged : Stage.Advances (headed files options) _ (due? files options) _ :=
    stage_advances asks handled
  rw [reached] at staged
  generalize due? files options = job at staged ⊢
  cases staged with
  | finished ending advances =>
      cases came
      simpa using advances
  | ready legible limit advances untouched =>
      have ran := execute_advances (advances.handlers.trans handled) legible came
      rw [untouched] at ran
      exact advances.trans ran

end Independence

end BlankCode
