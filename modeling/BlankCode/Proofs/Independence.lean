/-
Module: BlankCode.Proofs.Independence
Purpose: Command lines that are carried out in one session do not get into each other's way. Each of
  them ends, prints and reports as it would in a fresh session whose input is what the ones before
  it have left unread. What passes from one to the next is that input alone: the handler that the
  first of them installs is there for the others, so that none installs another one, and the level
  is set anew before anything is logged.
Main exports: Session.remaining, Session.Settled, Independence.invoke_behind, Independence.Reached,
  Independence.Adds, Independence.loggedBy, Independence.adds_invoke,
  Independence.account, Independence.aloneAll, Independence.Transcribes,
  Independence.calls_independent
-/
import BlankCode.Proofs.Agreement
import BlankCode.Proofs.Independence.Account
import BlankCode.Proofs.Independence.Behind

namespace BlankCode

/-! ### Input -/

/-- With line ends made uniform, a text has no other points than before, but for line feeds. -/
theorem Text.mem_uniformLines {text : Text} {point : CodePoint}
    (member : point ∈ text.uniformLines) :
    point ≠ .carriageReturn ∧ (point = .lineFeed ∨ point ∈ text) := by
  obtain ⟨⟨before, given⟩, isThere, became⟩ := List.mem_filterMap.mp member
  have isGiven := (List.of_mem_zip isThere).2
  dsimp only at became
  split at became
  · cases became
    exact ⟨by decide, Or.inl rfl⟩
  · rename_i noReturn
    split at became
    · cases became
    · cases became
      exact ⟨noReturn, Or.inr isGiven⟩

namespace Session

variable {session : Session} {files : Files} {words : List Text} {tried : Nat}

/-- The input that is left unread. -/
def remaining (session : Session) : String :=
  String.ofList session.terminal.streams.unread.characters

/-- A session in which command lines may have been carried out before: at most one handler has been
installed, and the input that is left is what is left of an encoded text with uniform line ends. -/
structure Settled (session : Session) : Prop where
  handled : session.handlers ≤ 1
  uniform : CodePoint.carriageReturn ∉ session.terminal.streams.unread
  encodable : session.terminal.streams.unread.Encodable

theorem settled_start (input : String) : (start input).Settled where
  handled := Nat.zero_le 1
  uniform := fun member => (Text.mem_uniformLines member).1 rfl
  encodable := by
    intro point member
    rcases (Text.mem_uniformLines member).2 with rfl | isGiven
    · decide
    · obtain ⟨char, _, rfl⟩ := List.mem_map.mp isGiven
      exact CodePoint.not_isSurrogate_ofChar char

namespace Settled

/-- What is left of the input can be given to a fresh session as it is. -/
theorem unread_start (settled : session.Settled) :
    (start session.remaining).terminal.streams.unread = session.terminal.streams.unread := by
  have same : Text.ofString session.remaining = session.terminal.streams.unread :=
    Text.ofString_characters settled.encodable
  show (Text.ofString session.remaining).uniformLines = _
  rw [same, Text.uniformLines_of_not_mem settled.uniform]

theorem remaining_start (settled : session.Settled) :
    (start session.remaining).remaining = session.remaining :=
  congrArg (fun unread => String.ofList (Text.characters unread)) settled.unread_start

theorem terminal_eq (settled : session.Settled) :
    session.terminal =
      (start session.remaining).terminal.behind session.terminal.streams.written := by
  have unread := settled.unread_start
  rcases session with ⟨⟨⟨left, written⟩⟩, reports, handlers, level⟩
  rw [Terminal.behind, Streams.behind, unread]
  rfl

/-- A session goes on like a fresh one behind it, except that its handler may be installed and its
level set already. -/
theorem eq_behind (settled : session.Settled) :
    session =
      { session.behind (start session.remaining) with
        handlers := session.handlers
        level := session.level } := by
  rw [behind, ← settled.terminal_eq]
  rfl

/-- Once a command line has set it up to log, it is like a fresh session in that, too. -/
theorem configure_eq (settled : session.Settled) (verbose : Bool) :
    session.configure verbose = session.behind ((start session.remaining).configure verbose) := by
  have single : (if session.handlers = 0 then 1 else session.handlers) = 1 := by
    have handled := settled.handled
    split <;> omega
  rw [configure, single, behind, configure]
  dsimp only
  rw [← settled.terminal_eq]
  rfl

theorem handlers_configure (settled : session.Settled) (verbose : Bool) :
    (session.configure verbose).handlers = 1 := by
  rw [settled.configure_eq]
  rfl

end Settled

end Session

/-! ### Calls -/

namespace Independence

open Session Verbosity

variable {session : Session} {files : Files} {words : List Text} {tried : Nat}

/-- What a call comes to in a session that others were made in before, next to what it comes to on
its own. It ends in the same way, what it prints and reports comes behind what was printed and
reported before, and it leaves the same of the input. -/
structure Adds (before : Session) (alone together : Ending × Session) : Prop where
  ending : together.1 = alone.1
  printed : together.2.printed = before.printed ++ alone.2.printed
  reported : together.2.reported = before.reported ++ alone.2.reported
  remaining : together.2.remaining = alone.2.remaining

/-- Neither the handlers nor the level of a session are seen in what it has shown. -/
theorem adds_behind (before : Session) (ending : Ending) (alone : Session) (handlers : Nat)
    (level : Level) :
    Adds before (ending, alone)
      (ending, { before.behind alone with handlers := handlers, level := level }) where
  ending := rfl
  printed := by
    simp [printed, behind, Terminal.behind, Streams.behind, Streams.output, Text.characters]
  reported := by simp [reported, behind]
  remaining := rfl

theorem finish_behind (tried : Nat) (earlier : Session) (stage : Stage) :
    finish tried (stage.behind earlier) =
      (finish tried stage).map (Prod.map id (earlier.behind)) := by
  cases stage with
  | finished ending last => rfl
  | ready program limit running => exact execute_behind program limit tried

/-- A command line goes the way that it goes in a fresh session. -/
theorem invoke_behind (settled : session.Settled) {options : Options}
    (asks : Request.ofWords words = .proceed options) :
    session.invoke files words tried =
      ((start session.remaining).invoke files words tried).map (Prod.map id (session.behind)) := by
  rw [invoke_eq_finish, invoke_eq_finish,
    stage_behind asks (settled.configure_eq options.verbose), finish_behind]

/-- What is shown by a session that goes about it blind to how it logs. -/
theorem adds_shown (settled : session.Settled) (ending : Ending) (shows : Session → Session)
    (commutes : ∀ alone, shows (session.behind alone) = session.behind (shows alone))
    (blind : ∀ (alone : Session) (handlers : Nat) (level : Level),
      shows { alone with handlers := handlers, level := level } =
        { shows alone with handlers := handlers, level := level }) :
    Adds session (ending, shows (start session.remaining)) (ending, shows session) := by
  have same : shows session =
      { session.behind (shows (start session.remaining)) with
        handlers := session.handlers
        level := session.level } := by
    rw [← commutes, ← blind, ← settled.eq_behind]
  rw [same]
  exact adds_behind session ending _ _ _

/-- A call adds to a session what it comes to on its own. -/
theorem adds_invoke (settled : session.Settled) :
    Option.Rel (Adds session) ((start session.remaining).invoke files words tried)
      (session.invoke files words tried) := by
  cases asks : Request.ofWords words with
  | help =>
      simp only [invoke, stage, asks]
      apply Option.Rel.some
      exact adds_shown settled _ (·.printLines Usage.help) (fun _ => printLines_behind _)
        (fun _ _ _ => rfl)
  | mistake message =>
      simp only [invoke, stage, asks]
      apply Option.Rel.some
      exact adds_shown settled _ (·.report _) (fun _ => report_behind _) (fun _ _ _ => rfl)
  | proceed options =>
      rw [invoke_behind settled asks]
      cases (start session.remaining).invoke files words tried with
      | none => exact .none
      | some came => exact .some (adds_behind session came.1 came.2 came.2.handlers came.2.level)

/-! ### The log of a call -/

/-- What a call logs: its own headings and dispatches, if it is a verbose one. -/
def loggedBy (files : Files) (words : List Text) (input : String) (tried : Nat) : List Text :=
  match Request.ofWords words with
  | .proceed options => if options.verbose then logOf files options input tried else []
  | _ => []

/-- The dispatches of a run do not depend on what was printed before. -/
theorem dispatchedBy_start (settled : session.Settled) (tried : Nat) :
    dispatchedBy (start session.remaining).terminal tried =
      dispatchedBy session.terminal tried := by
  funext job
  have first : (Machine.start session.terminal : Machine Terminal) =
      (Machine.start (start session.remaining).terminal : Machine Terminal).mapConsole
        (Terminal.behind session.terminal.streams.written) := by
    rw [settled.terminal_eq]
    rfl
  rw [dispatchedBy, dispatchedBy, first,
    Machine.dispatches_mapConsole (Terminal.mirrors_behind session.terminal.streams.written)]

/-- A session that has gone on is ready for the next call. -/
theorem settled_of_advances {log : List Text} {before last : Session}
    (settled : before.Settled) (advances : Advances log before last) : last.Settled where
  handled := advances.handlers ▸ settled.handled
  uniform := fun member => settled.uniform (advances.streams.unread.mem member)
  encodable := fun point member => settled.encodable point (advances.streams.unread.mem member)

theorem not_isLogged_mistake (message : Text) :
    ¬ Text.IsLogged (Text.ofString (Usage.programName ++ ": error: ") ++ message) :=
  Text.not_isLogged_of_head? rfl (by decide)

/-- A call leaves a session that is ready for the next one, and it has logged what is its own to
log, whatever was logged before. -/
theorem account (settled : session.Settled) {ending : Ending} {last : Session}
    (came : session.invoke files words tried = some (ending, last)) :
    last.Settled ∧ last.logged = session.logged ++ loggedBy files words session.remaining tried := by
  have kept (log : List Text) (options : Options) :
      (session.configure options.verbose).keeps log = if options.verbose then log else [] := by
    unfold keeps configure
    cases options.verbose <;> rfl
  have nothing : session.keeps [] = [] := by
    unfold keeps
    cases session.level <;> rfl
  cases asks : Request.ofWords words with
  | help =>
      simp only [invoke, stage, asks, Option.some.injEq, Prod.mk.injEq] at came
      obtain ⟨-, rfl⟩ := came
      have advances := (Advances.refl session).printLines Usage.help
      refine ⟨settled_of_advances settled advances, ?_⟩
      have silent : loggedBy files words session.remaining tried = [] := by rw [loggedBy, asks]
      rw [advances.logged, nothing, silent]
  | mistake message =>
      simp only [invoke, stage, asks, Option.some.injEq, Prod.mk.injEq] at came
      obtain ⟨-, rfl⟩ := came
      have told : ¬ Text.IsLogged (Text.ofString Usage.synopsis) :=
        Text.not_isLogged_of_head? rfl (by decide)
      have advances := ((Advances.refl session).report told).report (not_isLogged_mistake message)
      refine ⟨settled_of_advances settled advances, ?_⟩
      have silent : loggedBy files words session.remaining tried = [] := by rw [loggedBy, asks]
      have logged := advances.logged
      rw [nothing] at logged
      rw [silent]
      exact logged
  | proceed options =>
      have handled := settled.handlers_configure options.verbose
      have advances := invoke_advances asks handled came
      have opened : (session.configure options.verbose).Settled :=
        { settled with handled := Nat.le_of_eq handled }
      refine ⟨settled_of_advances opened advances, ?_⟩
      have own : loggedBy files words session.remaining tried =
          if options.verbose then
            headed files options ++
              (due? files options).elim [] (dispatchedBy session.terminal tried)
          else [] := by
        simp only [loggedBy, asks, logOf, dispatchedBy_start settled]
      rw [advances.logged, kept, own]
      rfl

/-! ### Calls in a row -/

/-- The sessions that calls can lead to, however each of them ends. -/
inductive Reached (files : Files) (tried : Nat) (input : String) :
    List (List Text) → Session → Prop where
  | start : Reached files tried input [] (Session.start input)
  | call {earlier : List (List Text)} {session next : Session} {words : List Text}
      {ending : Ending} (before : Reached files tried input earlier session)
      (came : session.invoke files words tried = some (ending, next)) :
      Reached files tried input (earlier ++ [words]) next

theorem Reached.settled {input : String} {earlier : List (List Text)}
    (reached : Reached files tried input earlier session) : session.Settled := by
  induction reached with
  | start => exact settled_start input
  | call before came ih => exact (account ih came).1

/-- What a call comes to: how it ends, what it prints and what it reports. -/
structure Call where
  ending : Ending
  printed : String
  reported : Text
deriving DecidableEq, Repr

/-- What the only call of a fresh session has come to. -/
def Call.of (came : Ending × Session) : Call :=
  ⟨came.1, came.2.printed, came.2.reported⟩

/-- What calls come to that are each made in a fresh session, on the input that the ones before it
have left unread, and what the last of them leaves of it. Like calls in one session they come to an
end with the first that breaks down. -/
def aloneAll (files : Files) (tried : Nat) (input : String) :
    List (List Text) → Option (List Call × String)
  | [] => some ([], (start input).remaining)
  | words :: rest =>
    match (start input).invoke files words tried with
    | none => none
    | some (.breakdown cause, last) => some ([.of (.breakdown cause, last)], last.remaining)
    | some (.exit code, last) =>
      match aloneAll files tried last.remaining rest with
      | none => none
      | some (calls, left) => some (.of (.exit code, last) :: calls, left)

/-- What calls in one session come to, next to what they come to one by one. -/
structure Transcribes (before : Session) (alone : List Call × String)
    (together : List Ending × Session) : Prop where
  endings : together.1 = alone.1.map Call.ending
  printed : together.2.printed = before.printed ++ String.join (alone.1.map Call.printed)
  reported : together.2.reported = before.reported ++ alone.1.flatMap Call.reported
  remaining : together.2.remaining = alone.2

/-- An input counts with its line ends made uniform. -/
theorem aloneAll_remaining (input : String) (calls : List (List Text)) :
    aloneAll files tried (start input).remaining calls = aloneAll files tried input calls := by
  have unread := (settled_start input).unread_start
  have same : start (start input).remaining = start input := by
    rw [start, start] at unread ⊢
    dsimp only [Streams.ofInput] at unread ⊢
    rw [unread]
  cases calls with
  | nil => rw [aloneAll, aloneAll, same]
  | cons words rest => rw [aloneAll, aloneAll, same]

/-- A session has transcribed no calls before any is made. -/
theorem transcribes_nil (settled : session.Settled) :
    Transcribes session ([], (start session.remaining).remaining) ([], session) where
  endings := rfl
  printed := by simp
  reported := by simp
  remaining := settled.remaining_start.symm

/-- The last call of a row adds what it comes to on its own. -/
theorem transcribes_last {alone together : Ending × Session} (adds : Adds session alone together) :
    Transcribes session ([.of alone], alone.2.remaining) ([together.1], together.2) where
  endings := by rw [adds.ending]; rfl
  printed := by simpa [Call.of] using adds.printed
  reported := by simpa [Call.of] using adds.reported
  remaining := adds.remaining

/-- What the first call of a row adds comes in front of what the others add. -/
theorem Transcribes.cons {alone next : Session} {ending : Ending} {calls : List Call × String}
    {together : List Ending × Session} (adds : Adds session (ending, alone) (ending, next))
    (rest : Transcribes next calls together) :
    Transcribes session (.of (ending, alone) :: calls.1, calls.2)
      (ending :: together.1, together.2) where
  endings := by rw [rest.endings]; rfl
  printed := by rw [rest.printed, adds.printed, String.append_assoc]; simp [Call.of]
  reported := by rw [rest.reported, adds.reported, List.append_assoc]; rfl
  remaining := rest.remaining

/-- Calls in a row add to a session what they come to one by one. -/
theorem transcribes_invokeAll (calls : List (List Text)) :
    ∀ {session : Session}, session.Settled →
      Option.Rel (Transcribes session) (aloneAll files tried session.remaining calls)
        (session.invokeAll files tried calls) := by
  -- along the calls, from any session that is ready for one: each of them leaves such a session
  induction calls with
  | nil =>
      intro session settled
      exact .some (transcribes_nil settled)
  | cons words rest ih =>
      intro session settled
      have adds : Option.Rel (Adds session) _ (session.invoke files words tried) :=
        adds_invoke settled
      unfold aloneAll invokeAll
      generalize (start session.remaining).invoke files words tried = alone at adds ⊢
      cases together : session.invoke files words tried with
      | none =>
          rw [together] at adds
          cases adds
          exact .none
      | some came =>
          rw [together] at adds
          rcases came with ⟨ending, next⟩
          cases adds with
          | @some first _ adds =>
              rcases first with ⟨same, last⟩
              obtain rfl : ending = same := adds.ending
              cases ending with
              -- here both rows of calls stop
              | breakdown cause => exact .some (transcribes_last adds)
              | exit code =>
                  have others := ih (account settled together).1
                  rw [adds.remaining] at others
                  dsimp only
                  generalize aloneAll files tried last.remaining rest = calls,
                    next.invokeAll files tried rest = later at others ⊢
                  cases others with
                  | none => exact .none
                  | some others => exact .some (others.cons adds)

/-! ### Main result -/

/-- The calls of a session are independent. In a row they come to what they come to one by one, each
in a fresh session on the input that the ones before it have left: they end alike, and what they
print and report is what they print and report then, one behind the other. Whatever calls led to a
session, and however they ended, the next one adds to what was printed and reported what it shows on
its own, and it adds to the log what is its own to log, each line once, which is nothing unless it
asks for a log itself. -/
theorem calls_independent (files : Files) (input : String) (tried : Nat) :
    (∀ calls, Option.Rel (Transcribes (start input)) (aloneAll files tried input calls)
      ((start input).invokeAll files tried calls)) ∧
    ∀ {earlier : List (List Text)} {session : Session},
      Reached files tried input earlier session → ∀ words,
        Option.Rel (Adds session) ((start session.remaining).invoke files words tried)
          (session.invoke files words tried) ∧
        ∀ {ending : Ending} {last : Session},
          session.invoke files words tried = some (ending, last) →
            last.logged = session.logged ++ loggedBy files words session.remaining tried := by
  constructor
  · intro calls
    rw [← aloneAll_remaining]
    exact transcribes_invokeAll calls (settled_start input)
  · intro earlier session reached words
    refine ⟨adds_invoke reached.settled, ?_⟩
    intro ending last came
    exact (account reached.settled came).2

/-- Reads a character and writes it. -/
def echo : Source :=
  .whole (.text (.ofString "   \n\t\n\t    \n\t\t\t\t\n  \n\n\n"))

def echoFiles : Files :=
  Directory.open? ⟨[(.ofString "echo.ws", echo)]⟩

def loudWords : List Text :=
  ["-v", "echo.ws"].map Text.ofString

def quietWords : List Text :=
  ["echo.ws"].map Text.ofString

/-- What is logged when it writes the character of a code. -/
def echoLog (code : Nat) : List Text :=
  ["[DEBUG] parsed 6 commands",
    "[DEBUG] translated 6 instructions, 0 labels, 0 fix-ups",
    "[INFO] running echo.ws (6 instructions)",
    "[DEBUG] 0: Push(0) stack=[]",
    "[DEBUG] 1: ReadChar stack=[0]",
    "[DEBUG] 2: Push(0) stack=[]",
    "[DEBUG] 3: Retrieve stack=[0]",
    "[DEBUG] 4: WriteChar stack=[" ++ toString code ++ "]",
    "[DEBUG] 5: Exit stack=[]"].map Text.ofString

/-- The session after a verbose call, with the first of two characters written. -/
def echoed : Session where
  terminal := ⟨⟨.ofString "b", .ofString "a"⟩⟩
  reports := (echoLog 97).reverse
  handlers := 1
  level := .everything

/-- The same session after a call that was a mistake, so that its level is still what it was. -/
def misled : Session :=
  echoed.report (["usage: pywhitespace [-h] [--max-steps MAX_STEPS] [--list] [--verbose] [file]",
    "pywhitespace: error: unrecognized arguments: --loud"].map Text.ofString)

/-- A quiet call is quiet all the same, and goes on where the verbose one has stopped reading. A
verbose call would log each line once. -/
theorem calls_independent_echoes :
    Reached echoFiles 9 "ab" [loudWords, ["echo.ws", "--loud"].map Text.ofString] misled ∧
    (∃ last, misled.invoke echoFiles quietWords 9 = some (.exit 0, last) ∧
      last.printed = "ab" ∧ last.logged = misled.logged) ∧
    ∃ last, misled.invoke echoFiles loudWords 9 = some (.exit 0, last) ∧
      last.printed = "ab" ∧ last.logged = misled.logged ++ echoLog 98 := by
  have first : (start "ab").invoke echoFiles loudWords 9 = some (.exit 0, echoed) := by
    decide +kernel
  have second : echoed.invoke echoFiles (["echo.ws", "--loud"].map Text.ofString) 9 =
      some (.exit 2, misled) := by
    decide +kernel
  have reached : Reached echoFiles 9 "ab" [loudWords, ["echo.ws", "--loud"].map Text.ofString]
      misled := .call (.call .start first) second
  have left : misled.remaining = "b" := by decide +kernel
  have printed : misled.printed = "a" := by decide +kernel
  have shows (words : List Text)
      (alone : ((start "b").invoke echoFiles words 9).map (Prod.map id Session.printed) =
        some (.exit 0, "b")) :
      ∃ last, misled.invoke echoFiles words 9 = some (.exit 0, last) ∧ last.printed = "ab" ∧
        last.logged = misled.logged ++ loggedBy echoFiles words "b" 9 := by
    obtain ⟨⟨ending, fresh⟩, came, shown⟩ := Option.map_eq_some_iff.mp alone
    obtain ⟨rfl, prints⟩ : ending = .exit 0 ∧ fresh.printed = "b" := Prod.mk.inj shown
    obtain ⟨adds, log⟩ := (calls_independent echoFiles "ab" 9).2 reached words
    rw [left] at adds log
    rw [came] at adds
    generalize together : misled.invoke echoFiles words 9 = result at adds
    cases adds with
    | @some _ result adds =>
        rcases result with ⟨ending, last⟩
        obtain rfl : ending = .exit 0 := adds.ending
        refine ⟨last, rfl, ?_, log together⟩
        rw [adds.printed, printed, prints]
        rfl
  constructor
  · exact reached
  · constructor
    · have quiet : loggedBy echoFiles quietWords "b" 9 = [] := by decide +kernel
      have shown := shows quietWords (by decide +kernel)
      rwa [quiet, List.append_nil] at shown
    · have loud : loggedBy echoFiles loudWords "b" 9 = echoLog 98 := by decide +kernel
      have shown := shows loudWords (by decide +kernel)
      rwa [loud] at shown

end Independence

end BlankCode
