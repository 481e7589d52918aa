/-
Module: BlankCode.Proofs.Agreement
Purpose: A command line that runs a file comes to what the file's content comes to on its own: it
  prints the output and ends well, or it reports the failure, with what was written before it. Only
  what no encoding has must not be written. A limit can be asked for if it can be written; any other
  is a mistake on a command line.
Main exports: Runs, Request.ofWords_limited, Session.stage_eq, Agreement.console,
  Agreement.invoke_eq, Agreement.invoke_agrees
-/
import BlankCode.CommandLine.Session
import BlankCode.Proofs.Decimal
import BlankCode.Proofs.Encoding
import BlankCode.Proofs.Limits
import Mathlib.Data.List.Basic

namespace BlankCode

/-- A text without carriage returns has uniform line ends. -/
theorem Text.uniformLines_of_not_mem {text : Text} (plain : CodePoint.carriageReturn ∉ text) :
    text.uniformLines = text := by
  have points : ((none :: text.map some).zip text).filterMap (some ∘ Prod.snd) = text := by
    rw [List.filterMap_eq_map, List.map_snd_zip]
    simp
  rw [uniformLines]
  refine Eq.trans (List.filterMap_congr ?_) points
  rintro ⟨before, point⟩ member
  obtain ⟨isBefore, isPoint⟩ := List.of_mem_zip member
  have noReturn : point ≠ .carriageReturn := fun same => plain (same ▸ isPoint)
  have noneBefore : before ≠ some .carriageReturn := by
    rintro rfl
    simp [plain] at isBefore
  simp [noReturn, noneBefore]

/-- Sources of the same bytes that come to the same end are the same program. -/
theorem Source.load_congr {left right : Source} (same : left.toBytes = right.toBytes)
    (sameEnd : left.refusal? = right.refusal?) : left.load = right.load := by
  simp only [Source.load, Source.parse, Source.values, Source.tokens, same, sameEnd]

/-! ### Words that ask for a limit -/

namespace CommandLine

/-- A number is a value, and no option, although there may be a minus sign in front of it. -/
theorem classify_text (value : Int) :
    classify (Numeral.text value) = .ok (.plain (Numeral.text value)) := by
  obtain ⟨digits, written, some, areDigits, _⟩ := Numeral.exists_digits value.natAbs
  obtain ⟨first, rest, rfl⟩ := List.exists_cons_of_ne_nil some
  have isDigit := areDigits first List.mem_cons_self
  have spelled : Numeral.text value = (if value < 0 then [CodePoint.minus] else []) ++
      (first :: rest).map Numeral.point := by
    rw [Numeral.text_eq, written, List.map_map]
    rfl
  have noSign : Numeral.point first ≠ .minus := by
    interval_cases first <;> decide
  by_cases negative : value < 0
  · have noLetter : Setting.ofLetter? (Numeral.point first) = none := by
      interval_cases first <;> decide
    have allDigits : ∀ point ∈ (first :: rest).map Numeral.point, point.digit?.isSome = true := by
      intro point member
      obtain ⟨digit, isThere, rfl⟩ := List.mem_map.mp member
      have isDigit := areDigits digit isThere
      interval_cases digit <;> decide
    have ends : endsInDigits ((first :: rest).map Numeral.point) = true := by
      rw [endsInDigits, List.span_eq_takeWhile_dropWhile, List.takeWhile_eq_self_iff.mpr allDigits,
        List.dropWhile_eq_nil_iff.mpr allDigits]
      rfl
    have isNumber : isNegativeNumber (.minus :: (first :: rest).map Numeral.point) = true := by
      rw [isNegativeNumber, ends]
      rfl
    rw [if_pos negative, List.singleton_append] at spelled
    rw [spelled]
    rw [List.map_cons] at isNumber ⊢
    simp only [classify, ne_eq, not_true_eq_false, if_false, if_neg noSign, classifyShort, noLetter,
      unrecognised, isNumber, Bool.true_or, if_true]
  · rw [if_neg negative, List.nil_append] at spelled
    rw [spelled]
    cases rest with
    | nil => rfl
    | cons second others => exact if_pos noSign

/-- Nor is it the separator, which cannot be read as a number. -/
theorem text_ne_separatorText (value : Int) : Numeral.text value ≠ separatorText := by
  intro same
  have replied := Numeral.read_text value
  rw [same, show Numeral.read separatorText = .error .malformed by decide] at replied
  split at replied <;> cases replied

/-- A limit with too many digits is misunderstood. -/
theorem readLimit_text (limit : Int) :
    readLimit (Numeral.text limit) =
      if Numeral.isWritable limit then .ok (.atMost limit)
      else .error (mistakeOf .maxSteps
        ("invalid int value: " ++ Quoted.text (Numeral.text limit))) := by
  rw [readLimit, if_neg (text_ne_separatorText limit), Numeral.read_text]
  cases Numeral.isWritable limit <;> rfl

end CommandLine

/-- The name of a file and a limit ask for no more than that the file be run by the limit, if it can
be written. -/
theorem Request.ofWords_limited {name : Text} (isWord : name ≠ CommandLine.separatorText)
    (isPlain : CommandLine.classify name = .ok (.plain name)) (limit : Int) :
    Request.ofWords [name, .ofString "-n", Numeral.text limit] =
      if Numeral.isWritable limit then .proceed { file := name, maxSteps := .atMost limit }
      else .mistake (CommandLine.mistakeOf .maxSteps
        ("invalid int value: " ++ Quoted.text (Numeral.text limit))) := by
  have roles : CommandLine.classifyAll [name, .ofString "-n", Numeral.text limit] =
      .ok [.plain name, .options (.needsValue [] .maxSteps), .plain (Numeral.text limit)] := by
    have isOption : CommandLine.classify (.ofString "-n") =
        .ok (.options (.needsValue [] .maxSteps)) := by decide
    have isWordToo : Text.ofString "-n" ≠ CommandLine.separatorText := by decide
    simp only [CommandLine.classifyAll, if_neg isWord, if_neg isWordToo,
      if_neg (CommandLine.text_ne_separatorText limit), isPlain, isOption,
      CommandLine.classify_text]
  have replied := CommandLine.readLimit_text limit
  generalize CommandLine.mistakeOf .maxSteps
    ("invalid int value: " ++ Quoted.text (Numeral.text limit)) = misread at replied ⊢
  rw [ofWords, roles]
  by_cases writable : Numeral.isWritable limit
  · rw [if_pos writable] at replied ⊢
    simp only [CommandLine.Progress.take, CommandLine.Progress.takeSettings, List.nil_append,
      CommandLine.applySettings, replied]
    rfl
  · rw [if_neg writable] at replied ⊢
    simp only [CommandLine.Progress.take, CommandLine.Progress.takeSettings, List.nil_append,
      CommandLine.applySettings, replied]

/-- A command line that asks for nothing but that a file be run, by a limit if one is given. -/
structure Runs (files : Files) (words : List Text) (options : Options) (limit : Option Int)
    (source : Source) : Prop where
  asks : Request.ofWords words = .proceed options
  unlisted : options.list = false
  quiet : options.verbose = false
  limited : options.maxSteps = limit.elim .unlimited .atMost
  named : ∃ bytes, Utf8.encodeName? options.file = some bytes ∧ 0 ∉ bytes
  opens : files options.file = .ok source

namespace Session

variable {session : Session} {files : Files} {words : List Text} {options : Options}
  {limit : Option Int} {source : Source}

/-- A session that logs only what is out of the ordinary logs nothing of a command line. -/
theorem log_of_warnings (quiet : session.level = .warnings) (mark : String) (lines : List Text) :
    session.log mark lines = session := by
  rw [log, quiet]

/-- What comes of a source before anything runs: an end without a result, or a program. -/
def loaded (session : Session) (limit : Option Int) (source : Source) : Stage :=
  match source.load with
  | .error defeat => .finished (session.yield defeat).1 (session.yield defeat).2
  | .ok program => .ready program limit session

theorem prepare_eq (quiet : session.level = .warnings) (unlisted : options.list = false)
    (limited : options.maxSteps = limit.elim .unlimited .atMost) (source : Source) :
    session.prepare options source = session.loaded limit source := by
  simp only [prepare, loaded, Source.load, log_of_warnings quiet, unlisted, limited]
  cases source.parse with
  | error error => rfl
  | ok commands =>
      dsimp only
      cases link commands with
      | error error => rfl
      | ok program => cases limit <;> rfl

/-- A command line whose file opens is carried out on the source in it. -/
theorem stage_of_opens (asks : Request.ofWords words = .proceed options)
    (named : ∃ bytes, Utf8.encodeName? options.file = some bytes ∧ 0 ∉ bytes)
    (opens : files options.file = .ok source) :
    session.stage files words = (session.configure options.verbose).prepare options source := by
  obtain ⟨bytes, encoded, noNull⟩ := named
  have valid : bytes.contains 0 = false := by simpa using noNull
  simp only [stage, asks, encoded, valid, opens, Bool.false_eq_true, if_false]

theorem stage_eq (runs : Runs files words options limit source) :
    session.stage files words = (session.configure false).loaded limit source := by
  rw [stage_of_opens runs.asks runs.named runs.opens, runs.quiet]
  exact prepare_eq rfl runs.unlisted runs.limited source

theorem execute_eq (quiet : session.level = .warnings) (program : Program) (limit : Option Int)
    (tried : Nat) :
    session.execute program limit tried =
      ((Machine.start session.terminal : Machine Terminal).run program limit tried).map
        (session.conclude limit) := by
  simp only [execute, log_of_warnings quiet]
  cases (Machine.start session.terminal : Machine Terminal).run program limit tried <;> rfl

end Session

namespace Agreement

/-- The console in memory after the steps that a source may take. Nothing has been read or written
by one that does not load. -/
def console (source : Source) (input : Text) (limit : Option Int) (tried : Nat) : Streams :=
  match source.load with
  | .error _ => Streams.ofInput input
  | .ok program =>
    ((Machine.start (Streams.ofInput input) : Machine Streams).runFor program
      ((limit.map Int.toNat).getD tried)).console

/-- How a command line ends that runs a source, by what the source comes to and the streams then. -/
def close (streams : Streams) : Except Defeat Text → Ending × Session
  | .ok _ => (.exit 0, { terminal := ⟨streams⟩, handlers := 1 })
  | .error defeat => Session.yield { terminal := ⟨streams⟩, handlers := 1 } defeat

variable {files : Files} {words : List Text} {options : Options} {limit : Option Int}
  {source : Source} {input : String} {tried : Nat}

theorem start_eq (plain : '\r' ∉ input.toList) :
    Session.start input = { terminal := ⟨Streams.ofInput (Text.ofString input)⟩ } := by
  have plain : CodePoint.carriageReturn ∉ Text.ofString input := by
    intro member
    obtain ⟨char, there, isReturn⟩ := List.mem_map.mp member
    have same := congrArg CodePoint.toChar? isReturn
    rw [CodePoint.toChar?_ofChar] at same
    cases same
    exact plain there
  rw [Session.start, Text.uniformLines_of_not_mem plain]

/-- A machine's end is told alike from streams and from encoded streams. -/
theorem conclude_mapConsole (streams : Streams) (limit : Option Int) (last : Machine Streams) :
    Session.conclude { terminal := ⟨streams⟩, handlers := 1 } limit
        ⟨last.mapConsole Terminal.mk, false⟩ =
      close last.console (last.verdict limit) := by
  have same : Machine.Ran.defeat? limit ⟨last.mapConsole Terminal.mk, false⟩ =
      Machine.Ran.defeat? limit ⟨last, false⟩ := rfl
  rw [Session.conclude, Machine.verdict, same]
  cases Machine.Ran.defeat? limit ⟨last, false⟩ <;> rfl

/-- A command line that runs a source comes to what the source comes to on its own. -/
theorem invoke_eq (runs : Runs files words options limit source) (plain : '\r' ∉ input.toList)
    (encodable : (console source (.ofString input) limit tried).output.Encodable) :
    (Session.start input).invoke files words tried =
      (evaluate source (.ofString input) limit tried).map
        (close (console source (.ofString input) limit tried)) := by
  have configured : Session.configure { terminal := ⟨Streams.ofInput (Text.ofString input)⟩ } false =
      { terminal := ⟨Streams.ofInput (Text.ofString input)⟩, handlers := 1 } := rfl
  rw [Session.invoke, start_eq plain, Session.stage_eq runs, configured, Session.loaded]
  cases loads : source.load with
  | error failure =>
      rw [Limits.evaluate_of_unloaded loads, console, loads]
      rfl
  | ok program =>
      rw [console, loads] at encodable ⊢
      dsimp only at encodable ⊢
      rw [Session.execute_eq rfl, Machine.run_eq,
        Machine.loop_of_load loads (WordRange.tame_terminal digits) trivial,
        Limits.evaluate_of_load loads]
      generalize (limit.map Int.toNat).getD tried = steps at encodable ⊢
      -- both machines make the same steps, so that their ends are to be compared
      rw [Machine.runFor_eq_iterate] at encodable
      have mirrored := Machine.iterate_step_terminal program _ steps encodable
      rw [← Machine.runFor_eq_iterate, ← Machine.runFor_eq_iterate] at mirrored
      have first : (Machine.start ⟨Streams.ofInput (.ofString input)⟩ : Machine Terminal) =
          (Machine.start (Streams.ofInput (.ofString input)) : Machine Streams).mapConsole
            Terminal.mk := rfl
      rw [first, mirrored]
      dsimp only
      generalize Machine.runFor program steps
        (Machine.start (Streams.ofInput (.ofString input)) : Machine Streams) = last
      have same : (last.mapConsole Terminal.mk).isRunning = last.isRunning := rfl
      simp only [Machine.Ran.goesOn, same, Bool.not_false, Bool.and_true]
      split
      · rfl
      · exact congrArg some (conclude_mapConsole _ limit last)

/-- The output of a source is what is held by the console in memory. -/
theorem output_of_evaluate {input output : Text}
    (came : evaluate source input limit tried = some (.ok output)) :
    (console source input limit tried).output = output := by
  cases loads : source.load with
  | error failure =>
      rw [Limits.evaluate_of_unloaded loads] at came
      cases came
  | ok program =>
      rw [Limits.evaluate_of_load loads] at came
      rw [console, loads]
      dsimp only at came ⊢
      split at came
      · cases came
      · rw [Option.some.injEq, Machine.verdict] at came
        split at came
        · cases came
        · exact Except.ok.inj came

/-! ### What a command line shows -/

section

variable {streams : Streams} {value : Option (Except Defeat Text)}

/-- What is printed is the text that the streams hold. -/
theorem printed_close (encodable : streams.output.Encodable) (result : Except Defeat Text) :
    Text.ofString (close streams result).2.printed = streams.output := by
  rcases result with (_ | _) | _ <;> exact Text.ofString_characters encodable

/-- A failure is reported in one line. -/
theorem reported_close (streams : Streams) (failure : Failure) :
    (close streams (.error (.failure failure))).2.reported =
      .ofString ("Error: " ++ failure.message ++ "\n") := by
  rw [Text.ofString_append _ "\n"]
  exact List.append_nil _

/-- An output is printed, and nothing else shown, exactly if it is what came. -/
theorem exit_zero_iff (encodable : streams.output.Encodable)
    (held : ∀ output, value = some (.ok output) → streams.output = output) (output : Text) :
    (∃ last, value.map (close streams) = some (.exit 0, last) ∧
        Text.ofString last.printed = output ∧ last.reported = []) ↔
      value = some (.ok output) := by
  constructor
  · rintro ⟨last, came, rfl, _⟩
    obtain ⟨result, isValue, closed⟩ := Option.map_eq_some_iff.mp came
    cases result with
    | error defeat => cases defeat <;> cases closed
    | ok text =>
        have same := (printed_close encodable (.ok text)).trans (held text isValue)
        cases closed
        exact isValue.trans (congrArg (some ∘ Except.ok) same.symm)
  · intro isValue
    have same := (printed_close encodable (.ok output)).trans (held output isValue)
    exact ⟨_, by rw [isValue]; rfl, same, rfl⟩

/-- A message is reported exactly if it is that of the failure that came. -/
theorem exit_one_iff (message : String) :
    (∃ last, value.map (close streams) = some (.exit 1, last) ∧
        last.reported = .ofString ("Error: " ++ message ++ "\n")) ↔
      ∃ failure, value = some (.error (.failure failure)) ∧ failure.message = message := by
  constructor
  · rintro ⟨last, came, reported⟩
    obtain ⟨result, isValue, closed⟩ := Option.map_eq_some_iff.mp came
    rcases result with (failure | ⟨kind, text⟩) | output
    case ok => cases closed
    case error.raised => cases closed
    case error.failure =>
        cases closed
        have lines := Text.ofString_injective ((reported_close _ failure).symm.trans reported)
        have messages := (String.append_right_inj _).mp ((String.append_left_inj _).mp lines)
        exact ⟨failure, isValue, messages⟩
  · rintro ⟨failure, isValue, rfl⟩
    exact ⟨_, by rw [isValue]; rfl, reported_close _ failure⟩

end

/-- The command line and the evaluation of a source agree. When a file has the bytes of a source,
the input has no carriage return, and no surrogate is written, then a command line that runs the
file prints an output, reports nothing and ends well exactly if that is the output of the source. It
reports a message and ends badly exactly if the source fails with that message, and has then printed
what the console in memory held, which is nothing if the source did not even load. Neither has an
answer exactly if the other has none. -/
theorem invoke_agrees {given : Source} (runs : Runs files words options limit source)
    (holds : source.toBytes = given.toBytes) (sameEnd : source.refusal? = given.refusal?)
    (plain : '\r' ∉ input.toList)
    (encodable : (console given (.ofString input) limit tried).output.Encodable) :
    (∀ output, (∃ last, (Session.start input).invoke files words tried = some (.exit 0, last) ∧
        Text.ofString last.printed = output ∧ last.reported = []) ↔
      evaluate given (.ofString input) limit tried = some (.ok output)) ∧
    (∀ message, (∃ last, (Session.start input).invoke files words tried = some (.exit 1, last) ∧
        last.reported = .ofString ("Error: " ++ message ++ "\n")) ↔
      ∃ failure, evaluate given (.ofString input) limit tried = some (.error (.failure failure)) ∧
        failure.message = message) ∧
    (∀ last, (Session.start input).invoke files words tried = some (.exit 1, last) →
      Text.ofString last.printed = (console given (.ofString input) limit tried).output ∧
        ∀ defeat, given.load = .error defeat → last.printed = "") ∧
    ((Session.start input).invoke files words tried = none ↔
      evaluate given (.ofString input) limit tried = none) := by
  have sameConsole : console source (.ofString input) limit tried =
      console given (.ofString input) limit tried := by
    rw [console, console, Source.load_congr holds sameEnd]
  have sameValue : evaluate source (.ofString input) limit tried =
      evaluate given (.ofString input) limit tried := by
    rw [evaluate, evaluate, Source.load_congr holds sameEnd]
  have invoked := invoke_eq runs plain (sameConsole ▸ encodable)
  rw [sameConsole, sameValue] at invoked
  rw [invoked]
  refine ⟨exit_zero_iff encodable fun _ => output_of_evaluate, exit_one_iff, ?_,
    Option.map_eq_none_iff⟩
  intro last came
  obtain ⟨result, _, closed⟩ := Option.map_eq_some_iff.mp came
  obtain rfl : (close _ result).2 = last := congrArg Prod.snd closed
  have printed := printed_close encodable result
  refine ⟨printed, ?_⟩
  intro failure unloaded
  apply Text.ofString_injective
  rw [printed, console, unloaded]
  rfl

/-- Writes ten, and then something that is not there. -/
def short : Source :=
  .whole (.bytes [0x20, 0x20, 0x20, 0x09, 0x20, 0x09, 0x20, 0x0A, 0x09, 0x0A, 0x20, 0x09,
    0x09, 0x0A, 0x20, 0x09, 0x0A, 0x0A, 0x0A])

/-- The ten is printed before the underflow is reported. -/
theorem invoke_agrees_short :
    ∃ last, (Session.start "7\n").invoke (Directory.open? ⟨[(.ofString "ten.ws", short)]⟩)
        (["ten.ws", "-n", "9"].map Text.ofString) 0 = some (.exit 1, last) ∧
      last.reported = .ofString "Error: stack underflow\n" ∧ last.printed = "10\n" := by
  have runs : Runs (Directory.open? ⟨[(.ofString "ten.ws", short)]⟩)
      (["ten.ws", "-n", "9"].map Text.ofString)
      { file := .ofString "ten.ws", maxSteps := .atMost 9 } (some 9) short := {
    asks := rfl
    unlisted := rfl
    quiet := rfl
    limited := rfl
    named := ⟨Utf8.encode "ten.ws", by decide +kernel, by decide +kernel⟩
    opens := rfl }
  have plain : '\r' ∉ "7\n".toList := by decide +kernel
  have held : (console short (.ofString "7\n") (some 9) 0).output = .ofString "10\n" := by
    decide +kernel
  have encodable : (console short (.ofString "7\n") (some 9) 0).output.Encodable := by
    rw [held]
    decide +kernel
  have failed : evaluate short (.ofString "7\n") (some 9) 0 =
      some (.error (.failure (.execution .stackUnderflow))) := by
    decide +kernel
  obtain ⟨_, reports, prints, _⟩ := invoke_agrees runs rfl rfl plain encodable
  obtain ⟨last, came, reported⟩ := (reports "stack underflow").mpr ⟨_, failed, rfl⟩
  have printed := (prints last came).1.trans held
  exact ⟨last, came, reported, Text.ofString_injective printed⟩

/-- A limit with too many digits is a mistake on a command line, where the source comes to its
output within it. -/
theorem invoke_overlong :
    let exits : Source := .whole (.bytes [0x0A, 0x0A, 0x0A])
    let files := Directory.open? ⟨[(.ofString "f.ws", exits)]⟩
    (∃ last, (Session.start "").invoke files
        [.ofString "f.ws", .ofString "-n", Numeral.text (-Numeral.overlong)] 0 =
          some (.exit 2, last)) ∧
      evaluate exits [] (some (-Numeral.overlong)) 0 = some (.ok []) := by
  intro exits files
  have tooLong : Numeral.isWritable (-Numeral.overlong) = false := by
    rw [Numeral.isWritable_neg, Numeral.isWritable_overlong]
  have positive : 0 < -Numeral.overlong := Int.neg_pos_of_neg Numeral.overlong_neg
  generalize -Numeral.overlong = limit at tooLong positive ⊢
  have isWord : Text.ofString "f.ws" ≠ CommandLine.separatorText := by decide
  have mistaken := Request.ofWords_limited isWord (by decide) limit
  rw [tooLong, if_neg Bool.false_ne_true] at mistaken
  have loaded : exits.load = .ok (.ofInstructions [⟨.exit, 0⟩]) := rfl
  have ended : ((Machine.start (Streams.ofInput []) : Machine Streams).runFor
      (.ofInstructions [⟨.exit, 0⟩]) 1).isRunning = false := rfl
  constructor
  · rw [Session.invoke, Session.stage, mistaken]
    exact ⟨_, rfl⟩
  · have enough : 1 ≤ ((some limit).map Int.toNat).getD 0 := Int.pos_iff_toNat_pos.mp positive
    rw [Limits.evaluate_of_ended loaded ended enough]
    rfl

end Agreement

end BlankCode
