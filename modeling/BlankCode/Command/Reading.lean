/-
Module: BlankCode.Command.Reading
Purpose: Reading commands from a stream of numbers, one number at a time. A reading holds the
  commands completed so far and either where in the next command it stands or the error that ended
  it; once it has ended, nothing changes it. What has been read of two streams joined is therefore
  read of the first and then of the second.
Main exports: Mode, Mode.feed, Reading, Reading.feed, Reading.after, parse, Source.parse
-/
import BlankCode.Command
import BlankCode.Command.Stem
import BlankCode.Source

namespace BlankCode

/-- The bits that a number in a program may have, its leading zeros not counted.
[SPEC MAX_NUMBER_BITS] -/
def literalBits : Nat := 63

/-- Where in a command a reading stands. [SPEC parse] -/
inductive Mode where
  /-- Within the spelling. -/
  | spelling (stem : Stem)
  /-- Before the sign of the number. -/
  | sign (mnemonic : Mnemonic)
  /-- Among the binary digits of the number; the value is that of the digits so far, and the bits
  are those of them that count, from the first that is not zero. -/
  | digits (mnemonic : Mnemonic) (negative : Bool) (bits value : Nat)
  /-- Within the label; its bytes come latest first. -/
  | label (mnemonic : Mnemonic) (bytes : Label)
deriving DecidableEq, Repr

/-- What one number of the stream does. -/
inductive Mode.Turn where
  | moves (mode : Mode)
  | completes (command : Command)
  | refuses (error : ParseError)
deriving DecidableEq, Repr

namespace Mode

/-- A command begins with its spelling. -/
def start : Mode := .spelling .start

/-- What follows a spelling depends on what the command takes. -/
def afterSpelling (mnemonic : Mnemonic) : Turn :=
  match mnemonic.parameter with
  | .nothing => .completes ⟨mnemonic, .absent⟩
  | .number => .moves (.sign mnemonic)
  | .label => .moves (.label mnemonic [])

/-- The bits of a number with one more digit. A leading zero does not count. -/
def countDigit (bits digit : Nat) : Nat :=
  if bits = 0 ∧ digit = 0 then 0 else bits + 1

/-- One more binary digit, unless the number has all the bits it may have. [SPEC parse] -/
def appendDigit (mnemonic : Mnemonic) (negative : Bool) (bits value digit : Nat) : Turn :=
  if literalBits < countDigit bits digit then .refuses .numberTooLarge
  else .moves (.digits mnemonic negative (countDigit bits digit) (value * 2 + digit))

/-- Takes one number of the stream. [SPEC parse, _unexpected] -/
def feed (mode : Mode) (value : Int) : Turn :=
  match mode with
  | .spelling stem =>
    match (Token.ofCode? value).bind stem.next? with
    | some (.stem longer) => .moves (.spelling longer)
    | some (.command mnemonic) => afterSpelling mnemonic
    | none => .refuses (stem.refusal value)
  | .sign mnemonic =>
    match Token.ofCode? value with
    | some .space => .moves (.digits mnemonic false 0 0)
    | some .tab => .moves (.digits mnemonic true 0 0)
    | some .lineFeed => .refuses (.unexpectedByte value "number" "expected a sign (space/tab)")
    | none => .refuses (.unexpectedByte value "number" "")
  | .digits mnemonic negative bits magnitude =>
    match Token.ofCode? value with
    | some .space => appendDigit mnemonic negative bits magnitude 0
    | some .tab => appendDigit mnemonic negative bits magnitude 1
    | some .lineFeed =>
      .completes ⟨mnemonic, .integer (if negative then -(magnitude : Int) else magnitude)⟩
    | none => .refuses (.unexpectedByte value "number" "")
  | .label mnemonic bytes =>
    match Token.ofCode? value with
    | some .space => .moves (.label mnemonic (Token.space.byte :: bytes))
    | some .tab => .moves (.label mnemonic (Token.tab.byte :: bytes))
    | some .lineFeed => .completes ⟨mnemonic, .label bytes.reverse⟩
    | none => .refuses (.unexpectedByte value "label" "")

theorem appendDigit_ne_start {mnemonic : Mnemonic} {negative : Bool} {bits value digit : Nat} :
    appendDigit mnemonic negative bits value digit ≠ .moves start := by
  unfold appendDigit
  split <;> simp [start]

/-- Within a command a number never leads back to before it. -/
theorem ne_start_of_moves {mode next : Mode} {value : Int} (moves : mode.feed value = .moves next) :
    next ≠ start := by
  rintro rfl
  cases mode with
  | spelling stem =>
    cases found : Token.ofCode? value with
    | none => simp [feed, found] at moves
    | some token =>
      cases leads : stem.next? token with
      | none => simp [feed, found, leads] at moves
      | some branch =>
        cases branch with
        | stem longer =>
          simp only [feed, found, Option.bind_some, leads, Turn.moves.injEq, start,
            spelling.injEq] at moves
          exact stem.next?_ne_start token (moves ▸ leads)
        | command mnemonic =>
          simp only [feed, found, Option.bind_some, leads, afterSpelling] at moves
          split at moves <;> cases moves
  | sign mnemonic =>
    simp only [feed] at moves
    split at moves <;> cases moves
  | digits mnemonic negative bits magnitude =>
    simp only [feed] at moves
    split at moves
    · exact appendDigit_ne_start moves
    · exact appendDigit_ne_start moves
    · cases moves
    · cases moves
  | label mnemonic bytes =>
    simp only [feed] at moves
    split at moves <;> cases moves

/-- The error of a stream that ends here, unless it may end here. [SPEC parse] -/
def unfinished? : Mode → Option ParseError
  | .spelling .start => none
  | .spelling stem => some (.unexpectedEnd ("an instruction in state " ++ stem.name))
  | .sign _ => some (.unexpectedEnd "sign for number")
  | .digits _ _ _ _ => some (.unexpectedEnd "a number")
  | .label _ _ => some (.unexpectedEnd "a label")

end Mode

/-- How far a stream has been read. -/
structure Reading where
  /-- The commands completed, latest first. -/
  completed : List Command := []
  /-- The place in the next command, or the error that ended the reading. -/
  position : Except ParseError Mode := .ok Mode.start

namespace Reading

/-- The commands read, in order. -/
def commands (reading : Reading) : List Command :=
  reading.completed.reverse

/-- The reading after what a number does, the commands completed before it given. -/
def ofTurn (completed : List Command) : Mode.Turn → Reading
  | .moves next => ⟨completed, .ok next⟩
  | .completes command => ⟨command :: completed, .ok Mode.start⟩
  | .refuses error => ⟨completed, .error error⟩

/-- Takes one number of the stream. -/
def feed (reading : Reading) (value : Int) : Reading :=
  match reading.position with
  | .error _ => reading
  | .ok mode => ofTurn reading.completed (mode.feed value)

/-- Takes a whole stream, from where the reading stands. -/
def feedAll (reading : Reading) (values : List Int) : Reading :=
  values.foldl feed reading

/-- The reading of a stream from its beginning. -/
def after (values : List Int) : Reading :=
  feedAll {} values

/-- What is wrong when the stream ends here, if anything is. -/
def error? (reading : Reading) : Option ParseError :=
  match reading.position with
  | .error error => some error
  | .ok mode => mode.unfinished?

/-- The commands, or the error in their place. -/
def result (reading : Reading) : Except ParseError (List Command) :=
  match reading.error? with
  | some error => .error error
  | none => .ok reading.commands

@[simp] theorem feed_ok (completed : List Command) (mode : Mode) (value : Int) :
    feed ⟨completed, .ok mode⟩ value = ofTurn completed (mode.feed value) := rfl

@[simp] theorem feed_error (completed : List Command) (error : ParseError) (value : Int) :
    feed ⟨completed, .error error⟩ value = ⟨completed, .error error⟩ := rfl

@[simp] theorem feedAll_nil (reading : Reading) : reading.feedAll [] = reading := rfl

@[simp] theorem feedAll_cons (reading : Reading) (value : Int) (rest : List Int) :
    reading.feedAll (value :: rest) = (reading.feed value).feedAll rest := rfl

/-- Two streams joined are read one after the other. -/
@[simp] theorem feedAll_append (reading : Reading) (left right : List Int) :
    reading.feedAll (left ++ right) = (reading.feedAll left).feedAll right :=
  List.foldl_append

/-- A reading that has ended stays as it is. -/
@[simp] theorem feedAll_error (completed : List Command) (error : ParseError)
    (values : List Int) :
    feedAll ⟨completed, .error error⟩ values = ⟨completed, .error error⟩ := by
  induction values with
  | nil => rfl
  | cons value rest ih => rw [feedAll_cons, feed_error, ih]

/-- Completed commands stay completed. -/
theorem completed_suffix_feedAll (reading : Reading) (values : List Int) :
    reading.completed <:+ (reading.feedAll values).completed := by
  induction values generalizing reading with
  | nil => exact List.suffix_rfl
  | cons value rest ih =>
    rw [feedAll_cons]
    refine List.IsSuffix.trans ?_ (ih (reading.feed value))
    rcases reading with ⟨completed, error | mode⟩
    · exact List.suffix_rfl
    · rw [feed_ok]
      cases mode.feed value with
      | moves next => exact List.suffix_rfl
      | completes command => exact List.suffix_cons command completed
      | refuses error => exact List.suffix_rfl

@[simp] theorem after_nil : after [] = {} := rfl

/-- The second of two streams is read from where the first one ends. -/
theorem after_append (left right : List Int) :
    after (left ++ right) = (after left).feedAll right :=
  feedAll_append {} left right

end Reading

/-- The program that a stream of numbers spells. [SPEC parse] -/
def parse (values : List Int) : Except ParseError (List Command) :=
  (Reading.after values).result

/-- Only before the first token of a command may a stream end. -/
theorem Mode.unfinished?_eq_none_iff {mode : Mode} : mode.unfinished? = none ↔ mode = start := by
  constructor
  · intro ends
    cases mode with
    | spelling stem =>
      cases stem with
      | start => rfl
      | _ => cases ends
    | sign _ => cases ends
    | digits _ _ _ _ => cases ends
    | label _ _ => cases ends
  · rintro rfl
    rfl

/-- A stream is a program when its reading ends between two commands. -/
theorem parse_eq_ok_iff {values : List Int} {commands : List Command} :
    parse values = .ok commands ↔
      (Reading.after values).position = .ok Mode.start ∧
        (Reading.after values).commands = commands := by
  unfold parse Reading.result Reading.error?
  cases (Reading.after values).position with
  | error error => simp
  | ok mode =>
    cases unfinished : mode.unfinished? with
    | none =>
      have between : mode = Mode.start := Mode.unfinished?_eq_none_iff.mp unfinished
      simp [unfinished, ← between]
    | some error =>
      have within : mode ≠ Mode.start := by
        rintro rfl
        cases unfinished
      simp [within, unfinished]

/-- The stream of numbers that a source holds. -/
def Source.values (source : Source) : List Int :=
  source.tokens.map Token.code

/-- The program that a source spells. What is raised behind its last byte comes out unless something
is wrong with the bytes in front of it. [SPEC parse_source] -/
def Source.parse (source : Source) : Except Defeat (List Command) :=
  let reading := Reading.after source.values
  match reading.position, source.refusal? with
  | .ok _, some defeat => .error defeat
  | _, _ => reading.result.mapError fun error => .failure (.parse error)

/-- Where nothing is raised a source spells what its stream spells. -/
theorem Source.parse_eq {source : Source} (given : source.refusal? = none) :
    source.parse =
      (BlankCode.parse source.values).mapError fun error => .failure (.parse error) := by
  rw [parse, given]
  cases position : (Reading.after source.values).position <;> rfl

/-- A source is a program if its stream is one, and nothing is raised behind it. -/
theorem Source.parse_eq_ok_iff {source : Source} {commands : List Command} :
    source.parse = .ok commands ↔
      source.refusal? = none ∧ BlankCode.parse source.values = .ok commands := by
  cases refusal : source.refusal? with
  | none =>
      rw [parse_eq refusal]
      cases read : BlankCode.parse source.values with
      | ok spelt =>
          change Except.ok spelt = .ok commands ↔ _
          simp
      | error error =>
          change Except.error _ = .ok commands ↔ _
          simp
  | some defeat =>
      have refused : source.parse ≠ .ok commands := by
        rw [parse, refusal]
        cases position : (Reading.after source.values).position with
        | ok byte => simp
        | error error =>
            rw [Reading.result, Reading.error?, position]
            rintro ⟨⟩
      simp [refused]

/-- A source that is no program has no bytes, or its stream is none. -/
theorem Source.parse_error_cases {source : Source} {defeat : Defeat}
    (failed : source.parse = .error defeat) :
    source.refusal? = some defeat ∨
      ∃ error, BlankCode.parse source.values = .error error ∧ defeat = .failure (.parse error) := by
  rw [parse] at failed
  split at failed
  · rename_i refused
    cases failed
    exact Or.inl refused
  · right
    change (BlankCode.parse source.values).mapError _ = _ at failed
    cases read : BlankCode.parse source.values with
    | ok commands =>
        rw [read] at failed
        cases failed
    | error error =>
        rw [read] at failed
        cases failed
        exact ⟨error, rfl, rfl⟩

end BlankCode
