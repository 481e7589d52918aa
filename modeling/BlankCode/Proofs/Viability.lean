/-
Module: BlankCode.Proofs.Viability
Purpose: Where reading fails. What has been read without a refusal can always be completed to a
  program, and a refusal is final; so the first number that no program can have at its place is the
  one that is refused, and what was read up to then is what the longest program at the front of the
  stream gives.
Main exports: Viability.exists_completion, Viability.exists_refused, Viability.exists_longest,
  Viability.parse_viable
-/
import BlankCode.Command.Reading
import Mathlib.Data.List.Induction

namespace BlankCode.Viability

/-! ### Every beginning can be completed -/

/-- Tokens that complete a spelling, and whose spelling it then is. -/
def completion : Stem → List Token × Mnemonic
  | .start => ([.space, .space], .push)
  | .tab => ([.tab, .space], .store)
  | .stack => ([.space], .push)
  | .stackTab => ([.space], .copy)
  | .stackLineFeed => ([.space], .duplicate)
  | .arithmetic => ([.space, .space], .add)
  | .arithmeticSpace => ([.space], .add)
  | .arithmeticTab => ([.space], .divide)
  | .heap => ([.space], .store)
  | .console => ([.space, .space], .writeChar)
  | .consoleSpace => ([.space], .writeChar)
  | .consoleTab => ([.space], .readChar)
  | .flow => ([.space, .space], .mark)
  | .flowSpace => ([.space], .mark)
  | .flowTab => ([.space], .jumpIfZero)
  | .flowLineFeed => ([.lineFeed], .exit)

theorem feedAll_completion (completed : List Command) (stem : Stem) :
    Reading.feedAll ⟨completed, .ok (.spelling stem)⟩ ((completion stem).1.map Token.code) =
      Reading.ofTurn completed (Mode.afterSpelling (completion stem).2) := by
  cases stem <;> rfl

/-- The numbers that complete what follows a spelling. -/
theorem exists_argument (completed : List Command) (mnemonic : Mnemonic) :
    ∃ rest command,
      (Reading.ofTurn completed (Mode.afterSpelling mnemonic)).feedAll rest =
        ⟨command :: completed, .ok Mode.start⟩ := by
  unfold Mode.afterSpelling
  cases mnemonic.parameter with
  | nothing => exact ⟨[], _, rfl⟩
  | number => exact ⟨[Token.space.code, Token.lineFeed.code], _, rfl⟩
  | label => exact ⟨[Token.lineFeed.code], _, rfl⟩

/-- Wherever a reading stands in a command, the command can be completed. -/
theorem exists_completion (completed : List Command) (mode : Mode) :
    ∃ rest command, Reading.feedAll ⟨completed, .ok mode⟩ rest =
      ⟨command :: completed, .ok Mode.start⟩ := by
  cases mode with
  | spelling stem =>
      obtain ⟨rest, command, completes⟩ := exists_argument completed (completion stem).2
      refine ⟨(completion stem).1.map Token.code ++ rest, command, ?_⟩
      rw [Reading.feedAll_append, feedAll_completion, completes]
  | sign mnemonic => exact ⟨[Token.space.code, Token.lineFeed.code], _, rfl⟩
  | digits mnemonic negative bits value => exact ⟨[Token.lineFeed.code], _, rfl⟩
  | label mnemonic bytes => exact ⟨[Token.lineFeed.code], _, rfl⟩

/-- What was not refused is the front of a program. -/
theorem exists_program {values : List Int} {mode : Mode}
    (stands : (Reading.after values).position = .ok mode) :
    ∃ rest commands, parse (values ++ rest) = .ok commands := by
  rcases read : Reading.after values with ⟨completed, position⟩
  rw [read] at stands
  subst stands
  obtain ⟨rest, command, completes⟩ := exists_completion completed mode
  refine ⟨rest, _, parse_eq_ok_iff.mpr ⟨?_, rfl⟩⟩
  rw [Reading.after_append, read, completes]

/-! ### Refusals are final -/

theorem afterSpelling_ne_refuses (mnemonic : Mnemonic) (error : ParseError) :
    Mode.afterSpelling mnemonic ≠ .refuses error := by
  unfold Mode.afterSpelling
  split <;> simp

theorem appendDigit_refuses {mnemonic : Mnemonic} {negative : Bool} {bits value digit : Nat}
    {error : ParseError}
    (refuses : Mode.appendDigit mnemonic negative bits value digit = .refuses error) :
    error = .numberTooLarge := by
  unfold Mode.appendDigit at refuses
  split at refuses
  · exact (Mode.Turn.refuses.inj refuses).symm
  · cases refuses

/-- A refusal names the number refused, or is about the size of a number. -/
theorem feed_refuses {mode : Mode} {value : Int} {error : ParseError}
    (refuses : mode.feed value = .refuses error) :
    (∃ state reason, error = .unexpectedByte value state reason) ∨ error = .numberTooLarge := by
  cases mode with
  | spelling stem =>
      simp only [Mode.feed] at refuses
      split at refuses
      · cases refuses
      · exact absurd refuses (afterSpelling_ne_refuses _ _)
      · cases refuses
        exact Or.inl ⟨_, _, rfl⟩
  | sign mnemonic =>
      simp only [Mode.feed] at refuses
      split at refuses
      · cases refuses
      · cases refuses
      · cases refuses
        exact Or.inl ⟨_, _, rfl⟩
      · cases refuses
        exact Or.inl ⟨_, _, rfl⟩
  | digits mnemonic negative bits magnitude =>
      simp only [Mode.feed] at refuses
      split at refuses
      · exact Or.inr (appendDigit_refuses refuses)
      · exact Or.inr (appendDigit_refuses refuses)
      · cases refuses
      · cases refuses
        exact Or.inl ⟨_, _, rfl⟩
  | label mnemonic bytes =>
      simp only [Mode.feed] at refuses
      split at refuses
      · cases refuses
      · cases refuses
      · cases refuses
      · cases refuses
        exact Or.inl ⟨_, _, rfl⟩

/-- The end of a stream is complained of as such. -/
theorem unfinished?_eq_some {mode : Mode} {error : ParseError}
    (unfinished : mode.unfinished? = some error) : ∃ during, error = .unexpectedEnd during := by
  unfold Mode.unfinished? at unfinished
  split at unfinished <;> cases unfinished <;> exact ⟨_, rfl⟩

/-- A reading that has ended was ended by some number, before which nothing was refused. -/
theorem exists_refused (values : List Int) {error : ParseError}
    (ended : (Reading.after values).position = .error error) :
    ∃ front last rest mode, values = front ++ last :: rest ∧
      (Reading.after front).position = .ok mode ∧ mode.feed last = .refuses error := by
  induction values using List.reverseRecOn with
  | nil => cases ended
  | append_singleton values value ih =>
      rw [Reading.after_append, Reading.feedAll_cons, Reading.feedAll_nil] at ended
      rcases before : Reading.after values with ⟨completed, earlier | mode⟩
      · rw [before, Reading.feed_error] at ended
        rw [before] at ih
        obtain ⟨front, last, rest, mode, rfl, stands, refuses⟩ := ih ended
        exact ⟨front, last, rest ++ [value], mode, by simp, stands, refuses⟩
      · rw [before, Reading.feed_ok] at ended
        refine ⟨values, value, [], mode, rfl, by rw [before], ?_⟩
        cases turn : mode.feed value with
        | moves next =>
            rw [turn] at ended
            cases ended
        | completes command =>
            rw [turn] at ended
            cases ended
        | refuses reason =>
            rw [turn] at ended
            cases ended
            rfl

/-- Behind a refused number nothing matters. -/
theorem after_refused {front : List Int} {last : Int} {mode : Mode} {error : ParseError}
    (stands : (Reading.after front).position = .ok mode) (refuses : mode.feed last = .refuses error)
    (more : List Int) :
    Reading.after (front ++ last :: more) = ⟨(Reading.after front).completed, .error error⟩ := by
  rcases read : Reading.after front with ⟨completed, position⟩
  rw [read] at stands
  subst stands
  rw [Reading.after_append, read, Reading.feedAll_cons, Reading.feed_ok, refuses]
  exact Reading.feedAll_error completed error more

/-! ### The longest program at the front of a stream -/

/-- A number after which the stream may not end completes no command. -/
theorem commands_snoc {values : List Int} {value : Int}
    (within : (Reading.after (values ++ [value])).position ≠ .ok Mode.start) :
    (Reading.after (values ++ [value])).commands = (Reading.after values).commands := by
  rw [Reading.after_append, Reading.feedAll_cons, Reading.feedAll_nil] at within ⊢
  rcases read : Reading.after values with ⟨completed, error | mode⟩
  · rfl
  · rw [read, Reading.feed_ok] at within
    rw [Reading.feed_ok]
    cases turn : mode.feed value with
    | moves next => rfl
    | completes command =>
        rw [turn] at within
        exact absurd rfl within
    | refuses error => rfl

/-- Some front of the stream is a program of exactly the commands completed, and no longer front is
a program. -/
theorem exists_longest (values : List Int) :
    ∃ front, front <+: values ∧ parse front = .ok (Reading.after values).commands ∧
      ∀ other, other <+: values → (∃ commands, parse other = .ok commands) →
        other.length ≤ front.length := by
  induction values using List.reverseRecOn with
  | nil =>
      refine ⟨[], List.prefix_rfl, rfl, ?_⟩
      intro other isFront _
      exact isFront.length_le
  | append_singleton values value ih =>
      by_cases between : (Reading.after (values ++ [value])).position = .ok Mode.start
      · refine ⟨values ++ [value], List.prefix_rfl, parse_eq_ok_iff.mpr ⟨between, rfl⟩, ?_⟩
        intro other isFront _
        exact isFront.length_le
      · obtain ⟨front, isFront, parsed, longest⟩ := ih
        refine ⟨front, isFront.trans (List.prefix_append values [value]), ?_, ?_⟩
        · rw [commands_snoc between]
          exact parsed
        · rintro other isOther ⟨commands, otherParsed⟩
          rcases List.prefix_concat_iff.mp isOther with rfl | shorter
          · exact absurd (parse_eq_ok_iff.mp otherParsed).1 between
          · exact longest other shorter ⟨commands, otherParsed⟩

/-! ### Errors come at the earliest place -/

/-- An error is that of an unfinished command, or it was given for a number of the stream. -/
theorem parse_eq_error {values : List Int} {error : ParseError}
    (failed : parse values = .error error) :
    (∃ mode, (Reading.after values).position = .ok mode ∧ mode.unfinished? = some error) ∨
      (Reading.after values).position = .error error := by
  unfold parse Reading.result Reading.error? at failed
  cases position : (Reading.after values).position with
  | error reason =>
      rw [position] at failed
      cases failed
      exact Or.inr rfl
  | ok mode =>
      rw [position] at failed
      left
      refine ⟨mode, rfl, ?_⟩
      cases unfinished : mode.unfinished? with
      | none => simp [unfinished] at failed
      | some reason =>
          simp only [unfinished] at failed
          cases failed
          rfl

/-- Reading complains of the end of a stream only if more numbers could make it a program. It
refuses a number only if the numbers before it could still begin a program and with it no longer
can: whatever follows, the error and the commands before it are the same. And those commands are the
longest program at the front of the stream. -/
theorem parse_viable (values : List Int) :
    (∀ during, parse values = .error (.unexpectedEnd during) →
      ∃ rest commands, parse (values ++ rest) = .ok commands) ∧
    (∀ error, parse values = .error error → (∀ during, error ≠ .unexpectedEnd during) →
      ∃ front last rest, values = front ++ last :: rest ∧
        (∃ more commands, parse (front ++ more) = .ok commands) ∧
        (∀ more, parse (front ++ last :: more) = .error error ∧
          (Reading.after (front ++ last :: more)).commands = (Reading.after values).commands) ∧
        ∀ byte state reason, error = .unexpectedByte byte state reason → byte = last) ∧
    (∀ error, parse values = .error error →
      ∃ front, front <+: values ∧ parse front = .ok (Reading.after values).commands ∧
        ∀ other, other <+: values → (∃ commands, parse other = .ok commands) →
          other.length ≤ front.length) := by
  refine ⟨?_, ?_, fun error _ => exists_longest values⟩
  · intro during failed
    rcases parse_eq_error failed with ⟨mode, stands, _⟩ | ended
    · exact exists_program stands
    · obtain ⟨front, last, rest, mode, _, _, refuses⟩ := exists_refused values ended
      rcases feed_refuses refuses with ⟨state, reason, same⟩ | same <;> cases same
  · intro error failed notEnd
    rcases parse_eq_error failed with ⟨mode, _, unfinished⟩ | ended
    · obtain ⟨during, same⟩ := unfinished?_eq_some unfinished
      exact absurd same (notEnd during)
    · obtain ⟨front, last, rest, mode, rfl, stands, refuses⟩ := exists_refused values ended
      refine ⟨front, last, rest, rfl, exists_program stands, ?_, ?_⟩
      · intro more
        have final := after_refused stands refuses
        constructor
        · unfold parse Reading.result Reading.error?
          rw [final]
        · rw [final, final]
      · rintro byte state reason rfl
        rcases feed_refuses refuses with ⟨_, _, same⟩ | same
        · cases same
          rfl
        · cases same

end BlankCode.Viability
