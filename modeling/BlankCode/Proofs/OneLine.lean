/-
Module: BlankCode.Proofs.OneLine
Purpose: Whatever is reported of a source that does not load is one line. Numbers, quoted texts, the
  letters of labels that were read, and the names of states have no line feed in them, and neither
  have the messages that are put together from these.
Main exports: OneLine, Quoted.oneLine_text, FileError.oneLine, Source.oneLine_of_parse,
  Linking.oneLine_of_link
-/
import BlankCode.CommandLine.Directory
import BlankCode.Proofs.Encoding
import BlankCode.Proofs.Foreseen

namespace BlankCode

/-- A string without line feeds. -/
def OneLine (string : String) : Prop :=
  '\n' ∉ string.toList

instance (string : String) : Decidable (OneLine string) :=
  inferInstanceAs (Decidable (¬ _))

/-! ### Strings -/

@[simp] theorem oneLine_append {left right : String} :
    OneLine (left ++ right) ↔ OneLine left ∧ OneLine right := by
  simp [OneLine, String.toList_append]

theorem OneLine.append {left right : String} (first : OneLine left) (second : OneLine right) :
    OneLine (left ++ right) :=
  oneLine_append.mpr ⟨first, second⟩

@[simp] theorem oneLine_ofList {chars : List Char} :
    OneLine (String.ofList chars) ↔ '\n' ∉ chars := by
  simp [OneLine]

/-- A string that is written out is one line if none of its characters is a line feed. -/
theorem OneLine.literal {chars : List Char} (absent : '\n' ∉ chars) :
    OneLine (String.ofList chars) :=
  oneLine_ofList.mpr absent

@[simp] theorem oneLine_singleton {char : Char} :
    OneLine (String.singleton char) ↔ '\n' ≠ char := by
  simp [OneLine]

theorem oneLine_join {strings : List String} (each : ∀ string ∈ strings, OneLine string) :
    OneLine (String.join strings) := by
  have chars : (String.join strings).toList = strings.flatMap String.toList := by
    simp
  rw [OneLine, chars, List.mem_flatMap]
  rintro ⟨string, among, lineFeed⟩
  exact each string among lineFeed

theorem oneLine_intercalate {between : String} (isLine : OneLine between) {strings : List String}
    (each : ∀ string ∈ strings, OneLine string) : OneLine (between.intercalate strings) := by
  induction strings with
  | nil =>
      rw [String.intercalate_nil]
      exact .literal (by decide)
  | cons first rest ih =>
      obtain ⟨isFirst, others⟩ := List.forall_mem_cons.mp each
      cases rest with
      | nil =>
          rw [String.intercalate_singleton]
          exact isFirst
      | cons second rest =>
          rw [String.intercalate_cons_cons]
          exact (isFirst.append isLine).append (ih others)

/-- The line feeds of a string are those of its text. -/
theorem lineFeed_mem_ofString {string : String} :
    CodePoint.lineFeed ∈ Text.ofString string ↔ '\n' ∈ string.toList := by
  rw [Text.ofString, List.mem_map]
  constructor
  · rintro ⟨char, among, isLineFeed⟩
    have same := congrArg CodePoint.toChar? isLineFeed
    rw [CodePoint.toChar?_ofChar] at same
    cases same
    exact among
  · intro among
    exact ⟨'\n', among, rfl⟩

/-! ### Numbers -/

/-- No digit is a line feed, whatever it is the digit of. -/
theorem digitChar_ne_lineFeed (digit : Nat) :
    digit.digitChar ≠ '\n' ∧ digit.digitChar.toUpper ≠ '\n' := by
  by_cases small : digit < 16
  · revert digit
    decide
  · have beyond : digit.digitChar = '*' := by
      unfold Nat.digitChar
      repeat rw [if_neg (by omega)]
    rw [beyond]
    decide

theorem exists_digit_of_mem_toDigits {base : Nat} (wide : 1 < base) (value : Nat) :
    ∀ char ∈ Nat.toDigits base value, ∃ digit : Nat, char = digit.digitChar := by
  induction value using Nat.strongRecOn with
  | ind value ih =>
      rw [Nat.toDigits_eq_if wide]
      split
      · simp
      · intro char among
        rcases List.mem_append.mp among with isEarlier | isLast
        · exact ih (value / base) (Nat.div_lt_self (by omega) wide) char isEarlier
        · exact ⟨_, List.mem_singleton.mp isLast⟩

theorem lineFeed_not_mem_toDigits {base : Nat} (wide : 1 < base) (value : Nat) :
    '\n' ∉ Nat.toDigits base value := by
  intro among
  obtain ⟨digit, same⟩ := exists_digit_of_mem_toDigits wide value _ among
  exact (digitChar_ne_lineFeed digit).1 same.symm

@[simp] theorem oneLine_natural (value : Nat) : OneLine (toString value) := by
  rw [Nat.toString_eq_ofList_toDigits, oneLine_ofList]
  exact lineFeed_not_mem_toDigits (by decide) value

@[simp] theorem oneLine_integer (value : Int) : OneLine (toString value) := by
  cases value with
  | ofNat value => exact oneLine_natural value
  | negSucc value =>
      have written : toString (Int.negSucc value) = "-" ++ toString (value + 1) := rfl
      rw [written, oneLine_append]
      exact ⟨.literal (by decide), oneLine_natural _⟩

@[simp] theorem oneLine_lower (width value : Nat) : OneLine (Hexadecimal.lower width value) := by
  have digits : '\n' ∉ Nat.toDigits 16 value := lineFeed_not_mem_toDigits (by decide) value
  simp [Hexadecimal.lower, digits]

@[simp] theorem oneLine_upper (width value : Nat) : OneLine (Hexadecimal.upper width value) := by
  unfold Hexadecimal.upper Hexadecimal.lower
  rw [oneLine_ofList, String.toList_ofList, List.map_append, List.map_replicate, List.mem_append]
  rintro (isPadding | isDigit)
  · have same := List.eq_of_mem_replicate isPadding
    revert same
    decide
  · obtain ⟨char, among, same⟩ := List.mem_map.mp isDigit
    obtain ⟨digit, rfl⟩ := exists_digit_of_mem_toDigits (by decide) value _ among
    exact (digitChar_ne_lineFeed digit).2 same

@[simp] theorem oneLine_hexadecimal (value : Int) : OneLine (Token.hexadecimal value) := by
  unfold Token.hexadecimal
  rw [oneLine_append]
  refine ⟨.literal (by decide), ?_⟩
  split
  · rw [oneLine_append]
    exact ⟨.literal (by decide), oneLine_upper _ _⟩
  · exact oneLine_upper _ _

/-! ### Quoted texts -/

namespace Quoted

theorem short?_lineFeed (quote : Char) : short? quote '\n'.toNat ≠ none := by
  unfold short?
  rw [if_neg (by decide)]
  split <;> simp

/-- A line feed between quotes is escaped. -/
theorem oneLine_point {quote : Char} (isQuote : '\n' ≠ quote) (value : CodePoint) :
    OneLine (point quote value) := by
  unfold point
  split
  · rename_i escape found
    unfold short? at found
    split at found
    · cases found
      exact .literal (by decide)
    · split at found
      · cases found
        rw [oneLine_ofList]
        simp [isQuote]
      · repeat' split at found
        all_goals cases found
        all_goals decide
  · rename_i noEscape
    split
    · rename_i char found
      rw [oneLine_singleton]
      rintro rfl
      split at found
      · have same := CodePoint.ofChar_of_toChar? found
        subst same
        exact short?_lineFeed quote noEscape
      · cases found
    · unfold numbered
      repeat' split
      all_goals simp
      all_goals decide

/-- A text between quotes is one line. -/
theorem oneLine_text (content : Text) : OneLine (text content) := by
  have isQuote : '\n' ≠ delimiter (content.map Fin.val) := by
    unfold delimiter
    split <;> decide
  simp only [text, oneLine_append, oneLine_singleton]
  refine ⟨⟨isQuote, ?_⟩, isQuote⟩
  apply oneLine_join
  intro string among
  obtain ⟨value, _, rfl⟩ := List.mem_map.mp among
  exact oneLine_point isQuote value

end Quoted

/-- Why a name cannot be opened is said in one line. -/
theorem FileError.oneLine (error : FileError) : OneLine error.message := by
  cases error with
  | missing name | notADirectory name | isADirectory name | nameTooLong name =>
      exact .append (.literal (by decide)) (Quoted.oneLine_text name)

/-! ### Reading -/

theorem ParseError.oneLine_unexpectedByte {byte : Int} {state reason : String}
    (stated : OneLine state) (reasoned : OneLine reason) :
    OneLine (unexpectedByte byte state reason).message := by
  have between : OneLine " in state " := .literal (by decide)
  have begun : OneLine ("unexpected byte " ++ Token.hexadecimal byte) :=
    .append (.literal (by decide)) (oneLine_hexadecimal byte)
  apply ((begun.append between).append stated).append
  split
  · exact .literal (by decide)
  · exact .append (.literal (by decide)) reasoned

theorem Stem.oneLine_name (stem : Stem) : OneLine stem.name := by
  cases stem <;> exact .literal (by decide)

theorem Stem.oneLine_path (stem : Stem) : OneLine stem.path := by
  cases stem <;> exact .literal (by decide)

theorem Token.oneLine_name (token : Token) : OneLine token.name := by
  cases token <;> exact .literal (by decide)

theorem Stem.oneLine_refusal (stem : Stem) (value : Int) :
    OneLine (stem.refusal value).message := by
  apply ParseError.oneLine_unexpectedByte stem.oneLine_name
  split
  · rename_i token _
    refine .append (.append (.literal (by decide)) ?_) token.oneLine_name
    split
    · exact .literal (by decide)
    · exact .append stem.oneLine_path (.literal (by decide))
  · exact .literal (by decide)

/-- What a number of a stream is refused for is said in one line. -/
theorem Mode.oneLine_of_refuses {mode : Mode} {value : Int} {error : ParseError}
    (refuses : mode.feed value = .refuses error) : OneLine error.message := by
  have digit {mnemonic : Mnemonic} {negative : Bool} {bits magnitude digit : Nat}
      (refuses : appendDigit mnemonic negative bits magnitude digit = .refuses error) :
      OneLine error.message := by
    unfold appendDigit at refuses
    split at refuses
    · cases refuses
      exact .literal (by decide)
    · cases refuses
  cases mode with
  | spelling stem =>
      simp only [feed] at refuses
      split at refuses
      · cases refuses
      · rename_i mnemonic _
        unfold afterSpelling at refuses
        split at refuses <;> cases refuses
      · cases refuses
        exact stem.oneLine_refusal value
  | sign mnemonic =>
      simp only [feed] at refuses
      split at refuses
      · cases refuses
      · cases refuses
      · cases refuses
        exact ParseError.oneLine_unexpectedByte (.literal (by decide)) (.literal (by decide))
      · cases refuses
        exact ParseError.oneLine_unexpectedByte (.literal (by decide)) (.literal (by decide))
  | digits mnemonic negative bits magnitude =>
      simp only [feed] at refuses
      split at refuses
      · exact digit refuses
      · exact digit refuses
      · cases refuses
      · cases refuses
        exact ParseError.oneLine_unexpectedByte (.literal (by decide)) (.literal (by decide))
  | label mnemonic bytes =>
      simp only [feed] at refuses
      split at refuses
      · cases refuses
      · cases refuses
      · cases refuses
      · cases refuses
        exact ParseError.oneLine_unexpectedByte (.literal (by decide)) (.literal (by decide))

/-- What is missing at the end of a stream is said in one line. -/
theorem Mode.oneLine_of_unfinished? {mode : Mode} {error : ParseError}
    (ends : mode.unfinished? = some error) : OneLine error.message := by
  unfold unfinished? at ends
  split at ends
  · cases ends
  · rename_i stem _
    cases ends
    exact .append (.literal (by decide)) (.append (.literal (by decide)) stem.oneLine_name)
  all_goals
    cases ends
    exact .append (.literal (by decide)) (.literal (by decide))

/-- What ends the reading of a stream is said in one line: each number keeps that so. -/
theorem Reading.oneLine_of_position (values : List Int) :
    ∀ {reading : Reading} {error : ParseError},
      (∀ earlier, reading.position = .error earlier → OneLine earlier.message) →
      (reading.feedAll values).position = .error error → OneLine error.message := by
  induction values with
  | nil =>
      intro reading error before ended
      exact before error ended
  | cons value rest ih =>
      intro reading error before
      apply ih
      rcases reading with ⟨completed, found | mode⟩
      · exact before
      · intro earlier ended
        rw [feed_ok] at ended
        cases turn : mode.feed value with
        | moves next =>
            rw [turn] at ended
            cases ended
        | completes command =>
            rw [turn] at ended
            cases ended
        | refuses refused =>
            rw [turn] at ended
            cases ended
            exact Mode.oneLine_of_refuses turn

/-- Why a stream is no program is said in one line. -/
theorem oneLine_of_parse {values : List Int} {error : ParseError}
    (failed : parse values = .error error) : OneLine error.message := by
  unfold parse Reading.result Reading.error? at failed
  cases position : (Reading.after values).position with
  | error found =>
      rw [position] at failed
      cases failed
      refine Reading.oneLine_of_position values (fun earlier ended => ?_) position
      cases ended
  | ok mode =>
      rw [position] at failed
      dsimp only at failed
      cases ends : mode.unfinished? with
      | none =>
          rw [ends] at failed
          cases failed
      | some found =>
          rw [ends] at failed
          cases failed
          exact Mode.oneLine_of_unfinished? ends

/-- That a source has no bytes is no failure. -/
theorem Source.ne_failure_of_refusal? {source : Source} {defeat : Defeat}
    (refused : source.refusal? = some defeat) (failure : Failure) : defeat ≠ .failure failure := by
  have raised {piece : Piece} (refused : piece.refusal? = some defeat) :
      defeat ≠ .failure failure := by
    unfold Piece.refusal? at refused
    split at refused
    · cases refused
    · cases refused
      exact nofun
  cases source with
  | whole piece => exact raised refused
  | file pieces =>
      obtain ⟨piece, _, refused⟩ := Option.bind_eq_some_iff.mp refused
      exact raised refused

/-- So is why a source is none, if it is for a failure. -/
theorem Source.oneLine_of_parse {source : Source} {failure : Failure}
    (failed : source.parse = .error (.failure failure)) : OneLine failure.message := by
  rcases Source.parse_error_cases failed with refused | ⟨error, read, isError⟩
  · exact absurd rfl (ne_failure_of_refusal? refused failure)
  · cases isError
    exact BlankCode.oneLine_of_parse read

/-! ### Linking -/

/-- Bytes of seven bits are decoded one by one. -/
theorem Utf8.decodeFrom_ascii {bytes : List UInt8} (ascii : ∀ byte ∈ bytes, byte.toNat < 0x80) :
    ∀ read : List Char,
      decodeFrom none read bytes = read.reverse ++ bytes.map fun byte => Char.ofNat byte.toNat := by
  induction bytes with
  | nil => simp [decodeFrom]
  | cons byte rest ih =>
      obtain ⟨isAscii, others⟩ := List.forall_mem_cons.mp ascii
      intro read
      have fed : feed none byte.toNat = ([Char.ofNat byte.toNat], none) := if_pos isAscii
      rw [decodeFrom, fed]
      dsimp only
      rw [ih others]
      simp

/-- The letter for a space or a tab. -/
def Label.letter (byte : UInt8) : Char :=
  if byte = 0x20 then 'S' else 'T'

theorem Label.letter_eq (byte : UInt8) : letter byte = 'S' ∨ letter byte = 'T' := by
  unfold letter
  split
  · exact Or.inl rfl
  · exact Or.inr rfl

/-- A label of spaces and tabs has a letter for each of them. -/
theorem Label.letters_eq {label : Label} (blank : ∀ byte ∈ label, byte = 0x20 ∨ byte = 0x09) :
    label.letters = String.ofList (label.map letter) := by
  have ascii : ∀ byte ∈ label, byte.toNat < 0x80 := by
    intro byte among
    rcases blank byte among with rfl | rfl <;> decide
  rw [letters, Utf8.decodeLossy, Utf8.decodeFrom_ascii ascii, List.reverse_nil, List.nil_append,
    List.map_map]
  congr 1
  apply List.map_congr_left
  intro byte among
  rcases blank byte among with rfl | rfl <;> rfl

/-- The letters of a label of spaces and tabs are one line. -/
theorem Label.oneLine_letters {label : Label}
    (blank : ∀ byte ∈ label, byte = 0x20 ∨ byte = 0x09) : OneLine label.letters := by
  rw [letters_eq blank, oneLine_ofList, List.mem_map]
  rintro ⟨byte, _, same⟩
  rcases letter_eq byte with isLetter | isLetter <;> cases isLetter.symm.trans same

/-- Why the commands of a source cannot be linked is said in one line. -/
theorem Linking.oneLine_of_link {source : Source} {commands : List Command} {error : LinkError}
    (parsed : source.parse = .ok commands) (failed : link commands = .error error) :
    OneLine error.message := by
  obtain ⟨pieces, spells, _⟩ := Grammar.exists_pieces_of_parse (Source.parse_eq_ok_iff.mp parsed).2
  have letters {label : Label} {command : Command} (member : command ∈ commands)
      (given : command.argument = .label label) : OneLine label.letters :=
    Label.oneLine_letters ((spells.argument_bounds command member).2 label given)
  have marked {index : Nat} {label : Label} (marks : Marks commands index label) :
      OneLine label.letters := letters (List.mem_of_getElem? marks) rfl
  cases links_of_link_error failed with
  | @faulty index _ fault =>
      obtain ⟨command, there, reason⟩ := fault.cases_complaint
      rcases reason with ⟨complaint, complained, _⟩ | ⟨_, label, previous, _, _, marks, _, rfl⟩
      · have quiet := spells.complaint? command (List.mem_of_getElem? there) index
        rw [quiet] at complained
        cases complained
      · have between : OneLine ": duplicate label (from index " := .literal (by decide)
        have later : OneLine ("index " ++ toString (index : Int)) :=
          .append (.literal (by decide)) (oneLine_integer _)
        have earlier := (later.append between).append (oneLine_integer previous)
        exact (earlier.append (.literal (by decide))).append (marked marks)
  | pastEnd _ _ marks =>
      exact .append (.literal (by decide)) (marked marks)
  | undefined _ _ refers =>
      obtain ⟨mnemonic, _, there⟩ := refers
      have member := (List.mem_filter.mp (List.mem_of_getElem? there)).1
      exact .append (.literal (by decide)) (letters member rfl)

end BlankCode
