/-
Module: BlankCode.Proofs.RoundTrip
Purpose: Writing commands and reading them back. A command that can be written is written as a piece
  that spells it, with the comments in its label taken out; so what is read back is the same but for
  those comments. Whether a label has any is told by what is read back, because no label that is
  read has.
Main exports: RoundTrip.magnitude_binaryDigits, RoundTrip.Suited, RoundTrip.Writes,
  RoundTrip.writes_of_write, RoundTrip.spells_written, RoundTrip.parse_written, RoundTrip.read_back
-/
import BlankCode.Command.Writing
import BlankCode.Proofs.Grammar

namespace BlankCode

/-- A byte of a label that is no comment. -/
def Label.isLetter (byte : UInt8) : Bool :=
  byte == Token.space.byte || byte == Token.tab.byte

/-- A label without the bytes that are comment. -/
def Label.letterBytes (label : Label) : Label :=
  label.filter Label.isLetter

/-- A command without the comments in its label. -/
def Command.withoutComments (command : Command) : Command :=
  match command.argument with
  | .label label => { command with argument := .label label.letterBytes }
  | _ => command

namespace RoundTrip

open Grammar

/-! ### Numbers -/

/-- The last binary digit is the remainder by two, and the others are the digits of the half. -/
theorem binaryDigits_eq_append {value : Nat} (positive : 0 < value) :
    binaryDigits value =
      binaryDigits (value / 2) ++ [if value % 2 = 1 then .tab else .space] := by
  have last : (value % 2).digitChar = '1' ↔ value % 2 = 1 := by
    rcases Nat.mod_two_eq_zero_or_one value with even | odd
    · simp [even]
    · simp [odd]
  unfold binaryDigits
  rw [if_neg (Nat.ne_of_gt positive)]
  rcases Nat.lt_or_ge value 2 with single | more
  · have one : value = 1 := by omega
    subst one
    rfl
  · rw [if_neg (by omega), Nat.toDigits_of_base_le (by decide) more, List.map_append]
    simp [last]

/-- The digits of a number have its value. -/
theorem magnitude_binaryDigits (value : Nat) : magnitude (binaryDigits value) = value := by
  induction value using Nat.strongRecOn with
  | ind value ih =>
      rcases Nat.eq_zero_or_pos value with rfl | positive
      · rfl
      · rw [binaryDigits_eq_append positive, magnitude_snoc, ih (value / 2) (by omega)]
        rcases Nat.mod_two_eq_zero_or_one value with even | odd
        · rw [even]
          show value / 2 * 2 + 0 = value
          omega
        · rw [odd]
          show value / 2 * 2 + 1 = value
          omega

/-- The digits of a number are spaces and tabs. -/
theorem lineFeed_not_mem_binaryDigits (value : Nat) : .lineFeed ∉ binaryDigits value := by
  unfold binaryDigits
  split
  · exact List.not_mem_nil
  · intro member
    obtain ⟨digit, _, same⟩ := List.mem_map.mp member
    split at same <;> cases same

/-- A number below a power of two has no more digits than the exponent says. -/
theorem length_binaryDigits_le {value bits : Nat} (positive : 0 < bits) (below : value < 2 ^ bits) :
    (binaryDigits value).length ≤ bits := by
  unfold binaryDigits
  split
  · exact Nat.zero_le bits
  · rw [List.length_map]
    exact Nat.toDigits_length 2 value bits positive below

/-- The sign that is written gives the magnitude its own sign back. -/
theorem signed_natAbs (value : Int) :
    signed (if value < 0 then .tab else .space) value.natAbs = value := by
  unfold signed
  by_cases negative : value < 0
  · rw [if_pos negative, if_pos rfl]
    omega
  · rw [if_neg negative, if_neg (by decide)]
    omega

/-! ### Comments -/

/-- The tokens that are written are read as they are. -/
@[simp] theorem significant_map_byte (tokens : List Token) :
    significant (tokens.map Token.byte) = tokens := by
  induction tokens with
  | nil => rfl
  | cons token rest ih =>
      unfold significant at ih ⊢
      rw [List.map_cons, List.filterMap_cons_some (Token.ofByte?_byte token), ih]

/-- A byte is no line feed and a token, or it is comment or a line feed. -/
theorem ofByte?_of_ne_lineFeed {byte : UInt8} (noLineFeed : byte ≠ Token.lineFeed.byte) :
    (∃ token : Token, token ≠ .lineFeed ∧ byte = token.byte) ∨
      (Token.ofByte? byte = none ∧ byte ≠ Token.space.byte ∧ byte ≠ Token.tab.byte) := by
  by_cases space : byte = Token.space.byte
  · exact Or.inl ⟨.space, by decide, space⟩
  · by_cases tab : byte = Token.tab.byte
    · exact Or.inl ⟨.tab, by decide, tab⟩
    · exact Or.inr ⟨by simp_all [Token.ofByte?, Token.byte], space, tab⟩

/-- The tokens in a label without line feeds are letters, and they are its bytes that are no
comment. -/
theorem significant_label {label : Label} (unbroken : Token.lineFeed.byte ∉ label) :
    .lineFeed ∉ significant label ∧ (significant label).map Token.byte = label.letterBytes := by
  induction label with
  | nil => exact ⟨List.not_mem_nil, rfl⟩
  | cons byte rest ih =>
      obtain ⟨noLineFeed, unbroken⟩ := List.ne_and_not_mem_of_not_mem_cons unbroken
      obtain ⟨areLetters, same⟩ := ih unbroken
      unfold significant at areLetters same ⊢
      unfold Label.letterBytes at same ⊢
      rcases ofByte?_of_ne_lineFeed (Ne.symm noLineFeed) with
        ⟨token, isLetter, rfl⟩ | ⟨comment, noSpace, noTab⟩
      · rw [List.filterMap_cons_some (Token.ofByte?_byte token)]
        have kept : Label.isLetter token.byte = true := by
          cases token with
          | space | tab => rfl
          | lineFeed => exact absurd rfl isLetter
        rw [List.filter_cons_of_pos kept, List.map_cons, same]
        exact ⟨List.not_mem_cons_of_ne_of_not_mem (Ne.symm isLetter) areLetters, rfl⟩
      · have dropped : ¬ Label.isLetter byte = true := by simp [Label.isLetter, noSpace, noTab]
        rw [List.filterMap_cons_none comment, List.filter_cons_of_neg dropped]
        exact ⟨areLetters, same⟩

/-- A label of spaces and tabs alone stays as it is. -/
theorem letterBytes_of_letters {label : Label}
    (letters : ∀ byte ∈ label, byte = 0x20 ∨ byte = 0x09) : label.letterBytes = label := by
  apply List.filter_eq_self.mpr
  intro byte member
  simpa [Label.isLetter, Token.byte] using letters byte member

/-! ### One command -/

/-- A command has an argument of the kind that it takes, as far as numbers go and where it takes
none. -/
structure Suited (command : Command) : Prop where
  nothing : command.mnemonic.parameter = .nothing → command.argument = .absent
  number : command.mnemonic.parameter = .number → ∃ value, command.argument = .integer value

/-- What a command is written as. A number must fit, and a truth value counts as one. -/
inductive Writes : Command → List UInt8 → Prop where
  | plain {mnemonic : Mnemonic} {argument : Argument} {spelling : List Token}
      (spelled : mnemonic.spelling? = some spelling)
      (takes : mnemonic.parameter = .nothing) :
      Writes ⟨mnemonic, argument⟩ (spelling.map Token.byte)
  | number {mnemonic : Mnemonic} {argument : Argument} {value : Int} {spelling : List Token}
      (spelled : mnemonic.spelling? = some spelling)
      (takes : mnemonic.parameter = .number)
      (counts : argument.asInteger? = some value) (fits : value.natAbs < 2 ^ 63) :
      Writes ⟨mnemonic, argument⟩ ((spelling ++ numberTokens value).map Token.byte)
  | label {mnemonic : Mnemonic} {label : Label} {spelling : List Token}
      (spelled : mnemonic.spelling? = some spelling)
      (takes : mnemonic.parameter = .label) :
      Writes ⟨mnemonic, .label label⟩ (spelling.map Token.byte ++ writeLabel label)

/-- A command is written as the one thing that it can be written as. -/
theorem writes_of_write {command : Command} {bytes : List UInt8}
    (written : command.write = .ok bytes) : Writes command bytes := by
  rcases command with ⟨mnemonic, argument⟩
  unfold Command.write at written
  cases spelled : mnemonic.spelling? with
  | none => simp [spelled] at written
  | some spelling =>
      simp only [spelled, Command.writeArgument] at written
      cases takes : mnemonic.parameter with
      | nothing =>
          simp only [takes, List.append_nil, Except.ok.injEq] at written
          subst written
          exact .plain spelled takes
      | number =>
          simp only [takes] at written
          cases counts : argument.asInteger? with
          | none => simp [counts] at written
          | some value =>
              simp only [counts, writeNumber] at written
              by_cases fits : value.natAbs < Nat.pow 2 literalBits
              · simp only [if_pos fits, ← List.map_append, Except.ok.injEq] at written
                subst written
                exact .number spelled takes counts fits
              · rw [if_neg fits] at written
                cases written
      | label =>
          simp only [takes] at written
          cases argument with
          | label label =>
              simp only [Except.ok.injEq] at written
              subst written
              exact .label spelled takes
          | _ => cases written

/-- What a command is written as is a piece that spells the command without its comments. -/
theorem spells_written {command : Command} {bytes : List UInt8} (suited : Suited command)
    (writes : Writes command bytes)
    (unbroken : ∀ label, command.argument = .label label → Token.lineFeed.byte ∉ label) :
    Spells command.withoutComments (significant bytes) := by
  cases writes with
  | plain spelled takes =>
      obtain rfl := suited.nothing takes
      rw [significant_map_byte]
      exact .plain spelled takes
  | @number mnemonic argument value spelling spelled takes counts fits =>
      obtain ⟨number, rfl⟩ := suited.number takes
      obtain rfl := Option.some.inj counts
      rw [significant_map_byte]
      have areDigits := lineFeed_not_mem_binaryDigits number.natAbs
      have few : (counted (binaryDigits number.natAbs)).length ≤ 63 :=
        Nat.le_trans (List.dropWhile_suffix _).length_le
          (length_binaryDigits_le (by decide) fits)
      have isSign : (if number < 0 then Token.tab else .space) ≠ .lineFeed := by
        split <;> decide
      have spells := Spells.number spelled takes isSign areDigits few
      rw [magnitude_binaryDigits, signed_natAbs] at spells
      exact spells
  | @label mnemonic label spelling spelled takes =>
      obtain ⟨areLetters, same⟩ := significant_label (unbroken label rfl)
      have ending : significant [Token.lineFeed.byte] = [.lineFeed] := rfl
      rw [writeLabel, significant_append, significant_append, significant_map_byte, ending]
      have spells := Spells.label spelled takes areLetters
      rw [same] at spells
      exact spells

/-! ### All commands -/

/-- Commands are written one by one. -/
theorem exists_parts_of_writeAll {commands : List Command} :
    ∀ {bytes : List UInt8}, writeAll commands = .ok bytes →
      ∃ parts, List.Forall₂ Writes commands parts ∧ bytes = parts.flatten := by
  induction commands with
  | nil =>
      rintro bytes ⟨⟩
      exact ⟨[], .nil, rfl⟩
  | cons command rest ih =>
      intro bytes written
      unfold writeAll at written ih
      rw [List.mapM_cons] at written
      cases first : command.write with
      | error error =>
          rw [first] at written
          cases written
      | ok part =>
          rw [first] at written
          cases others : rest.mapM Command.write with
          | error error =>
              rw [others] at written
              cases written
          | ok more =>
              rw [others] at written ih
              cases written
              obtain ⟨parts, writes, same⟩ := ih rfl
              exact ⟨part :: parts, .cons (writes_of_write first) writes, by simp [same]⟩

/-- What is written is read back as the commands without their comments. -/
theorem parse_written {commands : List Command} {parts : List (List UInt8)}
    (suited : ∀ command ∈ commands, Suited command)
    (unbroken : ∀ command ∈ commands, ∀ label, command.argument = .label label →
      Token.lineFeed.byte ∉ label)
    (writes : List.Forall₂ Writes commands parts) :
    Source.parse (.whole (.bytes parts.flatten)) =
      .ok (commands.map Command.withoutComments) := by
  have spells : SpellsAll (commands.map Command.withoutComments) (parts.map significant) := by
    induction writes with
    | nil => exact .nil
    | @cons command part commands parts first rest ih =>
        obtain ⟨isSuited, suited⟩ := List.forall_mem_cons.mp suited
        obtain ⟨isUnbroken, unbroken⟩ := List.forall_mem_cons.mp unbroken
        exact .cons (spells_written isSuited first isUnbroken) (ih suited unbroken)
  have tokens : significant parts.flatten = (parts.map significant).flatten := by
    unfold significant
    rw [List.filterMap_flatten]
  have same : (Source.whole (.bytes parts.flatten)).values = stream (parts.map significant) := by
    rw [stream, ← tokens]
    rfl
  refine Source.parse_eq_ok_iff.mpr ⟨rfl, ?_⟩
  rw [same]
  exact parse_stream spells

/-- No label that is read has comments. -/
theorem letters_of_parse {source : Source} {commands : List Command}
    (parsed : source.parse = .ok commands) :
    ∀ command ∈ commands, ∀ label, command.argument = .label label →
      ∀ byte ∈ label, byte = 0x20 ∨ byte = 0x09 := by
  have read := (Source.parse_eq_ok_iff.mp parsed).2
  obtain ⟨pieces, spells, _⟩ := exists_pieces_of_parse read
  intro command member
  exact (SpellsAll.argument_bounds spells command member).2

/-- A command whose label has no comments is the same without them. -/
theorem withoutComments_of_letters {command : Command}
    (letters : ∀ label, command.argument = .label label →
      ∀ byte ∈ label, byte = 0x20 ∨ byte = 0x09) : command.withoutComments = command := by
  rcases command with ⟨mnemonic, argument⟩
  cases argument with
  | label label => simp [Command.withoutComments, letterBytes_of_letters (letters label rfl)]
  | _ => rfl

/-- Reading undoes writing exactly when the labels are of spaces and tabs alone. While no label has
a line feed, what is read back is what was written but for the other bytes of the labels. -/
theorem read_back {commands : List Command} {bytes : List UInt8}
    (written : writeAll commands = .ok bytes) (suited : ∀ command ∈ commands, Suited command) :
    (Source.parse (.whole (.bytes bytes)) = .ok commands ↔
      ∀ command ∈ commands, ∀ label, command.argument = .label label →
        ∀ byte ∈ label, byte = 0x20 ∨ byte = 0x09) ∧
    ((∀ command ∈ commands, ∀ label, command.argument = .label label → (0x0A : UInt8) ∉ label) →
      Source.parse (.whole (.bytes bytes)) = .ok (commands.map Command.withoutComments)) := by
  obtain ⟨parts, writes, rfl⟩ := exists_parts_of_writeAll written
  have stripped := fun unbroken => parse_written suited unbroken writes
  refine ⟨⟨letters_of_parse, ?_⟩, stripped⟩
  intro letters
  have unbroken : ∀ command ∈ commands, ∀ label, command.argument = .label label →
      (0x0A : UInt8) ∉ label := by
    intro command member label given lineFeed
    have isLetter := letters command member label given 0x0A lineFeed
    revert isLetter
    decide
  have unchanged : commands.map Command.withoutComments = commands :=
    calc commands.map Command.withoutComments
        = commands.map id := List.map_congr_left fun command member =>
          withoutComments_of_letters (letters command member)
      _ = commands := List.map_id commands
  rw [stripped unbroken, unchanged]

/-- A loop with a remark in two of its labels, and with numbers at both ends of their range. -/
def annotated : List Command :=
  [⟨.push, .integer (-0x7FFFFFFFFFFFFFFF)⟩, ⟨.mark, .label [0x20, 0x61, 0x09]⟩, ⟨.copy, .integer 0⟩,
    ⟨.writeNumber, .absent⟩, ⟨.jump, .label [0x62, 0x20, 0x09]⟩]

/-- The remarks are lost when the loop is read back, and nothing else is. -/
theorem read_back_annotated :
    ∃ bytes, writeAll annotated = .ok bytes ∧
      Source.parse (.whole (.bytes bytes)) ≠ .ok annotated ∧
      Source.parse (.whole (.bytes bytes)) = .ok
        [⟨.push, .integer (-0x7FFFFFFFFFFFFFFF)⟩, ⟨.mark, .label [0x20, 0x09]⟩,
          ⟨.copy, .integer 0⟩, ⟨.writeNumber, .absent⟩, ⟨.jump, .label [0x20, 0x09]⟩] := by
  have suited : ∀ command ∈ annotated, Suited command := by
    intro command member
    simp only [annotated, List.mem_cons, List.not_mem_nil, or_false] at member
    rcases member with rfl | rfl | rfl | rfl | rfl <;>
      exact ⟨fun takes => by cases takes <;> rfl, fun takes => by cases takes <;> exact ⟨_, rfl⟩⟩
  have written : writeAll annotated = .ok _ := rfl
  obtain ⟨same, stripped⟩ := read_back written suited
  refine ⟨_, rfl, ?_, stripped (by simp [annotated])⟩
  rw [Ne, same]
  simp [annotated]

end RoundTrip

end BlankCode
