/-
Module: BlankCode.Proofs.Canonical
Purpose: Reading commands and writing them back. Many pieces spell a command with a number; what is
  written is the shortest of them. It drops the zeros in front of the digits and the minus sign of
  zero, and nothing else.
Main exports: Canonical.binaryDigits_magnitude, Canonical.numberTokens_signed, Canonical.Literal,
  Canonical.Bare, Canonical.Shortens, Canonical.exists_shortened, Canonical.rewrite_shortest
-/
import BlankCode.Proofs.RoundTrip
import Mathlib.Data.List.TakeWhile

namespace BlankCode.Canonical

open Grammar RoundTrip

/-! ### Numbers -/

/-- One more digit counts, unless it is a zero and none before it counts. -/
theorem counted_snoc (digits : List Token) (digit : Token) :
    counted (digits ++ [digit]) =
      if counted digits = [] then counted [digit] else counted digits ++ [digit] := by
  unfold counted
  rw [List.dropWhile_append]
  simp only [List.isEmpty_iff]

/-- The digits that are written of a value are those that count of any digits it has. -/
theorem binaryDigits_magnitude {digits : List Token} (areDigits : .lineFeed ∉ digits) :
    binaryDigits (magnitude digits) = counted digits := by
  induction digits using List.reverseRecOn with
  | nil => rfl
  | append_singleton digits digit ih =>
      obtain ⟨areDigits, isDigit⟩ : .lineFeed ∉ digits ∧ digit ≠ .lineFeed := by
        simpa [eq_comm] using areDigits
      rw [magnitude_snoc, counted_snoc, ← ih areDigits]
      rcases Nat.eq_zero_or_pos (magnitude digits) with zero | positive
      · rw [zero]
        cases digit with
        | space | tab => rfl
        | lineFeed => exact absurd rfl isDigit
      · have counts : binaryDigits (magnitude digits) ≠ [] := by
          rw [binaryDigits_eq_append positive]
          exact List.append_ne_nil_of_right_ne_nil _ (List.cons_ne_nil _ _)
        have isBit : digit.bit < 2 := by cases digit <;> decide
        have half : (magnitude digits * 2 + digit.bit) / 2 = magnitude digits := by omega
        have last : (magnitude digits * 2 + digit.bit) % 2 = digit.bit := by omega
        rw [if_neg counts, binaryDigits_eq_append (by omega), half, last]
        cases digit with
        | space | tab => rfl
        | lineFeed => exact absurd rfl isDigit

/-- The sign that is written of a number: zero has no minus. -/
def writtenSign (sign : Token) (magnitude : Nat) : Token :=
  if magnitude = 0 then .space else sign

/-- A number is written with the digits that count of any digits that it has. -/
theorem numberTokens_signed {sign : Token} {digits : List Token} (isSign : sign ≠ .lineFeed)
    (areDigits : .lineFeed ∉ digits) :
    numberTokens (signed sign (magnitude digits)) =
      writtenSign sign (magnitude digits) :: (counted digits ++ [.lineFeed]) := by
  have isWritten : (if signed sign (magnitude digits) < 0 then Token.tab else .space) =
      writtenSign sign (magnitude digits) := by
    cases sign with
    | lineFeed => exact absurd rfl isSign
    | space => simp [signed, writtenSign]
    | tab =>
        rcases Nat.eq_zero_or_pos (magnitude digits) with zero | positive
        · rw [zero]
          rfl
        · have negative : signed .tab (magnitude digits) < 0 := by
            rw [signed, if_pos rfl]
            omega
          rw [if_pos negative, writtenSign, if_neg (Nat.ne_of_gt positive)]
  rw [numberTokens, isWritten, natAbs_signed, binaryDigits_magnitude areDigits]

/-- A sign is written as it is unless it is the minus sign of zero. -/
theorem writtenSign_eq_iff {sign : Token} (isSign : sign ≠ .lineFeed) (magnitude : Nat) :
    writtenSign sign magnitude = sign ↔ (magnitude = 0 → sign ≠ .tab) := by
  unfold writtenSign
  by_cases zero : magnitude = 0
  · cases sign with
    | space | tab => simp [zero]
    | lineFeed => exact absurd rfl isSign
  · simp [zero]

/-- All digits count unless there is a zero in front of them. -/
theorem counted_eq_iff (digits : List Token) :
    counted digits = digits ↔ digits.head? ≠ some .space := by
  rw [counted, List.dropWhile_eq_self_iff]
  cases digits <;> simp

/-! ### One command -/

/-- The piece of a command holds a number, with a sign and digits. -/
def Literal (command : Command) (piece : List Token) (sign : Token) (digits : List Token) : Prop :=
  command.mnemonic.parameter = .number ∧
    ∃ spelling, command.mnemonic.spelling? = some spelling ∧
      piece = spelling ++ sign :: (digits ++ [.lineFeed])

/-- The number in the piece of a command, if there is one, has no zero in front of its digits, and
no minus sign if it is zero. -/
def Bare (command : Command) (piece : List Token) : Prop :=
  ∀ sign digits, Literal command piece sign digits →
    digits.head? ≠ some .space ∧ (magnitude digits = 0 → sign ≠ .tab)

/-- What is written for a command that was read from a piece. -/
structure Shortens (command : Command) (piece written : List Token) : Prop where
  writes : command.write = .ok (written.map Token.byte)
  spells : Spells command written
  shorter : written.length ≤ piece.length
  unchanged : written = piece ↔ Bare command piece

variable {command : Command} {piece : List Token}

/-- A command that takes no number has nothing that could be dropped. -/
theorem bare_of_takes (takes : command.mnemonic.parameter ≠ .number) : Bare command piece := by
  rintro sign digits ⟨takesNumber, _⟩
  exact absurd takesNumber takes

/-- A number in a piece has one sign and the digits behind it. -/
theorem bare_iff {spelling : List Token} (spelled : command.mnemonic.spelling? = some spelling)
    (takes : command.mnemonic.parameter = .number) {sign : Token} {digits : List Token} :
    Bare command (spelling ++ sign :: (digits ++ [.lineFeed])) ↔
      digits.head? ≠ some .space ∧ (magnitude digits = 0 → sign ≠ .tab) := by
  constructor
  · intro bare
    exact bare sign digits ⟨takes, spelling, spelled, rfl⟩
  · rintro bare otherSign otherDigits ⟨_, otherSpelling, otherSpelled, same⟩
    obtain rfl := Option.some.inj (spelled.symm.trans otherSpelled)
    obtain ⟨rfl, sameDigits⟩ := List.cons.inj (List.append_cancel_left same)
    obtain rfl := List.append_cancel_right sameDigits
    exact bare

/-- A command that was read has an argument that suits it. -/
theorem suited_of_spells (spells : Spells command piece) : Suited command := by
  cases spells with
  | plain spelled takes => exact ⟨fun _ => rfl, fun takesNumber => by simp [takes] at takesNumber⟩
  | number spelled takes =>
      exact ⟨fun takesNothing => by simp [takes] at takesNothing, fun _ => ⟨_, rfl⟩⟩
  | label spelled takes =>
      exact ⟨fun takesNothing => by simp [takes] at takesNothing,
        fun takesNumber => by simp [takes] at takesNumber⟩

/-- What is written for a command that was read spells that command. -/
theorem spells_of_write (spells : Spells command piece) {written : List Token}
    (writes : command.write = .ok (written.map Token.byte)) : Spells command written := by
  have letters := spells.argument_bounds.2
  have unbroken : ∀ label, command.argument = .label label → Token.lineFeed.byte ∉ label := by
    intro label given lineFeed
    have isLetter := letters label given _ lineFeed
    revert isLetter
    decide
  have again := spells_written (suited_of_spells spells) (writes_of_write writes) unbroken
  rwa [withoutComments_of_letters letters, significant_map_byte] at again

/-- A command that was read is written as a piece that shortens the one that it was read from. -/
theorem exists_shortens (spells : Spells command piece) :
    ∃ written, Shortens command piece written := by
  cases spells with
  | @plain mnemonic _ spelled takes =>
      have isWritten : Command.write ⟨mnemonic, .absent⟩ = .ok (piece.map Token.byte) := by
        simp [Command.write, Command.writeArgument, spelled, takes]
      exact ⟨piece, {
        writes := isWritten
        spells := .plain spelled takes
        shorter := Nat.le_refl _
        unchanged := iff_of_true rfl (bare_of_takes (by simp [takes])) }⟩
  | @label mnemonic spelling spelled takes letters areLetters =>
      have isWritten : Command.write ⟨mnemonic, .label (letters.map Token.byte)⟩ =
          .ok ((spelling ++ (letters ++ [Token.lineFeed])).map Token.byte) := by
        simp [Command.write, Command.writeArgument, spelled, takes, writeLabel]
      exact ⟨_, {
        writes := isWritten
        spells := .label spelled takes areLetters
        shorter := Nat.le_refl _
        unchanged := iff_of_true rfl (bare_of_takes (by simp [takes])) }⟩
  | @number mnemonic spelling spelled takes sign digits isSign areDigits fits =>
      have spells := Spells.number spelled takes isSign areDigits fits
      have short := spells.argument_bounds.1 _ rfl
      have isWritten : Command.write ⟨mnemonic, .integer (signed sign (magnitude digits))⟩ =
          .ok ((spelling ++ writtenSign sign (magnitude digits) ::
            (counted digits ++ [.lineFeed])).map Token.byte) := by
        rw [← numberTokens_signed isSign areDigits]
        simp only [Command.write, Command.writeArgument, spelled, takes, Argument.asInteger?,
          writeNumber]
        rw [if_pos (by exact short), List.map_append]
      have fewer : (counted digits).length ≤ digits.length := (List.dropWhile_suffix _).length_le
      refine ⟨_, {
        writes := isWritten
        spells := spells_of_write spells isWritten
        shorter := by simpa using fewer
        unchanged := ?_ }⟩
      rw [bare_iff spelled takes, ← counted_eq_iff, ← writtenSign_eq_iff isSign]
      simp [and_comm]

/-! ### All commands -/

/-- Commands are written one behind the other. -/
theorem writeAll_cons {commands : List Command} {part bytes : List UInt8}
    (first : command.write = .ok part) (rest : writeAll commands = .ok bytes) :
    writeAll (command :: commands) = .ok (part ++ bytes) := by
  unfold writeAll at rest ⊢
  rw [List.mapM_cons, first]
  cases written : commands.mapM Command.write with
  | error error =>
      rw [written] at rest
      cases rest
  | ok parts =>
      rw [written] at rest
      cases rest
      rfl

/-- Commands that were read are written as pieces that shorten those that they were read from. -/
theorem exists_shortened {commands : List Command} {pieces : List (List Token)}
    (spells : SpellsAll commands pieces) :
    ∃ shortened, writeAll commands = .ok (shortened.flatten.map Token.byte) ∧
      SpellsAll commands shortened ∧ shortened.flatten.length ≤ pieces.flatten.length ∧
      (shortened = pieces ↔ List.Forall₂ Bare commands pieces) := by
  induction spells with
  | nil => exact ⟨[], rfl, .nil, Nat.le_refl _, iff_of_true rfl .nil⟩
  | @cons command piece commands pieces first rest ih =>
      obtain ⟨written, shortens⟩ := exists_shortens first
      obtain ⟨shortened, writes, spells, shorter, unchanged⟩ := ih
      refine ⟨written :: shortened, ?_, .cons shortens.spells spells, ?_, ?_⟩
      · rw [List.flatten_cons, List.map_append]
        exact writeAll_cons shortens.writes writes
      · rw [List.flatten_cons, List.flatten_cons, List.length_append, List.length_append]
        exact Nat.add_le_add shortens.shorter shorter
      · rw [List.cons.injEq, List.forall₂_cons, shortens.unchanged, unchanged]

/-- What is read can be written back. What is written is read as the same commands and is not longer
than what was read; it is the same exactly if no number there had a zero in front of its digits and
no zero had a minus sign. -/
theorem rewrite_shortest {tokens : List Token} {commands : List Command}
    (parsed : parse (tokens.map Token.code) = .ok commands) :
    ∃ written pieces, writeAll commands = .ok (written.map Token.byte) ∧
      parse (written.map Token.code) = .ok commands ∧ written.length ≤ tokens.length ∧
      SpellsAll commands pieces ∧ tokens = pieces.flatten ∧
      (written = tokens ↔ List.Forall₂ Bare commands pieces) := by
  obtain ⟨pieces, spells, same⟩ := exists_pieces_of_parse parsed
  obtain rfl : tokens = pieces.flatten := List.map_injective_iff.mpr code_injective same
  obtain ⟨shortened, writes, spellsToo, shorter, unchanged⟩ := exists_shortened spells
  refine ⟨shortened.flatten, pieces, writes, parse_stream spellsToo, shorter, spells, rfl, ?_⟩
  rw [← unchanged]
  constructor
  · intro sameTokens
    exact (stream_injective spellsToo spells (congrArg (List.map Token.code) sameTokens)).2
  · rintro rfl
    rfl

/-- Pushes minus two with a zero in front and zero with a minus sign. -/
def wordy : List Token :=
  [.space, .space, .tab, .space, .tab, .space, .lineFeed, .space, .space, .tab, .lineFeed]

/-- The zero in front and the minus sign of zero are dropped. -/
theorem rewrite_shortest_wordy :
    ∃ commands written, parse (wordy.map Token.code) = .ok commands ∧
      commands = [⟨.push, .integer (-2)⟩, ⟨.push, .integer 0⟩] ∧
      writeAll commands = .ok (written.map Token.byte) ∧
      parse (written.map Token.code) = .ok commands ∧ written.length ≤ wordy.length ∧
      written =
        [.space, .space, .tab, .tab, .space, .lineFeed, .space, .space, .space, .lineFeed] := by
  have parsed : parse (wordy.map Token.code) =
      .ok [⟨.push, .integer (-2)⟩, ⟨.push, .integer 0⟩] := rfl
  obtain ⟨written, _, writes, again, shorter, _⟩ := rewrite_shortest parsed
  refine ⟨_, written, parsed, rfl, writes, again, shorter, ?_⟩
  have bytes : writeAll [⟨.push, .integer (-2)⟩, ⟨.push, .integer 0⟩] = .ok _ := rfl
  rw [← significant_map_byte written, Except.ok.inj (writes.symm.trans bytes)]
  rfl

end BlankCode.Canonical
