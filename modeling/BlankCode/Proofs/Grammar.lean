/-
Module: BlankCode.Proofs.Grammar
Purpose: The grammar of programs, stated without a reader, and the proof that reading accepts
  exactly its sentences. A sentence is one piece per command: the tokens of its spelling, then what
  the command takes. The reader is followed token by token: `Begun` says which beginning of a piece
  each of its modes stands for.
Main exports: Grammar.magnitude, Grammar.Spells, Grammar.Begun, Grammar.Begun.feed,
  Grammar.feedAll_pieces, Grammar.exists_pieces, Grammar.parse_grammar
-/
import BlankCode.Command.Reading
import Mathlib.Data.List.Forall2
import Mathlib.Data.List.Induction
import Mathlib.Data.Nat.Digits.Defs

namespace BlankCode

/-- The bit that a token stands for among the digits of a number. -/
def Token.bit : Token → Nat
  | .tab => 1
  | _ => 0

namespace Grammar

/-- The value of binary digits, the most significant first. -/
def magnitude (digits : List Token) : Nat :=
  Nat.ofDigits 2 (digits.reverse.map Token.bit)

/-- The digits that count toward the size of a number: all but the leading zeros. -/
def counted (digits : List Token) : List Token :=
  digits.dropWhile (· = .space)

/-- A magnitude with the sign that a token stands for. -/
def signed (sign : Token) (magnitude : Nat) : Int :=
  if sign = .tab then -(magnitude : Int) else magnitude

/-- The piece of source that a command is read from. A number may have any number of leading zeros,
so that many pieces spell one command. -/
inductive Spells : Command → List Token → Prop where
  | plain {mnemonic : Mnemonic} {spelling : List Token}
      (spelled : mnemonic.spelling? = some spelling)
      (takes : mnemonic.parameter = .nothing) :
      Spells ⟨mnemonic, .absent⟩ spelling
  | number {mnemonic : Mnemonic} {spelling : List Token}
      (spelled : mnemonic.spelling? = some spelling)
      (takes : mnemonic.parameter = .number)
      {sign : Token} {digits : List Token}
      (isSign : sign ≠ .lineFeed) (areDigits : .lineFeed ∉ digits)
      (fits : (counted digits).length ≤ 63) :
      Spells ⟨mnemonic, .integer (signed sign (magnitude digits))⟩
        (spelling ++ sign :: (digits ++ [.lineFeed]))
  | label {mnemonic : Mnemonic} {spelling : List Token}
      (spelled : mnemonic.spelling? = some spelling)
      (takes : mnemonic.parameter = .label)
      {letters : List Token} (areLetters : .lineFeed ∉ letters) :
      Spells ⟨mnemonic, .label (letters.map Token.byte)⟩
        (spelling ++ (letters ++ [.lineFeed]))

/-- Pieces that spell commands one by one. -/
abbrev SpellsAll : List Command → List (List Token) → Prop :=
  List.Forall₂ Spells

/-- The stream of numbers that pieces make up. -/
def stream (pieces : List (List Token)) : List Int :=
  pieces.flatten.map Token.code

/-! ### Digits -/

@[simp] theorem magnitude_nil : magnitude [] = 0 := rfl

/-- A sign does not change the magnitude. -/
theorem natAbs_signed (sign : Token) (magnitude : Nat) :
    (signed sign magnitude).natAbs = magnitude := by
  unfold signed
  split <;> simp

/-- One more digit doubles the value. -/
theorem magnitude_snoc (digits : List Token) (digit : Token) :
    magnitude (digits ++ [digit]) = magnitude digits * 2 + digit.bit := by
  simp only [magnitude, List.reverse_append, List.reverse_singleton, List.singleton_append,
    List.map_cons, Nat.ofDigits_cons]
  omega

/-- Leading zeros do not contribute to the value. -/
theorem magnitude_counted (digits : List Token) :
    magnitude (counted digits) = magnitude digits := by
  induction digits with
  | nil => rfl
  | cons digit rest ih =>
      by_cases zero : digit = .space
      · subst zero
        have dropped : counted (.space :: rest) = counted rest := rfl
        rw [dropped, ih]
        simp [magnitude, Nat.ofDigits_append, Token.bit]
      · simp [counted, zero]

/-- The value has no more bits than there are digits that count. -/
theorem magnitude_lt (digits : List Token) :
    magnitude digits < 2 ^ (counted digits).length := by
  rw [← magnitude_counted]
  have bits : ∀ bit ∈ (counted digits).reverse.map Token.bit, bit < 2 := by
    intro bit member
    obtain ⟨token, _, rfl⟩ := List.mem_map.mp member
    cases token <;> decide
  have bound := Nat.ofDigits_lt_base_pow_length (by decide) bits
  rwa [List.length_map, List.length_reverse] at bound

/-- The count of one more digit. A zero counts only behind a digit that counts. -/
theorem length_counted_snoc (digits : List Token) (digit : Token) (isDigit : digit ≠ .lineFeed) :
    (counted (digits ++ [digit])).length =
      Mode.countDigit (counted digits).length digit.bit := by
  unfold counted Mode.countDigit
  rw [List.dropWhile_append]
  cases left : digits.dropWhile (· = .space) with
  | nil => cases digit <;> simp_all [Token.bit]
  | cons first rest => simp

/-! ### What one token does within an argument -/

theorem feed_sign (mnemonic : Mnemonic) {sign : Token} (isSign : sign ≠ .lineFeed) :
    (Mode.sign mnemonic).feed sign.code = .moves (.digits mnemonic (sign = .tab) 0 0) := by
  cases sign with
  | space => rfl
  | tab => rfl
  | lineFeed => exact absurd rfl isSign

theorem feed_digit (mnemonic : Mnemonic) (negative : Bool) (bits value : Nat) {digit : Token}
    (isDigit : digit ≠ .lineFeed) :
    (Mode.digits mnemonic negative bits value).feed digit.code =
      Mode.appendDigit mnemonic negative bits value digit.bit := by
  cases digit with
  | space => rfl
  | tab => rfl
  | lineFeed => exact absurd rfl isDigit

theorem feed_letter (mnemonic : Mnemonic) (bytes : Label) {letter : Token}
    (isLetter : letter ≠ .lineFeed) :
    (Mode.label mnemonic bytes).feed letter.code = .moves (.label mnemonic (letter.byte :: bytes)) := by
  cases letter with
  | space => rfl
  | tab => rfl
  | lineFeed => exact absurd rfl isLetter

/-- A number that is no token leads nowhere. -/
theorem token_or_refused (mode : Mode) (value : Int) :
    (∃ token : Token, value = token.code) ∨ ∃ error, mode.feed value = .refuses error := by
  cases found : Token.ofCode? value with
  | some token => exact Or.inl ⟨token, Token.ofCode?_eq_some_iff.mp found⟩
  | none =>
      right
      cases mode <;> simp [Mode.feed, found]

/-! ### Soundness of reading

The tokens read since the last complete command are a beginning of a piece, and the mode says which
one. -/

/-- The beginning of a piece that a mode stands for. -/
inductive Begun : Mode → List Token → Prop where
  | spelling (stem : Stem) : Begun (.spelling stem) stem.tokens
  | sign {mnemonic : Mnemonic} {spelling : List Token}
      (spelled : mnemonic.spelling? = some spelling)
      (takes : mnemonic.parameter = .number) :
      Begun (.sign mnemonic) spelling
  | digits {mnemonic : Mnemonic} {spelling : List Token}
      (spelled : mnemonic.spelling? = some spelling)
      (takes : mnemonic.parameter = .number)
      {sign : Token} {digits : List Token}
      (isSign : sign ≠ .lineFeed) (areDigits : .lineFeed ∉ digits)
      (fits : (counted digits).length ≤ 63) :
      Begun (.digits mnemonic (sign = .tab) (counted digits).length (magnitude digits))
        (spelling ++ sign :: digits)
  | label {mnemonic : Mnemonic} {spelling : List Token}
      (spelled : mnemonic.spelling? = some spelling)
      (takes : mnemonic.parameter = .label)
      {letters : List Token} (areLetters : .lineFeed ∉ letters) :
      Begun (.label mnemonic (letters.map Token.byte).reverse) (spelling ++ letters)

/-- What a token has done when the tokens up to it are the given ones. -/
def Follows (tokens : List Token) : Mode.Turn → Prop
  | .moves next => Begun next tokens
  | .completes command => Spells command tokens
  | .refuses _ => True

/-- After its spelling a command is complete or goes on with its argument. -/
theorem follows_afterSpelling {mnemonic : Mnemonic} {spelling : List Token}
    (spelled : mnemonic.spelling? = some spelling) :
    Follows spelling (Mode.afterSpelling mnemonic) := by
  unfold Mode.afterSpelling
  cases takes : mnemonic.parameter with
  | nothing => exact Spells.plain spelled takes
  | number => exact Begun.sign spelled takes
  | label =>
      have begun : Begun (.label mnemonic (([] : List Token).map Token.byte).reverse)
          (spelling ++ []) :=
        Begun.label spelled takes List.not_mem_nil
      rwa [List.append_nil] at begun

/-- One token leads from the beginning of a piece to a longer beginning or to a whole piece. -/
theorem Begun.feed {mode : Mode} {tokens : List Token} (begun : Begun mode tokens)
    (token : Token) : Follows (tokens ++ [token]) (mode.feed token.code) := by
  cases begun with
  | spelling stem =>
      simp only [Mode.feed, Token.ofCode?_code, Option.bind_some]
      cases leads : stem.next? token with
      | none => trivial
      | some branch =>
          cases branch with
          | stem longer =>
              rw [← Stem.tokens_of_next? leads]
              exact Begun.spelling longer
          | command mnemonic => exact follows_afterSpelling (Stem.spelling?_of_next? leads)
  | sign spelled takes =>
      by_cases isSign : token = .lineFeed
      · subst isSign
        trivial
      · rw [feed_sign _ isSign]
        exact Begun.digits spelled takes isSign List.not_mem_nil (Nat.zero_le _)
  | @digits mnemonic spelling spelled takes sign digits isSign areDigits fits =>
      by_cases isDigit : token = .lineFeed
      · subst isDigit
        have spells := Spells.number spelled takes isSign areDigits fits
        simpa [Mode.feed, Follows, signed] using spells
      · rw [feed_digit _ _ _ _ isDigit, Mode.appendDigit, ← length_counted_snoc digits token isDigit,
          ← magnitude_snoc]
        split
        · trivial
        · rename_i fits
          have longer : .lineFeed ∉ digits ++ [token] := by simp [areDigits, Ne.symm isDigit]
          have begun := Begun.digits spelled takes isSign longer (Nat.le_of_not_lt fits)
          simpa [Follows] using begun
  | @label mnemonic spelling spelled takes letters areLetters =>
      by_cases isLetter : token = .lineFeed
      · subst isLetter
        have spells := Spells.label spelled takes areLetters
        simpa [Mode.feed, Follows] using spells
      · rw [feed_letter _ _ isLetter]
        have longer : .lineFeed ∉ letters ++ [token] := by simp [areLetters, Ne.symm isLetter]
        have begun := Begun.label spelled takes longer
        simpa [Follows] using begun

/-- A stream that has not been refused is made of the pieces of the commands read from it and a
beginning of one more piece. -/
theorem exists_pieces (values : List Int) :
    ∀ {mode : Mode}, (Reading.after values).position = .ok mode →
      ∃ pieces tokens, SpellsAll (Reading.after values).commands pieces ∧
        Begun mode tokens ∧ values = stream pieces ++ tokens.map Token.code := by
  induction values using List.reverseRecOn with
  | nil =>
      intro mode stands
      cases stands
      exact ⟨[], [], List.Forall₂.nil, Begun.spelling .start, rfl⟩
  | append_singleton values value ih =>
      intro mode stands
      rw [Reading.after_append, Reading.feedAll_cons, Reading.feedAll_nil] at stands ⊢
      rcases before : Reading.after values with ⟨completed, error | current⟩
      · rw [before] at stands
        cases stands
      · rw [before] at ih stands
        obtain ⟨pieces, tokens, spells, begun, rfl⟩ := ih rfl
        rw [Reading.feed_ok] at stands ⊢
        rcases token_or_refused current value with ⟨token, rfl⟩ | ⟨error, refuses⟩
        · have follows := begun.feed token
          cases turn : current.feed token.code with
          | moves next =>
              rw [turn] at stands follows
              cases stands
              exact ⟨pieces, tokens ++ [token], spells, follows, by simp⟩
          | completes command =>
              rw [turn] at stands follows
              cases stands
              refine ⟨pieces ++ [tokens ++ [token]], [], ?_, Begun.spelling .start, ?_⟩
              · have last : SpellsAll [command] [tokens ++ [token]] :=
                  List.Forall₂.cons follows List.Forall₂.nil
                have all := List.rel_append spells last
                simpa [Reading.commands, Reading.ofTurn] using all
              · simp [stream]
          | refuses error =>
              rw [turn] at stands
              cases stands
        · rw [refuses] at stands
          cases stands

/-! ### Completeness of reading -/

/-- Reading a spelling leads to what comes after it. -/
theorem feedAll_spelling {mnemonic : Mnemonic} {spelling : List Token}
    (spelled : mnemonic.spelling? = some spelling) (completed : List Command) :
    Reading.feedAll ⟨completed, .ok Mode.start⟩ (spelling.map Token.code) =
      Reading.ofTurn completed (Mode.afterSpelling mnemonic) := by
  cases mnemonic <;> cases spelled <;> rfl

/-- A digit never makes the count smaller. -/
theorem le_countDigit (bits digit : Nat) : bits ≤ Mode.countDigit bits digit := by
  unfold Mode.countDigit
  split <;> omega

/-- Reading digits that fit leads to their count and their value. -/
theorem feedAll_digits (completed : List Command) (mnemonic : Mnemonic) (negative : Bool)
    {digits : List Token} (areDigits : .lineFeed ∉ digits)
    (fits : (counted digits).length ≤ 63) :
    Reading.feedAll ⟨completed, .ok (.digits mnemonic negative 0 0)⟩ (digits.map Token.code) =
      ⟨completed, .ok (.digits mnemonic negative (counted digits).length (magnitude digits))⟩ := by
  induction digits using List.reverseRecOn with
  | nil => rfl
  | append_singleton digits digit ih =>
      obtain ⟨areDigits, isDigit⟩ : .lineFeed ∉ digits ∧ digit ≠ .lineFeed := by
        simpa [eq_comm] using areDigits
      have count := length_counted_snoc digits digit isDigit
      have shorter : (counted digits).length ≤ 63 :=
        Nat.le_trans (count ▸ le_countDigit _ _) fits
      rw [List.map_append, Reading.feedAll_append, ih areDigits shorter]
      simp only [List.map_cons, List.map_nil, Reading.feedAll_cons, Reading.feedAll_nil,
        Reading.feed_ok, feed_digit _ _ _ _ isDigit, Mode.appendDigit, ← count, ← magnitude_snoc]
      have within : ¬ literalBits < (counted (digits ++ [digit])).length := Nat.not_lt.mpr fits
      rw [if_neg within]
      rfl

/-- Reading letters collects their bytes. -/
theorem feedAll_letters (completed : List Command) (mnemonic : Mnemonic)
    {letters : List Token} (areLetters : .lineFeed ∉ letters) :
    Reading.feedAll ⟨completed, .ok (.label mnemonic [])⟩ (letters.map Token.code) =
      ⟨completed, .ok (.label mnemonic (letters.map Token.byte).reverse)⟩ := by
  induction letters using List.reverseRecOn with
  | nil => rfl
  | append_singleton letters letter ih =>
      obtain ⟨areLetters, isLetter⟩ : .lineFeed ∉ letters ∧ letter ≠ .lineFeed := by
        simpa [eq_comm] using areLetters
      rw [List.map_append, Reading.feedAll_append, ih areLetters]
      simp only [List.map_cons, List.map_nil, Reading.feedAll_cons, Reading.feedAll_nil,
        Reading.feed_ok, feed_letter _ _ isLetter]
      simp [Reading.ofTurn]

/-- Reading a piece completes the command that it spells. -/
theorem feedAll_piece {command : Command} {piece : List Token} (spells : Spells command piece)
    (completed : List Command) :
    Reading.feedAll ⟨completed, .ok Mode.start⟩ (piece.map Token.code) =
      ⟨command :: completed, .ok Mode.start⟩ := by
  cases spells with
  | plain spelled takes =>
      rw [feedAll_spelling spelled, Mode.afterSpelling, takes]
      rfl
  | number spelled takes isSign areDigits fits =>
      rw [List.map_append, Reading.feedAll_append, feedAll_spelling spelled, Mode.afterSpelling,
        takes]
      simp only [Reading.ofTurn, List.map_cons, Reading.feedAll_cons, Reading.feed_ok,
        feed_sign _ isSign, List.map_append, Reading.feedAll_append,
        feedAll_digits _ _ _ areDigits fits]
      simp [Mode.feed, signed]
  | label spelled takes areLetters =>
      rw [List.map_append, Reading.feedAll_append, feedAll_spelling spelled, Mode.afterSpelling,
        takes]
      simp only [Reading.ofTurn, List.map_append, Reading.feedAll_append,
        feedAll_letters _ _ areLetters]
      simp [Mode.feed, Reading.ofTurn]

/-- Reading pieces completes the commands that they spell. -/
theorem feedAll_pieces {commands : List Command} {pieces : List (List Token)}
    (spells : SpellsAll commands pieces) (completed : List Command) :
    Reading.feedAll ⟨completed, .ok Mode.start⟩ (stream pieces) =
      ⟨commands.reverse ++ completed, .ok Mode.start⟩ := by
  induction spells generalizing completed with
  | nil => rfl
  | @cons command piece commands pieces first rest ih =>
      have parts : stream (piece :: pieces) = piece.map Token.code ++ stream pieces := by
        simp [stream]
      rw [parts, Reading.feedAll_append, feedAll_piece first, ih]
      simp

/-- A stream made of pieces is the program of the commands that they spell. -/
theorem parse_stream {commands : List Command} {pieces : List (List Token)}
    (spells : SpellsAll commands pieces) : parse (stream pieces) = .ok commands := by
  have read : Reading.after (stream pieces) = ⟨commands.reverse ++ [], .ok Mode.start⟩ :=
    feedAll_pieces spells []
  rw [parse_eq_ok_iff, read]
  simp [Reading.commands]

/-- A stream that is a program is made of the pieces of its commands. -/
theorem exists_pieces_of_parse {values : List Int} {commands : List Command}
    (parsed : parse values = .ok commands) :
    ∃ pieces, SpellsAll commands pieces ∧ values = stream pieces := by
  obtain ⟨between, rfl⟩ := parse_eq_ok_iff.mp parsed
  obtain ⟨pieces, tokens, spells, begun, rfl⟩ := exists_pieces values between
  cases begun with
  | spelling stem => exact ⟨pieces, spells, by simp [Stem.tokens]⟩

/-! ### One way to take a stream apart -/

/-- A reading that comes back to the space between two commands has completed one on the way. -/
theorem exists_completed {completed : List Command} {values : List Int} (nonempty : values ≠ [])
    (between : (Reading.feedAll ⟨completed, .ok Mode.start⟩ values).position = .ok Mode.start) :
    completed.length <
      (Reading.feedAll ⟨completed, .ok Mode.start⟩ values).completed.length := by
  obtain ⟨front, last, rfl⟩ := (List.eq_nil_or_concat' values).resolve_left nonempty
  have kept := Reading.completed_suffix_feedAll ⟨completed, .ok Mode.start⟩ front
  rw [Reading.feedAll_append, Reading.feedAll_cons, Reading.feedAll_nil] at between ⊢
  rcases before : Reading.feedAll ⟨completed, .ok Mode.start⟩ front with ⟨earlier, error | mode⟩
  · rw [before, Reading.feed_error] at between
    cases between
  · rw [before] at kept
    rw [before, Reading.feed_ok] at between
    rw [Reading.feed_ok]
    cases turn : mode.feed last with
    | moves next =>
        rw [turn] at between
        cases between
        exact absurd rfl (Mode.ne_start_of_moves turn)
    | completes command => exact Nat.lt_succ_of_le kept.length_le
    | refuses error =>
        rw [turn] at between
        cases between

/-- No piece goes on behind another piece. -/
theorem no_longer_piece {command other : Command} {piece more : List Token}
    (spells : Spells command piece) (longer : Spells other (piece ++ more)) : more = [] := by
  by_contra left
  have whole := feedAll_piece longer []
  rw [List.map_append, Reading.feedAll_append, feedAll_piece spells] at whole
  have between : (Reading.feedAll ⟨[command], .ok Mode.start⟩ (more.map Token.code)).position =
      .ok Mode.start := by rw [whole]
  have grown := exists_completed (by simpa using left) between
  rw [whole] at grown
  exact Nat.lt_irrefl _ grown

theorem code_injective : Function.Injective Token.code := by
  intro left right same
  have found := congrArg Token.ofCode? same
  simpa using found

/-- The same stream is made of the same pieces and spells the same commands. -/
theorem stream_injective {commands others : List Command} {pieces otherPieces : List (List Token)}
    (spells : SpellsAll commands pieces) (otherSpells : SpellsAll others otherPieces)
    (same : stream pieces = stream otherPieces) : commands = others ∧ pieces = otherPieces := by
  have sameCommands : commands = others := by
    have parsed := parse_stream spells
    rw [same, parse_stream otherSpells] at parsed
    exact (Except.ok.inj parsed).symm
  subst sameCommands
  refine ⟨rfl, ?_⟩
  have sameTokens : pieces.flatten = otherPieces.flatten :=
    List.map_injective_iff.mpr code_injective same
  clear same
  induction spells generalizing otherPieces with
  | nil =>
      cases otherSpells
      rfl
  | @cons command piece commands pieces first rest ih =>
      rcases otherSpells with _ | ⟨otherFirst, otherRest⟩
      rename_i otherPiece otherPieces
      simp only [List.flatten_cons] at sameTokens
      have samePiece : piece = otherPiece := by
        rcases List.append_eq_append_iff.mp sameTokens with ⟨more, rfl, _⟩ | ⟨more, rfl, _⟩
        · rw [no_longer_piece first otherFirst, List.append_nil]
        · rw [no_longer_piece otherFirst first, List.append_nil]
      subst samePiece
      rw [ih otherRest (List.append_cancel_left sameTokens)]

/-! ### The language of the reader -/

/-- A stream made of pieces holds tokens only. -/
theorem mem_stream {pieces : List (List Token)} {value : Int} (member : value ∈ stream pieces) :
    value = 0x20 ∨ value = 0x09 ∨ value = 0x0A := by
  obtain ⟨token, _, rfl⟩ := List.mem_map.mp member
  cases token <;> decide

/-- The numbers that pieces spell have at most 63 bits, and the labels are spaces and tabs. -/
theorem Spells.argument_bounds {command : Command} {piece : List Token}
    (spells : Spells command piece) :
    (∀ number, command.argument = .integer number → number.natAbs < 2 ^ 63) ∧
      ∀ label, command.argument = .label label → ∀ byte ∈ label, byte = 0x20 ∨ byte = 0x09 := by
  cases spells with
  | plain spelled takes => simp
  | @number mnemonic spelling spelled takes sign digits isSign areDigits fits =>
      refine ⟨?_, by simp⟩
      rintro _ ⟨⟩
      rw [natAbs_signed]
      exact Nat.lt_of_lt_of_le (magnitude_lt digits) (Nat.pow_le_pow_right (by decide) fits)
  | @label mnemonic spelling spelled takes letters areLetters =>
      refine ⟨by simp, ?_⟩
      rintro _ ⟨⟩ byte member
      obtain ⟨letter, isMember, rfl⟩ := List.mem_map.mp member
      cases letter with
      | space => exact Or.inl rfl
      | tab => exact Or.inr rfl
      | lineFeed => exact absurd isMember areLetters

/-- Among pieces that spell commands each command has its own. -/
theorem SpellsAll.exists_piece {commands : List Command} {pieces : List (List Token)}
    (spells : SpellsAll commands pieces) :
    ∀ command ∈ commands, ∃ piece, Spells command piece := by
  induction spells with
  | nil => simp
  | cons first rest ih => exact List.forall_mem_cons.mpr ⟨⟨_, first⟩, ih⟩

theorem SpellsAll.argument_bounds {commands : List Command} {pieces : List (List Token)}
    (spells : SpellsAll commands pieces) :
    ∀ command ∈ commands,
      (∀ number, command.argument = .integer number → number.natAbs < 2 ^ 63) ∧
        ∀ label, command.argument = .label label →
          ∀ byte ∈ label, byte = 0x20 ∨ byte = 0x09 := by
  intro command among
  obtain ⟨piece, spelled⟩ := spells.exists_piece command among
  exact spelled.argument_bounds

/-- Reading accepts exactly the streams that are made of one piece per command, and gives the
commands that the pieces spell. A stream is made of pieces in one way only. -/
theorem parse_grammar (values : List Int) (commands : List Command) :
    (parse values = .ok commands ↔
      ∃ pieces, SpellsAll commands pieces ∧ values = stream pieces) ∧
    (∀ others pieces otherPieces, SpellsAll commands pieces → SpellsAll others otherPieces →
      stream pieces = stream otherPieces → commands = others ∧ pieces = otherPieces) ∧
    (parse values = .ok commands →
      (∀ value ∈ values, value = 0x20 ∨ value = 0x09 ∨ value = 0x0A) ∧
      ∀ command ∈ commands,
        (∀ number, command.argument = .integer number → number.natAbs < 2 ^ 63) ∧
        ∀ label, command.argument = .label label → ∀ byte ∈ label, byte = 0x20 ∨ byte = 0x09) := by
  refine ⟨⟨exists_pieces_of_parse, ?_⟩, ?_, ?_⟩
  · rintro ⟨pieces, spells, rfl⟩
    exact parse_stream spells
  · intro others pieces otherPieces spells otherSpells same
    exact stream_injective spells otherSpells same
  · intro parsed
    obtain ⟨pieces, spells, rfl⟩ := exists_pieces_of_parse parsed
    exact ⟨fun value member => mem_stream member, SpellsAll.argument_bounds spells⟩

end Grammar

end BlankCode
