/-
Module: BlankCode.Proofs.Chunking
Purpose: Comments, encoding and pieces make no difference. The bytes of a character that takes more
  than one are all above the three that carry meaning, so the tokens of a text are its spaces, tabs
  and line feeds. A file is read one piece at a time, up to the first empty one, and a token at a
  time within the piece; where its bytes are cut cannot be told from the tokens.
Main exports: Token.ofChar?, significant_encode, Piece.isEmpty, Pulls, pulls_iff,
  Chunking.sources_sanitized
-/
import BlankCode.Command.Reading
import Mathlib.Data.List.TakeWhile

namespace BlankCode

/-! ### Text -/

/-- A byte comes before the tokens of the others when it is one. -/
theorem significant_cons (byte : UInt8) (rest : List UInt8) :
    significant (byte :: rest) = (Token.ofByte? byte).toList ++ significant rest := by
  cases meaning : Token.ofByte? byte <;> simp [significant, meaning]

/-- The token that a character is, unless the character is comment. -/
def Token.ofChar? (char : Char) : Option Token :=
  if char = ' ' then some .space
  else if char = '\t' then some .tab
  else if char = '\n' then some .lineFeed
  else none

/-- Bytes outside ASCII are comment. -/
theorem Token.ofByte?_of_le {byte : UInt8} (high : 0x80 ≤ byte.toNat) :
    Token.ofByte? byte = none := by
  have differs : ∀ other : UInt8, other.toNat < 0x80 → byte ≠ other := by
    intro other low same
    rw [same] at high
    omega
  rw [Token.ofByte?, if_neg (differs 0x20 (by decide)), if_neg (differs 0x09 (by decide)),
    if_neg (differs 0x0A (by decide))]

/-- A number of seven bits is one byte, and as a byte it is the token that it is as a character. -/
theorem Token.ofByte?_ofNat {char : Char} (ascii : char.val.toNat ≤ 127) :
    Token.ofByte? (UInt8.ofNat char.val.toNat) = Token.ofChar? char := by
  have same : ∀ other : Char, other.val.toNat ≤ 127 →
      (UInt8.ofNat char.val.toNat = UInt8.ofNat other.val.toNat ↔ char = other) := by
    intro other otherAscii
    constructor
    · intro equal
      have values := congrArg UInt8.toNat equal
      simp only [UInt8.toNat_ofNat'] at values
      apply Char.ext
      apply UInt32.toNat_inj.mp
      omega
    · intro equal
      rw [equal]
  have space := same ' ' (by decide)
  have tab := same '\t' (by decide)
  have lineFeed := same '\n' (by decide)
  unfold Token.ofByte? Token.ofChar?
  simp only [← space, ← tab, ← lineFeed]
  rfl

/-- The bytes of a character outside ASCII lie outside ASCII. -/
theorem le_of_mem_utf8EncodeChar {char : Char} (wide : 127 < char.val.toNat) {byte : UInt8}
    (among : byte ∈ String.utf8EncodeChar char) : 0x80 ≤ byte.toNat := by
  -- a first byte is 192 and more, every other one 128 and six bits
  have first : ∀ value, 192 ≤ value → value < 256 → 0x80 ≤ (UInt8.ofNat value).toNat := by
    intro value low high
    rw [UInt8.toNat_ofNat']
    omega
  have later : ∀ value, 0x80 ≤ (UInt8.ofNat (value % 64 + 128)).toNat := by
    intro value
    rw [UInt8.toNat_ofNat']
    omega
  unfold String.utf8EncodeChar at among
  rw [if_neg (by omega)] at among
  split at among
  · simp only [List.mem_cons, List.not_mem_nil, or_false] at among
    rcases among with rfl | rfl
    · exact first _ (by omega) (by omega)
    · apply later
  · split at among
    · simp only [List.mem_cons, List.not_mem_nil, or_false] at among
      rcases among with rfl | rfl | rfl
      · exact first _ (by omega) (by omega)
      · apply later
      · apply later
    · simp only [List.mem_cons, List.not_mem_nil, or_false] at among
      rcases among with rfl | rfl | rfl | rfl
      · exact first _ (by omega) (by omega)
      · apply later
      · apply later
      · apply later

/-- The three characters that carry meaning are ASCII. -/
theorem Token.ofChar?_of_lt {char : Char} (wide : 127 < char.val.toNat) :
    Token.ofChar? char = none := by
  have differs : ∀ other : Char, other.val.toNat ≤ 127 → char ≠ other := by
    intro other ascii same
    rw [same] at wide
    omega
  rw [Token.ofChar?, if_neg (differs ' ' (by decide)), if_neg (differs '\t' (by decide)),
    if_neg (differs '\n' (by decide))]

/-- The bytes of one character hold the token that it is, and no other. -/
theorem significant_utf8EncodeChar (char : Char) :
    significant (String.utf8EncodeChar char) = (Token.ofChar? char).toList := by
  by_cases ascii : char.val.toNat ≤ 127
  · have encoded : String.utf8EncodeChar char = [UInt8.ofNat char.val.toNat] := by
      unfold String.utf8EncodeChar
      rw [if_pos ascii]
    rw [encoded, significant_cons, Token.ofByte?_ofNat ascii]
    apply List.append_nil
  · have wide : 127 < char.val.toNat := by omega
    rw [Token.ofChar?_of_lt wide, significant, Option.toList_none, List.filterMap_eq_nil_iff]
    intro byte among
    exact Token.ofByte?_of_le (le_of_mem_utf8EncodeChar wide among)

/-- The tokens of a text are its spaces, tabs and line feeds. -/
theorem significant_encode (text : String) :
    significant (Utf8.encode text) = text.toList.filterMap Token.ofChar? := by
  unfold Utf8.encode
  induction text.toList with
  | nil => rfl
  | cons char rest ih =>
      rw [List.flatMap_cons, significant_append, significant_utf8EncodeChar, ih]
      cases meaning : Token.ofChar? char <;> simp [meaning]

/-! ### Pieces -/

namespace Piece

/-- Whether a piece is the end of the file that hands it out. -/
def isEmpty : Piece → Bool
  | .text content => content.isEmpty
  | .bytes content => content.isEmpty

/-- Only the empty text is encoded by no bytes. -/
theorem encode_eq_nil_iff {string : String} : Utf8.encode string = [] ↔ string.toList = [] := by
  rw [Utf8.encode, List.flatMap_eq_nil_iff]
  constructor
  · intro none
    rw [List.eq_nil_iff_forall_not_mem]
    intro char among
    exact String.utf8EncodeChar_ne_nil (none char among)
  · intro empty
    simp [empty]

/-- A piece that is not refused gives no bytes only if it is empty. -/
theorem toBytes_eq_nil_iff {piece : Piece} (given : piece.refusal? = none) :
    piece.toBytes = [] ↔ piece.isEmpty = true := by
  cases piece with
  | bytes content => exact List.isEmpty_iff.symm
  | text content =>
      by_cases encodable : content.Encodable
      · obtain ⟨string, rfl⟩ : ∃ string, Text.ofString string = content :=
          ⟨_, Text.ofString_characters encodable⟩
        rw [toBytes_text, encode_eq_nil_iff, isEmpty, List.isEmpty_iff, Text.ofString,
          List.map_eq_nil_iff]
      · rw [refusal?, encoded, Utf8.encodeText, if_neg encodable] at given
        cases given

/-- A piece that is refused gives no bytes. -/
theorem toBytes_of_refusal? {piece : Piece} {defeat : Defeat}
    (refused : piece.refusal? = some defeat) :
    piece.toBytes = [] := by
  unfold refusal? at refused
  unfold toBytes
  cases encoding : piece.encoded with
  | ok given =>
      rw [encoding] at refused
      cases refused
  | error complaint => rfl

end Piece

namespace Source

variable {piece : Piece} {pieces : List Piece}

@[simp] theorem tokens_file_nil : (file []).tokens = [] := rfl

/-- A piece with bytes comes before what the pieces behind it hold, -/
theorem tokens_file_cons (goesOn : piece.toBytes ≠ []) (pieces : List Piece) :
    (file (piece :: pieces)).tokens = significant piece.toBytes ++ (file pieces).tokens := by
  simp [tokens, toBytes, goesOn]

/-- and what is raised is raised by those. -/
theorem refusal?_file_cons (goesOn : piece.toBytes ≠ []) (pieces : List Piece) :
    (file (piece :: pieces)).refusal? = (file pieces).refusal? := by
  simp [refusal?, goesOn]

/-- Behind a piece without bytes nothing is read, -/
theorem tokens_file_cons_of_nil (ends : piece.toBytes = []) (pieces : List Piece) :
    (file (piece :: pieces)).tokens = [] := by
  simp [tokens, toBytes, ends, significant]

/-- and it is that piece which may be refused. -/
theorem refusal?_file_cons_of_nil (ends : piece.toBytes = []) (pieces : List Piece) :
    (file (piece :: pieces)).refusal? = piece.refusal? := by
  simp [refusal?, ends]

/-- The tokens of a file none of whose pieces is refused are those of its pieces up to the first
empty one. -/
theorem tokens_file (given : ∀ piece ∈ pieces, piece.refusal? = none) :
    (file pieces).tokens =
      significant ((pieces.takeWhile fun piece => !piece.isEmpty).flatMap Piece.toBytes) := by
  induction pieces with
  | nil => rfl
  | cons piece pieces ih =>
      obtain ⟨first, others⟩ := List.forall_mem_cons.mp given
      have empty := Piece.toBytes_eq_nil_iff first
      cases ends : piece.isEmpty with
      | true => rw [tokens_file_cons_of_nil (empty.mpr ends)]; simp [ends, significant]
      | false =>
          rw [tokens_file_cons (by rw [Ne, empty, ends]; exact nofun), ih others]
          simp [ends]

/-- Nor is anything raised behind them. -/
theorem refusal?_file (given : ∀ piece ∈ pieces, piece.refusal? = none) :
    (file pieces).refusal? = none := by
  induction pieces with
  | nil => rfl
  | cons piece pieces ih =>
      obtain ⟨first, others⟩ := List.forall_mem_cons.mp given
      by_cases ends : piece.toBytes = []
      · rw [refusal?_file_cons_of_nil ends, first]
      · rw [refusal?_file_cons ends, ih others]

/-- Pieces none of which is refused or empty spell what their bytes spell. -/
theorem parse_file
    (filled : ∀ piece ∈ pieces, piece.isEmpty = false ∧ piece.refusal? = none) :
    parse (file pieces) = parse (whole (.bytes (pieces.flatMap Piece.toBytes))) := by
  have given : ∀ piece ∈ pieces, piece.refusal? = none := fun piece among => (filled piece among).2
  have all : (pieces.takeWhile fun piece => !piece.isEmpty) = pieces := by
    rw [List.takeWhile_eq_self_iff]
    intro piece among
    simp [(filled piece among).1]
  have whole : (Source.whole (.bytes (pieces.flatMap Piece.toBytes))).refusal? = none := rfl
  rw [parse_eq (refusal?_file given), parse_eq whole, values, values, tokens_file given, all]
  rfl

end Source

/-- Handing out tokens one by one, given what is left of the piece at hand and the pieces that the
file has yet to hand out. The next piece is asked for when nothing is left of the one at hand; what
is raised then, if anything is, comes behind the tokens. -/
inductive Pulls : List UInt8 → List Piece → List Token → Option Defeat → Prop where
  /-- A byte that carries meaning is handed out. -/
  | token {byte : UInt8} {left : List UInt8} {pieces : List Piece} {token : Token}
      {tokens : List Token} {ending : Option Defeat} (meaning : Token.ofByte? byte = some token)
      (further : Pulls left pieces tokens ending) :
      Pulls (byte :: left) pieces (token :: tokens) ending
  /-- Any other byte is passed over. -/
  | comment {byte : UInt8} {left : List UInt8} {pieces : List Piece} {tokens : List Token}
      {ending : Option Defeat} (meaning : Token.ofByte? byte = none)
      (further : Pulls left pieces tokens ending) : Pulls (byte :: left) pieces tokens ending
  /-- The file hands out its next piece. -/
  | refill {piece : Piece} {pieces : List Piece} {tokens : List Token} {ending : Option Defeat}
      (goesOn : piece.toBytes ≠ []) (further : Pulls piece.toBytes pieces tokens ending) :
      Pulls [] (piece :: pieces) tokens ending
  /-- The file hands out an empty piece, and is not asked again. -/
  | ends {piece : Piece} {pieces : List Piece} (goesOn : piece.isEmpty = true) :
      Pulls [] (piece :: pieces) [] none
  /-- The file hands out a text that has no bytes. -/
  | refused {piece : Piece} {pieces : List Piece} {defeat : Defeat}
      (refusal : piece.refusal? = some defeat) : Pulls [] (piece :: pieces) [] (some defeat)
  /-- The file has nothing to hand out. -/
  | exhausted : Pulls [] [] [] none

/-- Reading goes on through what is left of a piece. -/
theorem Pulls.prepend {pieces : List Piece} {tokens : List Token} {ending : Option Defeat}
    (further : Pulls [] pieces tokens ending) (left : List UInt8) :
    Pulls left pieces (significant left ++ tokens) ending := by
  induction left with
  | nil => exact further
  | cons byte rest ih =>
      rw [significant_cons]
      cases meaning : Token.ofByte? byte with
      | none => exact .comment meaning ih
      | some token => exact .token meaning ih

/-- An empty piece is not refused, and gives no bytes. -/
theorem Piece.of_isEmpty {piece : Piece} (ends : piece.isEmpty = true) :
    piece.refusal? = none ∧ piece.toBytes = [] := by
  cases piece with
  | bytes content => exact ⟨rfl, List.isEmpty_iff.mp ends⟩
  | text content =>
      obtain rfl : content = [] := List.isEmpty_iff.mp ends
      exact ⟨rfl, rfl⟩

/-- The tokens that are handed out one by one are those of what is left of the piece at hand and of
the file behind it. -/
theorem pulls_iff {left : List UInt8} {pieces : List Piece} {tokens : List Token}
    {ending : Option Defeat} :
    Pulls left pieces tokens ending ↔
      tokens = significant left ++ (Source.file pieces).tokens ∧
        ending = (Source.file pieces).refusal? := by
  constructor
  · intro pulls
    induction pulls with
    | token meaning _ ih =>
        rw [significant_cons, meaning, ih.1]
        exact ⟨rfl, ih.2⟩
    | comment meaning _ ih =>
        rw [significant_cons, meaning, ih.1]
        exact ⟨rfl, ih.2⟩
    | refill goesOn _ ih =>
        rw [Source.tokens_file_cons goesOn, Source.refusal?_file_cons goesOn]
        exact ih
    | ends isEnd =>
        obtain ⟨given, none⟩ := Piece.of_isEmpty isEnd
        rw [Source.tokens_file_cons_of_nil none, Source.refusal?_file_cons_of_nil none, given]
        exact ⟨rfl, rfl⟩
    | refused refusal =>
        have none := Piece.toBytes_of_refusal? refusal
        rw [Source.tokens_file_cons_of_nil none, Source.refusal?_file_cons_of_nil none, refusal]
        exact ⟨rfl, rfl⟩
    | exhausted => exact ⟨rfl, rfl⟩
  · rintro ⟨rfl, rfl⟩
    apply Pulls.prepend
    induction pieces with
    | nil => exact .exhausted
    | cons piece pieces ih =>
        by_cases none : piece.toBytes = []
        · rw [Source.tokens_file_cons_of_nil none, Source.refusal?_file_cons_of_nil none]
          cases refusal : piece.refusal? with
          | none => exact .ends ((Piece.toBytes_eq_nil_iff refusal).mp none)
          | some defeat => exact .refused refusal
        · rw [Source.tokens_file_cons none, Source.refusal?_file_cons none]
          exact .refill none (ih.prepend piece.toBytes)

/-! ### Main result -/

namespace Chunking

/-- The tokens of a text are its spaces, tabs and line feeds in order, and no byte of a character
that takes several is one. Pulled out of a file one by one, tokens are those of the bytes before
the first empty piece; behind a text that has no bytes, on account of a surrogate, there are none
either. And however the same bytes are cut into pieces that are not empty, they spell the same
commands or fail with the same error. -/
theorem sources_sanitized :
    (∀ text : String,
      (Source.whole (.text (.ofString text))).refusal? = none ∧
      (Source.whole (.text (.ofString text))).tokens = text.toList.filterMap Token.ofChar?) ∧
    (∀ char : Char, 1 < (String.utf8EncodeChar char).length →
      ∀ byte ∈ String.utf8EncodeChar char, Token.ofByte? byte = none) ∧
    (∀ pieces : List Piece,
      (∀ tokens ending, Pulls [] pieces tokens ending ↔
        tokens = (Source.file pieces).tokens ∧ ending = (Source.file pieces).refusal?) ∧
      ((∀ piece ∈ pieces, piece.refusal? = none) →
        (Source.file pieces).refusal? = none ∧
        (Source.file pieces).tokens =
          significant ((pieces.takeWhile fun piece => !piece.isEmpty).flatMap Piece.toBytes))) ∧
    ∀ left right : List Piece,
      (∀ piece ∈ left ++ right, piece.isEmpty = false ∧ piece.refusal? = none) →
      left.flatMap Piece.toBytes = right.flatMap Piece.toBytes →
        Source.parse (.file left) = Source.parse (.file right) ∧
        Source.parse (.file left) = Source.parse (.whole (.bytes (left.flatMap Piece.toBytes))) := by
  refine ⟨?_, ?_, ?_, ?_⟩
  · intro text
    refine ⟨Piece.refusal?_text text, ?_⟩
    rw [Source.tokens, Source.toBytes_whole, Piece.toBytes_text]
    exact significant_encode text
  · intro char several byte among
    apply Token.ofByte?_of_le
    apply le_of_mem_utf8EncodeChar _ among
    by_cases ascii : char.val.toNat ≤ 127
    · unfold String.utf8EncodeChar at several
      rw [if_pos ascii] at several
      cases several with
      | step impossible => cases impossible
    · omega
  · intro pieces
    constructor
    · intro tokens ending
      exact pulls_iff
    · intro given
      exact ⟨Source.refusal?_file given, Source.tokens_file given⟩
  · intro left right filled same
    rw [List.forall_mem_append] at filled
    have leftWhole := Source.parse_file filled.1
    have rightWhole := Source.parse_file filled.2
    rw [leftWhole, rightWhole, same]
    exact ⟨rfl, rfl⟩

/-- A number with a character of two bytes in front of its last digit, in one piece of text and in
pieces that part the bytes of the character and those of the command. -/
theorem sources_sanitized_scattered :
    let whole : List Piece := [.text (.ofString "  \tél\t\n")]
    let scattered : List Piece :=
      [.bytes [0x20], .text (.ofString " \t"), .bytes [0xC3], .bytes [0xA9, 0x6C, 0x09],
        .text (.ofString "\n")]
    (∀ piece ∈ whole ++ scattered, piece.isEmpty = false ∧ piece.refusal? = none) ∧
      whole.flatMap Piece.toBytes = scattered.flatMap Piece.toBytes ∧
      Source.parse (.file whole) = Source.parse (.file scattered) ∧
      Source.parse (.file scattered) = .ok [⟨.push, .integer (-1)⟩] := by
  intro whole scattered
  have filled : ∀ piece ∈ whole ++ scattered, piece.isEmpty = false ∧ piece.refusal? = none := by
    decide +kernel
  have same : whole.flatMap Piece.toBytes = scattered.flatMap Piece.toBytes := by decide +kernel
  obtain ⟨alike, -⟩ := sources_sanitized.2.2.2 whole scattered filled same
  exact ⟨filled, same, alike, by decide +kernel⟩

end Chunking

end BlankCode
