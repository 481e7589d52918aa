/-
Module: BlankCode.Text.Utf8
Purpose: The eight-bit encoding of strings, of texts and of file names, and its decoding with every
  ill-formed part replaced. An ill-formed part is as long as it can be while it still begins some
  character. A text with surrogates in it is not encoded.
Main exports: Utf8.encode, Utf8.encodeText, Utf8.encodeName?, Utf8.decodeLossy
-/
import BlankCode.Text.Quoted

namespace BlankCode.Utf8

/-- The bytes of a string. -/
def encode (string : String) : List UInt8 :=
  string.toList.flatMap String.utf8EncodeChar

/-- What is said of surrogates in a row, which have no bytes, and of the place of the first. -/
def noBytes (place : Nat) (surrogates : Text) : String :=
  "'utf-8' codec can't encode character" ++
    (match surrogates with
      | [point] => " " ++ Quoted.text [point] ++ " in position " ++ toString place
      | _ => "s in position " ++ toString place ++ "-" ++
        toString (place + surrogates.length - 1)) ++
    ": surrogates not allowed"

/-- The bytes of a text, or what is said of the first surrogates in it. -/
def encodeText (text : Text) : Except String (List UInt8) :=
  if text.Encodable then .ok (encode (String.ofList text.characters))
  else
    let (front, rest) := text.span fun point => !decide point.IsSurrogate
    .error (noBytes front.length (rest.takeWhile fun point => point.IsSurrogate))

@[simp] theorem encodeText_ofString (string : String) :
    encodeText (.ofString string) = .ok (encode string) := by
  rw [encodeText, if_pos (Text.encodable_ofString string), Text.characters_ofString,
    String.ofList_toList]

/-- The bytes of a code point in a file name. The surrogates from U+DC80 to U+DCFF stand there for
single bytes that belong to no character; the others have no bytes. -/
def encodePoint? (point : CodePoint) : Option (List UInt8) :=
  match point.toChar? with
  | some char => some (String.utf8EncodeChar char)
  | none =>
    if 0xDC80 ≤ point.val ∧ point.val ≤ 0xDCFF then some [(point.val - 0xDC00).toUInt8]
    else none

/-- The bytes of a file name, if all of it has bytes. -/
def encodeName? (name : Text) : Option (List UInt8) :=
  (name.mapM encodePoint?).map List.flatten

/-- What stands for an ill-formed part. -/
def replacement : Char := '\uFFFD'

/-- A character that has begun: how many bytes it still needs, the range the next of them must lie
in, and the bits read so far. -/
structure Pending where
  needed : Nat
  lowest : Nat
  highest : Nat
  bits : Nat
deriving DecidableEq, Repr

/-- What a byte that begins a character gives: the character itself, a replacement, or a
beginning. -/
def start (byte : Nat) : List Char × Option Pending :=
  if byte < 0x80 then ([Char.ofNat byte], none)
  else if 0xC2 ≤ byte ∧ byte < 0xE0 then ([], some ⟨1, 0x80, 0xBF, byte % 0x20⟩)
  else if 0xE0 ≤ byte ∧ byte < 0xF0 then
    let lowest := if byte = 0xE0 then 0xA0 else 0x80
    let highest := if byte = 0xED then 0x9F else 0xBF
    ([], some ⟨2, lowest, highest, byte % 0x10⟩)
  else if 0xF0 ≤ byte ∧ byte < 0xF5 then
    let lowest := if byte = 0xF0 then 0x90 else 0x80
    let highest := if byte = 0xF4 then 0x8F else 0xBF
    ([], some ⟨3, lowest, highest, byte % 0x08⟩)
  else ([replacement], none)

/-- Takes one byte: the characters it completes, and the one that is then pending. A byte that
cannot go on with the pending character replaces what was read of it and begins anew. -/
def feed (pending : Option Pending) (byte : Nat) : List Char × Option Pending :=
  match pending with
  | none => start byte
  | some part =>
    if part.lowest ≤ byte ∧ byte ≤ part.highest then
      let bits := part.bits * 0x40 + byte % 0x40
      if part.needed ≤ 1 then ([Char.ofNat bits], none)
      else ([], some ⟨part.needed - 1, 0x80, 0xBF, bits⟩)
    else
      let (chars, next) := start byte
      (replacement :: chars, next)

/-- The characters of the bytes, given the pending one and those already read, latest first. -/
def decodeFrom (pending : Option Pending) (read : List Char) : List UInt8 → List Char
  | [] => (if pending.isSome then replacement :: read else read).reverse
  | byte :: rest =>
    let (chars, next) := feed pending byte.toNat
    decodeFrom next (chars.reverse ++ read) rest

/-- The characters of a byte sequence, each maximal ill-formed part replaced. -/
def decodeLossy (bytes : List UInt8) : List Char :=
  decodeFrom none [] bytes

end BlankCode.Utf8
