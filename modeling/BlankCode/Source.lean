/-
Module: BlankCode.Source
Purpose: Where a program's bytes come from: one piece of text or bytes, or a file that is read piece
  by piece until a piece comes back empty. A text with surrogates in it has no bytes, and is as far
  as a source gets.
Main exports: Piece, Source, Source.toBytes, Source.refusal?, significant, Source.tokens
-/
import BlankCode.Failure
import BlankCode.Text.Utf8

namespace BlankCode

/-- A piece of a source: text, which stands for its encoded bytes, or the bytes themselves. -/
inductive Piece where
  | text (content : Text)
  | bytes (content : List UInt8)
deriving DecidableEq, Repr, Inhabited

namespace Piece

/-- The bytes of a piece, or what is said of a text that has none. -/
def encoded : Piece → Except String (List UInt8)
  | .text content => Utf8.encodeText content
  | .bytes content => .ok content

/-- The bytes that a piece gives: none, when it is a text that cannot be encoded. -/
def toBytes (piece : Piece) : List UInt8 :=
  match piece.encoded with
  | .ok given => given
  | .error _ => []

/-- What is raised when the bytes of a piece are asked for that has none to give. -/
def refusal? (piece : Piece) : Option Defeat :=
  match piece.encoded with
  | .ok _ => none
  | .error complaint => some (.raised "UnicodeEncodeError" complaint)

@[simp] theorem toBytes_bytes (content : List UInt8) : (bytes content).toBytes = content := rfl

@[simp] theorem refusal?_bytes (content : List UInt8) : (bytes content).refusal? = none := rfl

@[simp] theorem toBytes_text (string : String) :
    (text (.ofString string)).toBytes = Utf8.encode string := by
  simp [toBytes, encoded]

@[simp] theorem refusal?_text (string : String) : (text (.ofString string)).refusal? = none := by
  simp [refusal?, encoded]

end Piece

/-- A source is whole, or a file that hands out pieces. -/
inductive Source where
  | whole (piece : Piece)
  | file (pieces : List Piece)
deriving DecidableEq, Repr, Inhabited

/-- The bytes of a source. A piece without bytes is the end of a file, whatever would follow it.
[SPEC _chunks] -/
def Source.toBytes : Source → List UInt8
  | .whole piece => piece.toBytes
  | .file pieces => ((pieces.map Piece.toBytes).takeWhile fun bytes => !bytes.isEmpty).flatten

/-- What is raised behind the last byte of a source, if that is not simply the end of it.
[SPEC _chunks] -/
def Source.refusal? : Source → Option Defeat
  | .whole piece => piece.refusal?
  | .file pieces => (pieces.find? fun piece => piece.toBytes.isEmpty).bind Piece.refusal?

@[simp] theorem Source.toBytes_whole (piece : Piece) : (whole piece).toBytes = piece.toBytes := rfl

@[simp] theorem Source.refusal?_whole (piece : Piece) :
    (whole piece).refusal? = piece.refusal? := rfl

/-- The tokens among some bytes, in order. [SPEC sanitize] -/
def significant (bytes : List UInt8) : List Token :=
  bytes.filterMap Token.ofByte?

/-- The tokens of a source. [SPEC sanitize] -/
def Source.tokens (source : Source) : List Token :=
  significant source.toBytes

/-- Dropping comments works on both parts of a concatenation alone. -/
@[simp] theorem significant_append (left right : List UInt8) :
    significant (left ++ right) = significant left ++ significant right :=
  List.filterMap_append

end BlankCode
