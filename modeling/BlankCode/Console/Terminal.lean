/-
Module: BlankCode.Console.Terminal
Purpose: A console over encoded streams. It differs from plain streams in that a surrogate cannot be
  written, because no encoding has it.
Main exports: Terminal
-/
import BlankCode.Console.Streams
import BlankCode.Text.Utf8

namespace BlankCode

/-- Streams whose text has to be encoded on its way out. [SPEC Console.standard] -/
structure Terminal where
  streams : Streams := {}
deriving DecidableEq, Repr

namespace Terminal

/-- The fault of writing a surrogate. -/
def noEncoding (point : CodePoint) : Console.Fault :=
  .raised "UnicodeEncodeError" (Utf8.noBytes 0 [point])

/-- Writes as plain streams do, save surrogates. -/
def write (terminal : Terminal) (output : Console.Output) : Except Console.Fault Unit × Terminal :=
  let plain := terminal.streams.write output
  match output with
  | .number _ => (plain.1, ⟨plain.2⟩)
  | .char value =>
    match CodePoint.ofInt? value with
    | some point =>
      if point.IsSurrogate then (.error (noEncoding point), terminal) else (plain.1, ⟨plain.2⟩)
    | none => (plain.1, ⟨plain.2⟩)

/-- Reads as plain streams do. -/
def read (terminal : Terminal) (query : Console.Query) : Except Console.Fault Int × Terminal :=
  let plain := terminal.streams.read query
  (plain.1, ⟨plain.2⟩)

instance : Console Terminal where
  write := write
  read := read

end Terminal

end BlankCode
