/-
Module: BlankCode.Console.Streams
Purpose: A console over two texts: one that is read from its front, one that is written to its end.
  Characters are code points and numbers are decimal lines.
Main exports: Streams, Streams.ofInput, Streams.output, splitLine
-/
import BlankCode.Console
import BlankCode.Numeral
import BlankCode.Text.Quoted

namespace BlankCode

/-- The text not yet read, and the text written. [SPEC StringConsole] -/
structure Streams where
  unread : Text := []
  /-- Latest first. -/
  written : Text := []
deriving DecidableEq, Repr

/-- The first line of a text with the line feed that ends it, if one does, and what follows. -/
def splitLine (text : Text) : Text × Text :=
  match text.span (· ≠ CodePoint.lineFeed) with
  | (line, []) => (line, [])
  | (line, ending :: after) => (line ++ [ending], after)

namespace Streams

/-- Streams with a text to be read. -/
def ofInput (input : Text) : Streams :=
  { unread := input }

/-- The text written, in order. [SPEC StringConsole.output] -/
def output (streams : Streams) : Text :=
  streams.written.reverse

/-- Writes a text. -/
def append (streams : Streams) (text : Text) : Streams :=
  { streams with written := text.reverse ++ streams.written }

/-- The fault of a number that is no code point; it depends on whether 32 bits can hold the
number. -/
def noCharacter (value : Int) : Console.Fault :=
  if -0x80000000 ≤ value ∧ value < 0x80000000 then
    .raised "ValueError" "chr() arg not in range(0x110000)"
  else .raised "OverflowError" "Python int too large to convert to C int"

/-- How much of a line that is no number is quoted. -/
def quotedLength : Nat := 200

/-- The fault of a line that is no number. -/
def noNumber (line : Text) : Numeral.Defect → Console.Fault
  | .malformed =>
    .raised "ValueError" ("invalid literal for int() with base 10: " ++
      String.ofList ((Quoted.text line).toList.take quotedLength))
  | .tooLong digits =>
    .raised "ValueError" (Numeral.limitText (": value has " ++ toString digits ++ " digits"))

/-- Writes a character, or a number and a line feed. [SPEC _write_char, _write_number] -/
def write (streams : Streams) : Console.Output → Except Console.Fault Unit × Streams
  | .char value =>
    match CodePoint.ofInt? value with
    | some point => (.ok (), streams.append [point])
    | none => (.error (noCharacter value), streams)
  | .number value =>
    if Numeral.isWritable value then
      let digits := Numeral.write value
      (.ok (), streams.append (digits.map CodePoint.ofChar ++ [CodePoint.lineFeed]))
    else (.error (.raised "ValueError" (Numeral.limitText "")), streams)

/-- Reads a character, or a line that holds a number. A line is used up even when it holds none.
[SPEC _read_char, _read_number] -/
def read (streams : Streams) : Console.Query → Except Console.Fault Int × Streams
  | .char =>
    match streams.unread with
    | [] => (.error (.refused "unexpected end of input while reading a character"), streams)
    | point :: rest => (.ok point.val, { streams with unread := rest })
  | .number =>
    match streams.unread with
    | [] => (.error (.refused "unexpected end of input while reading a number"), streams)
    | point :: rest =>
      let (line, after) := splitLine (point :: rest)
      let trimmed := line.trim CodePoint.isBlank
      let reply : Except Console.Fault Int := match Numeral.read trimmed with
        | .ok value => .ok value
        | .error defect => .error (noNumber trimmed defect)
      (reply, { streams with unread := after })

instance : Console Streams where
  write := write
  read := read

end Streams

end BlankCode
