/-
Module: BlankCode.Text.Quoted
Purpose: Text and bytes between quotes, with every code point that would not show as itself escaped.
  The single quote is used unless the content holds one and no double quote.
Main exports: Quoted.text, Quoted.string, Quoted.bytes
-/
import BlankCode.Text.Hexadecimal
import BlankCode.Text.Printable

namespace BlankCode.Quoted

/-- The quote that surrounds a content. -/
def delimiter (content : List Nat) : Char :=
  if content.contains '\''.toNat && !content.contains '"'.toNat then '"' else '\''

/-- The escapes that text and bytes share: backslash, the quote in use and three controls. -/
def short? (quote : Char) (value : Nat) : Option String :=
  if value = '\\'.toNat then some "\\\\"
  else if value = quote.toNat then some (String.ofList ['\\', quote])
  else if value = '\n'.toNat then some "\\n"
  else if value = '\r'.toNat then some "\\r"
  else if value = '\t'.toNat then some "\\t"
  else none

/-- A numbered escape, as short as the code point allows. -/
def numbered (value : Nat) : String :=
  if value < 0x100 then "\\x" ++ Hexadecimal.lower 2 value
  else if value < 0x10000 then "\\u" ++ Hexadecimal.lower 4 value
  else "\\U" ++ Hexadecimal.lower 8 value

/-- How one code point of a text is written. -/
def point (quote : Char) (value : CodePoint) : String :=
  match short? quote value.val with
  | some escape => escape
  | none =>
    match if value.isPrintable then value.toChar? else none with
    | some char => String.singleton char
    | none => numbered value.val

/-- How one byte is written: only printable ASCII shows as itself. -/
def byte (quote : Char) (value : UInt8) : String :=
  match short? quote value.toNat with
  | some escape => escape
  | none =>
    if 0x20 ≤ value.toNat ∧ value.toNat < 0x7F then String.singleton (Char.ofNat value.toNat)
    else numbered value.toNat

/-- A text between quotes. -/
def text (content : Text) : String :=
  let quote := delimiter (content.map Fin.val)
  String.singleton quote ++ String.join (content.map (point quote)) ++ String.singleton quote

/-- A string between quotes. -/
def string (content : String) : String :=
  text (Text.ofString content)

/-- Bytes between quotes, marked by a letter in front. -/
def bytes (content : List UInt8) : String :=
  let quote := delimiter (content.map UInt8.toNat)
  "b" ++ String.singleton quote ++ String.join (content.map (byte quote)) ++ String.singleton quote

end BlankCode.Quoted
