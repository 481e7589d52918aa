/-
Module: BlankCode.Text.Blank
Purpose: White space around a number, and trimming a text by a class of code points.
Main exports: CodePoint.isBlank, CodePoint.isMargin, Text.trim
-/
import BlankCode.Text.CodePoint

namespace BlankCode

namespace CodePoint

/-- White space outside the first 128 code points. -/
def isWideBlank (point : CodePoint) : Bool :=
  point.val = 0x85 || point.val = 0xA0 || point.val = 0x1680 ||
    (0x2000 ≤ point.val && point.val ≤ 0x200A) || point.val = 0x2028 || point.val = 0x2029 ||
    point.val = 0x202F || point.val = 0x205F || point.val = 0x3000

/-- The space and the five controls from the tab to the carriage return. -/
def isPlainBlank (point : CodePoint) : Bool :=
  (0x09 ≤ point.val && point.val ≤ 0x0D) || point.val = 0x20

/-- White space of a line: all of it, the four information separators included. -/
def isBlank (point : CodePoint) : Bool :=
  point.isPlainBlank || (0x1C ≤ point.val && point.val ≤ 0x1F) || point.isWideBlank

/-- White space that may surround a numeral: the information separators are not part of it. -/
def isMargin (point : CodePoint) : Bool :=
  point.isPlainBlank || point.isWideBlank

end CodePoint

/-- The text without the code points of a class at its two ends. -/
def Text.trim (class? : CodePoint → Bool) (text : Text) : Text :=
  ((text.dropWhile class?).reverse.dropWhile class?).reverse

end BlankCode
