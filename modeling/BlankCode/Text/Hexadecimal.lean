/-
Module: BlankCode.Text.Hexadecimal
Purpose: Numbers written in base sixteen, padded with zeros on the left.
Main exports: Hexadecimal.lower, Hexadecimal.upper
-/

namespace BlankCode.Hexadecimal

/-- The digits of a number in lower case, at least `width` of them. -/
def lower (width value : Nat) : String :=
  let digits := Nat.toDigits 16 value
  String.ofList (List.replicate (width - digits.length) '0' ++ digits)

/-- The digits of a number in upper case, at least `width` of them. -/
def upper (width value : Nat) : String :=
  String.ofList ((lower width value).toList.map Char.toUpper)

end BlankCode.Hexadecimal
