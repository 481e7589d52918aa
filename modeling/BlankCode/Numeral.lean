/-
Module: BlankCode.Numeral
Purpose: Integers written in decimal. A numeral is an optional sign and decimal digits of any
  script, with single underscores allowed between digits and white space allowed around it all.
  Numerals with too many digits are refused; an underscore out of place is noticed before that,
  and anything after the digits only then.
Main exports: Numeral.digitLimit, Numeral.isWritable, Numeral.write, Numeral.Defect, Numeral.read
-/
import BlankCode.Text.Blank
import BlankCode.Text.Digit

namespace BlankCode.Numeral

/-- The most digits that an integer is read or written with. -/
def digitLimit : Nat := 4300

/-- An integer can be written unless it has more digits than that. Reports of errors and consoles
ask before they write one. -/
def isWritable (value : Int) : Bool :=
  (Nat.toDigits 10 value.natAbs).length ≤ digitLimit

/-- What is said of an integer with too many digits, before and after the count of the digits. -/
def limitText (count : String) : String :=
  "Exceeds the limit (" ++ toString digitLimit ++ " digits) for integer string conversion" ++
    count ++ "; use sys.set_int_max_str_digits() to increase the limit"

/-- The decimal digits of a number, with a minus sign in front when it is negative. -/
def write (value : Int) : List Char :=
  let digits := Nat.toDigits 10 value.natAbs
  if value < 0 then '-' :: digits else digits

/-- Why a text is refused as an integer. -/
inductive Defect where
  | malformed
  | tooLong (digits : Nat)
deriving DecidableEq, Repr

/-- One place of a numeral after its sign. -/
inductive Mark where
  | digit (value : Nat)
  | underscore
deriving DecidableEq, Repr

/-- The digit or underscore at a place, if it holds one. -/
def mark? (point : CodePoint) : Option Mark :=
  if point.val = '_'.toNat then some .underscore else point.digit?.map .digit

/-- The longest run of digits and underscores at the front of a text, and what follows it. -/
def leadingRun (text : Text) : List Mark × Text :=
  let (front, after) := text.span fun point => (mark? point).isSome
  (front.filterMap mark?, after)

/-- Underscores are in place when each stands between two digits. -/
def wellSpaced (expectsDigit : Bool) : List Mark → Bool
  | [] => !expectsDigit
  | .digit _ :: rest => wellSpaced false rest
  | .underscore :: rest => !expectsDigit && wellSpaced true rest

/-- The values of the digits of a run. -/
def digits (marks : List Mark) : List Nat :=
  marks.filterMap fun
    | .digit value => some value
    | .underscore => none

/-- The number that decimal digits spell, the most significant first. -/
def value (digits : List Nat) : Nat :=
  digits.foldl (fun total digit => total * 10 + digit) 0

/-- The sign of a numeral, and its digits. -/
def splitSign : Text → Bool × Text
  | [] => (false, [])
  | point :: rest =>
    if point.val = '-'.toNat then (true, rest)
    else if point.val = '+'.toNat then (false, rest)
    else (false, point :: rest)

/-- The integer that a text spells. -/
def read (text : Text) : Except Defect Int :=
  let (negative, unsigned) := splitSign (text.trim CodePoint.isMargin)
  let (marks, after) := leadingRun unsigned
  let count := (digits marks).length
  if !wellSpaced true marks then .error .malformed
  else if digitLimit < count then .error (.tooLong count)
  else if !after.isEmpty then .error .malformed
  else
    let magnitude := value (digits marks)
    .ok (if negative then -magnitude else magnitude)

end BlankCode.Numeral
