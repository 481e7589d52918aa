/-
Module: BlankCode.Binary64
Purpose: Binary floating-point numbers of 64 bits as values that a command may carry: their exact
  comparison with integers, and their text. The text has the fewest digits that read back as the
  same number, and of those the digits nearest to it.
Main exports: Binary64, Binary64.Magnitude, Binary64.shortest, Binary64.text, Binary64.equalsInt
-/

namespace BlankCode

/-- A floating-point number, given by its 64 bits: sign, eleven bits of exponent, 52 of fraction. -/
structure Binary64 where
  bits : UInt64
deriving DecidableEq, Repr

namespace Binary64

/-- What the bits stand for, the sign apart. A finite magnitude is `significand * 2 ^ exponent`. -/
inductive Magnitude where
  | notANumber
  | infinite
  | finite (significand : Nat) (exponent : Int)
deriving DecidableEq, Repr

/-- The sign bit. -/
def negative (number : Binary64) : Bool :=
  0x8000000000000000 ≤ number.bits.toNat

/-- The magnitude that the exponent and the fraction encode. -/
def magnitude (number : Binary64) : Magnitude :=
  let biased : Nat := number.bits.toNat / 0x10000000000000 % 0x800
  let fraction : Nat := number.bits.toNat % 0x10000000000000
  if biased = 0x7FF then (if fraction = 0 then .infinite else .notANumber)
  else if biased = 0 then .finite fraction (-1074)
  else .finite (0x10000000000000 + fraction) ((biased : Int) - 1075)

/-- Two fractions `a * 10 ^ s` and `b * 2 ^ t` brought to one denominator: the factors of `a` and
`b`. -/
def commonFactors (tens twos : Int) : Nat × Nat :=
  (Nat.pow 10 tens.toNat * Nat.pow 2 (-twos).toNat,
    Nat.pow 10 (-tens).toNat * Nat.pow 2 twos.toNat)

/-- The numbers that round to `significand * 2 ^ exponent`, in quarters of the last place: lower
end, the number itself, upper end. Below a power of two the neighbour is only half as far. -/
def quarters (significand : Nat) (exponent : Int) : Nat × Nat × Nat :=
  let below := if significand = 0x10000000000000 ∧ -1074 < exponent then 1 else 2
  (4 * significand - below, 4 * significand, 4 * significand + 2)

/-- The position of the decimal point: the least power of ten above `significand * 2 ^ exponent`. -/
def pointPosition (significand : Nat) (exponent : Int) : Int :=
  let above (position : Int) : Bool :=
    let (tens, twos) := commonFactors position exponent
    significand * twos < tens
  match (List.range 640).find? fun shift : Nat => above (Int.ofNat shift - 330) with
  | some shift => Int.ofNat shift - 330
  | none => 310

/-- The multiple of `10 ^ scale` nearest to the number among those that round to it, if there is
one. Of two equally near the even one is taken. -/
def onGrid (significand : Nat) (exponent scale : Int) : Option Nat :=
  let (low, middle, high) := quarters significand exponent
  let (tens, twos) := commonFactors scale (exponent - 2)
  let inside (candidate : Nat) : Bool :=
    if significand % 2 = 0 then low * twos ≤ candidate * tens && candidate * tens ≤ high * twos
    else low * twos < candidate * tens && candidate * tens < high * twos
  let lower := middle * twos / tens
  let upper := lower + 1
  let toLower := middle * twos - lower * tens
  let toUpper := upper * tens - middle * twos
  match inside lower, inside upper with
  | true, true =>
    some (if toLower < toUpper then lower else if toUpper < toLower then upper
      else if lower % 2 = 0 then lower else upper)
  | true, false => some lower
  | false, true => some upper
  | false, false => none

/-- The digits of the coarsest decimal grid that has a number rounding to this one, together with
the position of the decimal point in front of which they begin. Seventeen digits always suffice.
-/
def shortest (significand : Nat) (exponent : Int) : List Char × Int :=
  let position := pointPosition significand exponent
  let grid? (count : Nat) : Option (Nat × Int) :=
    let scale := position - count
    (onGrid significand exponent scale).map fun digits => (digits, scale)
  let (digits, scale) := ((List.range 18).findSome? fun count => grid? (count + 1)).getD (0, 0)
  let written := Nat.toDigits 10 digits
  let point := scale + written.length
  let kept := (written.reverse.dropWhile (· == '0')).reverse
  (if kept.isEmpty then ['0'] else kept, point)

/-- The exponent part of a number in scientific form: a sign and at least two digits. -/
def exponentText (exponent : Int) : List Char :=
  let digits := Nat.toDigits 10 exponent.natAbs
  (if exponent < 0 then '-' else '+') :: (List.replicate (2 - digits.length) '0' ++ digits)

/-- Digits with their decimal point set: positional from `10 ^ -4` to below `10 ^ 16`, with at least
one digit on both sides of the point, and scientific elsewhere. -/
def layout (digits : List Char) (point : Int) : List Char :=
  if -4 < point ∧ point ≤ 16 then
    if point ≤ 0 then '0' :: '.' :: (List.replicate (-point).toNat '0' ++ digits)
    else
      let whole := digits.take point.toNat
      let fraction := digits.drop point.toNat
      whole ++ List.replicate (point.toNat - whole.length) '0' ++
        '.' :: (if fraction.isEmpty then ['0'] else fraction)
  else
    let fraction := digits.drop 1
    digits.take 1 ++ (if fraction.isEmpty then [] else '.' :: fraction) ++
      'e' :: exponentText (point - 1)

/-- The text of a number. -/
def text (number : Binary64) : String :=
  let sign := if number.negative then "-" else ""
  match number.magnitude with
  | .notANumber => "nan"
  | .infinite => sign ++ "inf"
  | .finite 0 _ => sign ++ "0.0"
  | .finite significand exponent =>
    let (digits, point) := shortest significand exponent
    sign ++ String.ofList (layout digits point)

/-- Equality as numbers: both zeros are one number, and what is no number equals nothing. -/
def equals (left right : Binary64) : Bool :=
  match left.magnitude, right.magnitude with
  | .notANumber, _ => false
  | _, .notANumber => false
  | .finite 0 _, .finite 0 _ => true
  | _, _ => left.bits == right.bits

/-- Equality with an integer, exactly. -/
def equalsInt (number : Binary64) (value : Int) : Bool :=
  match number.magnitude with
  | .finite significand exponent =>
    let (whole, scaled) :=
      (significand * Nat.pow 2 exponent.toNat, value.natAbs * Nat.pow 2 (-exponent).toNat)
    whole == scaled && (significand = 0 || number.negative == decide (value < 0))
  | _ => false

end Binary64

end BlankCode
