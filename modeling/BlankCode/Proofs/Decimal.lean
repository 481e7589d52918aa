/-
Module: BlankCode.Proofs.Decimal
Purpose: Reading a number back from the digits that it is written with. Numerals admit more than is
  ever written: digits of other scripts, underscores, signs, white space. None of these is in what
  is written, so that each step of reading passes it on as it is. Only an integer with more digits
  than are ever written is not read either.
Main exports: Text.trim_append, Numeral.exists_digits, Numeral.text, Numeral.isBlank_of_mem_text,
  Numeral.read_text, Numeral.isWritable_of_inRange, Numeral.overlong
-/
import BlankCode.Numeral
import BlankCode.Word
import Mathlib.Data.List.Basic
import Mathlib.Data.List.TakeDrop
import Mathlib.Data.List.TakeWhile
import Mathlib.Tactic.IntervalCases

namespace BlankCode

/-- White space that may surround a numeral is white space of a line. -/
theorem CodePoint.isMargin_of_isBlank {point : CodePoint} (solid : point.isBlank = false) :
    point.isMargin = false := by
  simp only [isBlank, isMargin, Bool.or_eq_false_iff] at solid ⊢
  exact ⟨solid.1.1, solid.2⟩

/-- What has no code point of a class in it is what trimming leaves, when only such code points
follow. -/
theorem Text.trim_append {class? : CodePoint → Bool} {text blank : Text}
    (solid : ∀ point ∈ text, class? point = false) (blanks : ∀ point ∈ blank, class? point = true) :
    Text.trim class? (text ++ blank) = text := by
  unfold trim
  have front : (text ++ blank).dropWhile class? = if text = [] then [] else text ++ blank := by
    cases text with
    | nil => simpa using blanks
    | cons first rest => simp [solid first List.mem_cons_self]
  have back : text.reverse.dropWhile class? = text.reverse := by
    rw [List.dropWhile_eq_self_iff]
    intro nonempty
    simp [solid]
  rw [front]
  split
  · rename_i empty
    simp [empty]
  · rw [List.reverse_append, List.dropWhile_append_of_pos (by simpa using blanks), back,
      List.reverse_reverse]

namespace Numeral

/-! ### Digits -/

/-- Each digit that is put behind others makes them count ten times as much. -/
theorem value_snoc (digits : List Nat) (digit : Nat) :
    value (digits ++ [digit]) = value digits * 10 + digit := by
  simp [value]

/-- A number is written with its decimal digits. -/
theorem exists_digits (number : Nat) :
    ∃ digits, Nat.toDigits 10 number = digits.map Nat.digitChar ∧ digits ≠ [] ∧
      (∀ digit ∈ digits, digit < 10) ∧ value digits = number := by
  induction number using Nat.base_induction 10 (by decide) with
  | single digit isDigit =>
      refine ⟨[digit], Nat.toDigits_of_lt_base isDigit, List.cons_ne_nil _ _, ?_, ?_⟩
      · simpa using isDigit
      · simp [value]
  | digit number digit isDigit positive ih =>
      obtain ⟨digits, written, _, areDigits, same⟩ := ih
      refine ⟨digits ++ [digit], ?_, by simp, ?_, ?_⟩
      · rw [← Nat.toDigits_append_toDigits (by decide) positive isDigit, written,
          Nat.toDigits_of_lt_base isDigit, List.map_append, List.map_singleton]
      · intro one member
        rcases List.mem_append.mp member with inFront | isLast
        · exact areDigits one inFront
        · rw [List.mem_singleton.mp isLast]
          exact isDigit
      · rw [value_snoc, same, Nat.mul_comm]

/-- The code point of a digit. -/
def point (digit : Nat) : CodePoint :=
  CodePoint.ofChar digit.digitChar

theorem mark?_point {digit : Nat} (isDigit : digit < 10) :
    mark? (point digit) = some (.digit digit) := by
  interval_cases digit <;> decide

theorem isBlank_point {digit : Nat} (isDigit : digit < 10) : (point digit).isBlank = false := by
  interval_cases digit <;> decide

theorem splitSign_point {digit : Nat} (isDigit : digit < 10) (rest : Text) :
    splitSign (point digit :: rest) = (false, point digit :: rest) := by
  interval_cases digit <;> rfl

/-- A text of digits is all one run of them. -/
theorem leadingRun_points {digits : List Nat} (areDigits : ∀ digit ∈ digits, digit < 10) :
    leadingRun (digits.map point) = (digits.map .digit, []) := by
  have marked : ∀ one ∈ digits.map point, (mark? one).isSome = true := by
    intro one member
    obtain ⟨digit, isThere, rfl⟩ := List.mem_map.mp member
    rw [mark?_point (areDigits digit isThere)]
    rfl
  have marks : (digits.map point).filterMap mark? = digits.map .digit := by
    rw [List.filterMap_map, ← List.filterMap_eq_map]
    exact List.filterMap_congr fun digit isThere => mark?_point (areDigits digit isThere)
  rw [leadingRun, List.span_eq_takeWhile_dropWhile, List.takeWhile_eq_self_iff.mpr marked,
    List.dropWhile_eq_nil_iff.mpr marked]
  exact Prod.ext marks rfl

/-- Digits without underscores are well spaced. -/
theorem wellSpaced_digits {digits : List Nat} (some : digits ≠ []) :
    wellSpaced true (digits.map .digit) = true := by
  have goesOn (rest : List Nat) : wellSpaced false (rest.map .digit) = true := by
    induction rest with
    | nil => rfl
    | cons digit rest ih => exact ih
  cases digits with
  | nil => exact absurd rfl some
  | cons digit rest => exact goesOn rest

theorem digits_map_digit (digits : List Nat) : Numeral.digits (digits.map .digit) = digits := by
  rw [Numeral.digits, List.filterMap_map]
  exact List.filterMap_some

/-! ### Numbers -/

/-- The text that a number is written as. -/
def text (value : Int) : Text :=
  (write value).map CodePoint.ofChar

/-- The text of a number is a sign, if there is one, and the text of its digits. -/
theorem text_eq (value : Int) :
    text value = (if value < 0 then [CodePoint.minus] else []) ++
      (Nat.toDigits 10 value.natAbs).map CodePoint.ofChar := by
  unfold text write
  split <;> rfl

theorem isBlank_of_mem_text {value : Int} {point : CodePoint} (member : point ∈ text value) :
    point.isBlank = false := by
  obtain ⟨digits, written, _, areDigits, _⟩ := exists_digits value.natAbs
  rw [text_eq, written, List.map_map] at member
  rcases List.mem_append.mp member with isSign | isDigit
  · split at isSign
    · rw [List.mem_singleton.mp isSign]
      decide
    · cases isSign
  · obtain ⟨digit, isThere, rfl⟩ := List.mem_map.mp isDigit
    exact isBlank_point (areDigits digit isThere)

theorem splitSign_text (value : Int) :
    splitSign (text value) =
      (decide (value < 0), (Nat.toDigits 10 value.natAbs).map CodePoint.ofChar) := by
  obtain ⟨digits, written, some, areDigits, _⟩ := exists_digits value.natAbs
  rw [text_eq]
  by_cases negative : value < 0
  · simp only [negative, decide_true]
    rfl
  · obtain ⟨first, rest, rfl⟩ := List.exists_cons_of_ne_nil some
    simp only [negative, decide_false, written]
    exact splitSign_point (areDigits first List.mem_cons_self) _

/-- A number is read back from its text, unless it has more digits than are ever written. -/
theorem read_text (value : Int) :
    read (text value) =
      if isWritable value then .ok value
      else .error (.tooLong (Nat.toDigits 10 value.natAbs).length) := by
  obtain ⟨digits, written, some, areDigits, same⟩ := exists_digits value.natAbs
  have trimmed : (text value).trim CodePoint.isMargin = text value := by
    have solid : ∀ point ∈ text value, point.isMargin = false := fun point member =>
      CodePoint.isMargin_of_isBlank (isBlank_of_mem_text member)
    have nothing : ∀ point ∈ ([] : Text), point.isMargin = true := by simp
    simpa using Text.trim_append solid nothing
  have run : leadingRun ((digits.map Nat.digitChar).map CodePoint.ofChar) =
      (digits.map .digit, []) := by
    rw [List.map_map]
    exact leadingRun_points areDigits
  have signed : (if value < 0 then -(value.natAbs : Int) else value.natAbs) = value := by
    split <;> omega
  simp only [read, isWritable, trimmed, splitSign_text, written, run, digits_map_digit, same,
    wellSpaced_digits some, List.length_map, decide_eq_true_eq, signed]
  by_cases few : digits.length ≤ digitLimit
  · rw [if_pos few, if_neg (Nat.not_lt.mpr few)]
    rfl
  · rw [if_neg few, if_pos (Nat.lt_of_not_le few)]
    rfl

theorem isWritable_iff {value : Int} :
    isWritable value = true ↔ value.natAbs < 10 ^ digitLimit := by
  rw [isWritable, decide_eq_true_eq]
  exact Nat.length_toDigits_le_iff (by decide) (by decide)

/-- Words have far fewer digits. -/
theorem isWritable_of_inRange {value : Int} (isWord : Word.InRange value) :
    isWritable value = true := by
  have short : 10 ^ 20 ≤ 10 ^ digitLimit := Nat.pow_le_pow_right (by decide) (by decide)
  unfold Word.InRange at isWord
  rw [isWritable_iff]
  omega

/-- The sign makes no difference to whether an integer can be written. -/
theorem isWritable_neg (value : Int) : isWritable (-value) = isWritable value := by
  rw [isWritable, isWritable, Int.natAbs_neg]

/-- The negative integer that is nearest to zero and has too many digits. -/
def overlong : Int :=
  -((10 ^ digitLimit : Nat) : Int)

theorem overlong_neg : overlong < 0 :=
  Int.neg_neg_of_pos (Int.natCast_pos.mpr (Nat.pow_pos (by decide)))

theorem isWritable_overlong : isWritable overlong = false := by
  rw [← Bool.not_eq_true, isWritable_iff, overlong, Int.natAbs_neg, Int.natAbs_natCast]
  exact Nat.lt_irrefl _

end Numeral

end BlankCode
