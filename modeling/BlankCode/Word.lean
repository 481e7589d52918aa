/-
Module: BlankCode.Word
Purpose: Signed numbers of 64 bits, as the integers from `-2 ^ 63` to below `2 ^ 63`.
Main exports: Word.modulus, Word.wrap, Word.InRange, Word.divide?, Word.wrap_eq_bmod,
  Word.wrap_eq_wrap_iff, Word.wrap_emod, Word.divide?_eq_tdiv
-/

namespace BlankCode.Word

/-- The number of words. -/
def modulus : Int := 0x10000000000000000

/-- The least word. -/
def least : Int := -0x8000000000000000

/-- The word that differs from an integer by a multiple of the modulus. [SPEC wrap] -/
def wrap (value : Int) : Int :=
  (value - least) % modulus + least

/-- The integers that are words. -/
def InRange (value : Int) : Prop :=
  -0x8000000000000000 ≤ value ∧ value < 0x8000000000000000

instance (value : Int) : Decidable (InRange value) :=
  inferInstanceAs (Decidable (_ ∧ _))

/-- The quotient of any integers rounded toward zero: that of their magnitudes rounded down, with
the sign put back. Nothing is divided by zero. [SPEC truncated_divide] -/
def divide? (dividend divisor : Int) : Option Int :=
  if divisor = 0 then none
  else
    let quotient : Int := dividend.natAbs / divisor.natAbs
    some (if dividend < 0 ↔ divisor < 0 then quotient else -quotient)

/-- Wrapping gives a word. -/
theorem inRange_wrap (value : Int) : InRange (wrap value) := by
  unfold InRange wrap modulus least
  omega

/-- Wrapping leaves words alone. -/
theorem wrap_of_inRange {value : Int} (range : InRange value) : wrap value = value := by
  unfold InRange at range
  unfold wrap modulus least
  omega

/-- Wrapping takes the remainder that lies nearest to zero. -/
theorem wrap_eq_bmod (value : Int) : wrap value = value.bmod 0x10000000000000000 := by
  rw [Int.bmod_eq_emod]
  unfold wrap modulus least
  split <;> omega

/-- Integers wrap to the same word exactly if they leave the same remainder. -/
theorem wrap_eq_wrap_iff {left right : Int} :
    wrap left = wrap right ↔ left % modulus = right % modulus := by
  unfold wrap modulus least
  omega

/-- Wrapping changes nothing about the remainder. -/
theorem wrap_emod (value : Int) : wrap value % modulus = value % modulus := by
  unfold wrap modulus least
  omega

/-- The quotient is the one that the standard library rounds toward zero. -/
theorem divide?_eq_tdiv {divisor : Int} (nonzero : divisor ≠ 0) (dividend : Int) :
    divide? dividend divisor = some (dividend.tdiv divisor) := by
  have magnitudes (upper lower : Nat) : (upper : Int).tdiv lower = (upper : Int) / lower :=
    Int.tdiv_eq_ediv_of_nonneg (Int.natCast_nonneg upper)
  rw [divide?, if_neg nonzero]
  rcases dividend.eq_nat_or_neg with ⟨upper, rfl | rfl⟩ <;>
    rcases divisor.eq_nat_or_neg with ⟨lower, rfl | rfl⟩ <;>
    simp only [Int.natAbs_neg, Int.natAbs_natCast, Int.neg_tdiv, Int.tdiv_neg, Int.neg_neg,
      magnitudes]
  · rw [if_pos (by omega)]
  · rw [if_neg (by omega)]
  · rcases Nat.eq_zero_or_pos upper with rfl | positive
    · simp
    · rw [if_neg (by omega)]
  · rcases Nat.eq_zero_or_pos upper with rfl | positive
    · simp
    · rw [if_pos (by omega)]

end BlankCode.Word
