/-
Module: BlankCode.Proofs.Division
Purpose: Quotients and remainders of the machine. They are those of 64-bit hardware: the quotient is
  rounded toward zero, the remainder is what that leaves of the dividend, and the one quotient that
  no word can hold wraps around. Of integers that are no words the two still restore the dividend,
  as far as wrapping leaves it.
Main exports: Division.towardZero, Division.truncated, Division.truncated_eq_tdiv,
  Division.NativePair, Division.divides_natively
-/
import BlankCode.Console.Streams
import BlankCode.Proofs.Performance
import Mathlib.Data.Int.ModEq
import Mathlib.Data.Rat.Floor

namespace BlankCode.Division

/-! ### Rounding -/

/-- A number without what it has behind its point. -/
def towardZero (number : ℚ) : Int :=
  if 0 ≤ number then ⌊number⌋ else ⌈number⌉

/-- The quotient of two integers rounded toward zero. -/
def truncated (dividend divisor : Int) : Int :=
  towardZero (dividend / divisor)

/-- What is cut off does not depend on the sign. -/
theorem towardZero_neg (number : ℚ) : towardZero (-number) = -towardZero number := by
  unfold towardZero
  rcases lt_trichotomy number 0 with negative | rfl | positive
  · rw [if_pos (by linarith), if_neg (by linarith), Int.floor_neg]
  · simp
  · rw [if_neg (by linarith), if_pos (by linarith), Int.ceil_neg]

theorem towardZero_div (upper lower : Nat) :
    towardZero ((upper : ℚ) / lower) = (upper : Int) / lower := by
  rw [towardZero, if_pos (by positivity)]
  exact Rat.floor_intCast_div_natCast upper lower

/-- Rounding the exact quotient toward zero is what the standard library does. -/
theorem truncated_eq_tdiv (dividend divisor : Int) :
    truncated dividend divisor = dividend.tdiv divisor := by
  have magnitudes (upper lower : Nat) : (upper : Int).tdiv lower = (upper : Int) / lower :=
    Int.tdiv_eq_ediv_of_nonneg (Int.natCast_nonneg upper)
  unfold truncated
  rcases dividend.eq_nat_or_neg with ⟨upper, rfl | rfl⟩ <;>
    rcases divisor.eq_nat_or_neg with ⟨lower, rfl | rfl⟩ <;>
    simp only [Int.cast_neg, Int.cast_natCast, neg_div, div_neg, towardZero_neg, towardZero_div,
      Int.neg_tdiv, Int.tdiv_neg, magnitudes]

/-! ### Words -/

/-- Only the least word divided by minus one gives a quotient that is no word. -/
theorem inRange_tdiv {dividend : Int} (word : Word.InRange dividend) (divisor : Int)
    (fits : ¬ (dividend = Word.least ∧ divisor = -1)) : Word.InRange (dividend.tdiv divisor) := by
  have magnitude := Int.natAbs_tdiv dividend divisor
  unfold Word.InRange Word.least at *
  by_cases unit : divisor.natAbs = 1
  · rcases Int.natAbs_eq_iff.mp unit with rfl | rfl
    · rw [Int.natCast_one, Int.tdiv_one]
      exact word
    · rw [Int.natCast_one, Int.tdiv_neg, Int.tdiv_one]
      omega
  · have halved : dividend.natAbs.div divisor.natAbs ≤ dividend.natAbs / 2 := by
      rcases Nat.eq_zero_or_pos divisor.natAbs with zero | positive
      · rw [zero]
        exact (Nat.div_zero _).trans_le (Nat.zero_le _)
      · exact Nat.div_le_div_left (by omega) Nat.two_pos
    omega

/-- A remainder is smaller than the divisor. -/
theorem abs_tmod_lt (dividend : Int) {divisor : Int} (nonzero : divisor ≠ 0) :
    |dividend.tmod divisor| < |divisor| := by
  have bound : dividend.natAbs % divisor.natAbs < divisor.natAbs :=
    Nat.mod_lt _ (Int.natAbs_pos.mpr nonzero)
  rw [Int.abs_eq_natAbs, Int.abs_eq_natAbs, Int.natAbs_tmod]
  exact Int.ofNat_lt.mpr bound

theorem inRange_tmod (dividend : Int) {divisor : Int} (nonzero : divisor ≠ 0)
    (word : Word.InRange divisor) : Word.InRange (dividend.tmod divisor) := by
  have small := abs_tmod_lt dividend nonzero
  rw [Int.abs_eq_natAbs, Int.abs_eq_natAbs] at small
  unfold Word.InRange at *
  omega

/-- Wrapped or not, quotient and remainder restore what the dividend wraps to. -/
theorem wrap_restores (dividend divisor : Int) :
    Word.wrap (Word.wrap (dividend.tdiv divisor) * divisor + Word.wrap (dividend.tmod divisor)) =
      Word.wrap dividend := by
  have quotient : Word.wrap (dividend.tdiv divisor) ≡ dividend.tdiv divisor [ZMOD Word.modulus] :=
    Word.wrap_emod _
  have remainder : Word.wrap (dividend.tmod divisor) ≡ dividend.tmod divisor [ZMOD Word.modulus] :=
    Word.wrap_emod _
  have restored := (quotient.mul_right divisor).add remainder
  rw [Int.tdiv_mul_add_tmod] at restored
  exact Word.wrap_eq_wrap_iff.mpr restored

/-- What quotient and remainder of two words are in 64-bit hardware. -/
structure NativePair (dividend divisor quotient remainder : Int) : Prop where
  leaves : remainder = dividend - divisor * truncated dividend divisor
  small : |remainder| < |divisor|
  sided : remainder = 0 ∨ remainder.sign = dividend.sign
  rounded : ¬ (dividend = Word.least ∧ divisor = -1) → quotient = truncated dividend divisor
  wrapped : dividend = Word.least → divisor = -1 → quotient = Word.least ∧ remainder = 0
  restores : Word.wrap (Word.wrap (quotient * divisor) + remainder) = dividend

theorem nativePair_wrap {dividend divisor : Int} (nonzero : divisor ≠ 0)
    (isWord : Word.InRange dividend) (isWordToo : Word.InRange divisor) :
    NativePair dividend divisor (Word.wrap (dividend.tdiv divisor))
      (Word.wrap (dividend.tmod divisor)) := by
  have kept : Word.wrap (dividend.tmod divisor) = dividend.tmod divisor :=
    Word.wrap_of_inRange (inRange_tmod dividend nonzero isWordToo)
  constructor
  case leaves => rw [kept, truncated_eq_tdiv, Int.tmod_def]
  case small =>
    rw [kept]
    exact abs_tmod_lt dividend nonzero
  case sided =>
    rw [kept, Int.sign_tmod]
    by_cases divides : divisor ∣ dividend
    · exact Or.inl (Int.tmod_eq_zero_of_dvd divides)
    · exact Or.inr (if_neg divides)
  case rounded =>
    intro fits
    rw [truncated_eq_tdiv, Word.wrap_of_inRange (inRange_tdiv isWord divisor fits)]
  case wrapped =>
    rintro rfl rfl
    exact ⟨rfl, rfl⟩
  case restores =>
    have once := wrap_restores dividend divisor
    rw [Word.wrap_of_inRange isWord] at once
    conv => rhs; rw [← once]
    exact Word.wrap_eq_wrap_iff.mpr (Int.ModEq.add_right _ (Word.wrap_emod _))

/-! ### The machine -/

section

variable {σ μ : Type} [Console σ] [Memory μ] {machine : Machine σ μ} {dividend divisor : Int}
  {rest : List Int}

/-- The two operations put what comes of the two topmost values in their place, or fail and leave
them there. -/
theorem step_divides {program : Program} {operation : Operation} {argument : Int}
    (divides : operation = .divide ∨ operation = .modulo) (running : machine.status = .running)
    (top : machine.stack = divisor :: dividend :: rest)
    (found : program.fetch? machine.counter = some ⟨operation, argument⟩) :
    machine.step program = match Machine.combine operation dividend divisor with
      | .ok result =>
        { machine with counter := machine.counter + 1, stack := Word.wrap result :: rest }
      | .error error =>
        { machine with counter := machine.counter + 1, status := .failed (.execution error) } := by
  have performed (moved : Machine σ μ) :
      moved.perform ⟨operation, argument⟩ = moved.arithmetic operation := by
    rcases divides with rfl | rfl <;> rfl
  rw [Machine.step_of_running running, Machine.attempt_of_fetch? found, performed,
    Machine.arithmetic, top]
  dsimp only
  cases combined : Machine.combine operation dividend divisor with
  | ok result => rfl
  | error error =>
      have told := Program.tells_of_quiet (Machine.quantity?_of_combine combined) program
      rw [Machine.Outcome.settle, Machine.raise_of_tells told]
      exact Machine.fail_of_running (by exact running) _

/-- Division and modulo of the two topmost values, the divisor on top. By zero both fail and leave
the stack as it was. Otherwise their results are words, and restore what the dividend wraps to; when
dividend and divisor are words themselves, the results are the pair that 64-bit hardware has. -/
theorem divides_natively {division modulo : Program} {argument other : Int}
    (running : machine.status = .running) (top : machine.stack = divisor :: dividend :: rest)
    (divides : division.fetch? machine.counter = some ⟨.divide, argument⟩)
    (leaves : modulo.fetch? machine.counter = some ⟨.modulo, other⟩) :
    (divisor = 0 →
      machine.step division =
          { machine with
            counter := machine.counter + 1
            status := .failed (.execution (.divisionByZero "division")) } ∧
        machine.step modulo =
          { machine with
            counter := machine.counter + 1
            status := .failed (.execution (.divisionByZero "modulo")) }) ∧
    (divisor ≠ 0 → ∃ quotient remainder,
      machine.step division =
          { machine with counter := machine.counter + 1, stack := quotient :: rest } ∧
        machine.step modulo =
          { machine with counter := machine.counter + 1, stack := remainder :: rest } ∧
        Word.InRange quotient ∧ Word.InRange remainder ∧
        Word.wrap (quotient * divisor + remainder) = Word.wrap dividend ∧
        (Word.InRange dividend → Word.InRange divisor →
          NativePair dividend divisor quotient remainder)) := by
  have divided := step_divides (Or.inl rfl) running top divides
  have left := step_divides (Or.inr rfl) running top leaves
  rw [Machine.combine_divide] at divided
  rw [Machine.combine_modulo] at left
  constructor
  · intro zero
    rw [if_pos zero] at divided left
    exact ⟨divided, left⟩
  · intro nonzero
    rw [if_neg nonzero] at divided left
    exact ⟨_, _, divided, left, Word.inRange_wrap _, Word.inRange_wrap _,
      wrap_restores dividend divisor, nativePair_wrap nonzero⟩

end

/-- A machine that has the least word and minus one on its stack. -/
def extreme : Machine Streams :=
  { console := Streams.ofInput [], heap := ∅, stack := [-1, Word.least, 3] }

/-- The quotient that no word can hold is the least word again, and nothing is left of the
dividend. -/
theorem divides_natively_extreme :
    (extreme.step (.ofInstructions [⟨.divide, 0⟩])).stack = [Word.least, 3] ∧
      (extreme.step (.ofInstructions [⟨.modulo, 0⟩])).stack = [0, 3] := by
  have running : extreme.status = .running := rfl
  have top : extreme.stack = -1 :: Word.least :: [3] := rfl
  have divides : (Program.ofInstructions [⟨.divide, 0⟩]).fetch? extreme.counter =
      some ⟨.divide, 0⟩ := rfl
  have leaves : (Program.ofInstructions [⟨.modulo, 0⟩]).fetch? extreme.counter =
      some ⟨.modulo, 0⟩ := rfl
  obtain ⟨quotient, remainder, divided, left, _, _, _, native⟩ :=
    (divides_natively running top divides leaves).2 (by decide)
  obtain ⟨rfl, rfl⟩ := (native (by decide) (by decide)).wrapped rfl rfl
  exact ⟨congrArg Machine.stack divided, congrArg Machine.stack left⟩

end BlankCode.Division
