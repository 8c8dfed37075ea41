import Mathlib.Tactic.IntervalCases

/-! # Decimal text of machine integers

The driver names data disks after their logical unit number, an `int32` printed
with `fmt.Sprintf("%d", ...)`. Two facts about that text carry the naming
results: it determines the number, and a minus sign can only be its first
character.
-/

namespace AzureProvider

/-- Go's `int32`, as a 32-bit two's-complement vector. -/
abbrev Int32 := BitVec 32

/-- `fmt.Sprintf("%d", value)` for an `int32`: the signed decimal text. -/
def formatInt32 (value : Int32) : String := toString value.toInt

namespace Decimal

/-- Read a list of decimal digits back, most significant first, after `acc`. -/
def readDigits (acc : Nat) : List Char → Nat
  | [] => acc
  | digit :: rest => readDigits (10 * acc + (digit.toNat - 48)) rest

theorem readDigits_cons (acc : Nat) (digit : Char) (rest : List Char) :
    readDigits acc (digit :: rest) = readDigits (10 * acc + (digit.toNat - 48)) rest := rfl

private theorem toDigitsCore_succ (fuel number : Nat) (digits : List Char) :
    Nat.toDigitsCore 10 (fuel + 1) number digits =
      if number / 10 = 0 then Nat.digitChar (number % 10) :: digits
      else Nat.toDigitsCore 10 fuel (number / 10) (Nat.digitChar (number % 10) :: digits) :=
  rfl

private theorem digitChar_value {digit : Nat} (small : digit < 10) :
    (Nat.digitChar digit).toNat - 48 = digit := by
  interval_cases digit <;> rfl

private theorem digitChar_ne_minus {digit : Nat} (small : digit < 10) :
    Nat.digitChar digit ≠ '-' := by
  interval_cases digit <;> decide

private theorem readDigits_toDigitsCore (fuel number : Nat) (digits : List Char)
    (enough : number < fuel) :
    readDigits 0 (Nat.toDigitsCore 10 fuel number digits) = readDigits number digits := by
  induction fuel generalizing number digits with
  | zero => omega
  | succ fuel induction =>
      have lastDigit := digitChar_value (Nat.mod_lt number (by decide : 10 > 0))
      rw [toDigitsCore_succ]
      split
      · rw [readDigits_cons, lastDigit]
        congr 1
        omega
      · rw [induction (number / 10) _ (by omega), readDigits_cons, lastDigit]
        congr 1
        omega

private theorem minus_not_mem_toDigitsCore (fuel number : Nat) (digits : List Char)
    (clean : '-' ∉ digits) : '-' ∉ Nat.toDigitsCore 10 fuel number digits := by
  induction fuel generalizing number digits with
  | zero => exact clean
  | succ fuel induction =>
      have fresh : '-' ∉ Nat.digitChar (number % 10) :: digits := by
        simp only [List.mem_cons, not_or]
        exact ⟨(digitChar_ne_minus (Nat.mod_lt number (by decide))).symm, clean⟩
      rw [toDigitsCore_succ]
      split
      · exact fresh
      · exact induction _ _ fresh

/-- The decimal text of a natural number reads back to that number. -/
theorem readDigits_repr (number : Nat) : readDigits 0 (Nat.repr number).data = number :=
  readDigits_toDigitsCore (number + 1) number [] (Nat.lt_succ_self number)

theorem repr_injective : Function.Injective Nat.repr := fun first second same => by
  rw [← readDigits_repr first, ← readDigits_repr second, same]

theorem minus_not_mem_repr (number : Nat) : '-' ∉ (Nat.repr number).data :=
  minus_not_mem_toDigitsCore _ number [] (List.not_mem_nil _)

theorem int_toString_data (value : Int) :
    (toString value).data =
      if 0 ≤ value then (Nat.repr value.natAbs).data
      else '-' :: (Nat.repr value.natAbs).data := by
  cases value with
  | ofNat number => rfl
  | negSucc number => rfl

end Decimal

open Decimal

/-- The text of an `int32` determines it. -/
theorem formatInt32_injective : Function.Injective formatInt32 := by
  intro first second same
  have texts := congrArg String.data same
  simp only [formatInt32, int_toString_data] at texts
  apply BitVec.toInt_inj.mp
  split at texts <;> split at texts
  · have := repr_injective (String.ext texts)
    rw [← Int.natAbs_of_nonneg ‹0 ≤ first.toInt›, ← Int.natAbs_of_nonneg ‹0 ≤ second.toInt›, this]
  · exact absurd (texts ▸ List.mem_cons_self _ _) (minus_not_mem_repr _)
  · exact absurd (texts.symm ▸ List.mem_cons_self _ _) (minus_not_mem_repr _)
  · have := repr_injective (String.ext (List.cons.inj texts).2)
    omega

/-- A minus sign can only open the text of an `int32`. -/
theorem minus_not_mem_formatInt32_tail (value : Int32) :
    '-' ∉ (formatInt32 value).data.tail := by
  simp only [formatInt32, int_toString_data]
  split
  · exact fun member => minus_not_mem_repr _ (List.mem_of_mem_tail member)
  · exact minus_not_mem_repr _

/-- One `int32` prints as a minus sign before another exactly when it is
negative and the other is its opposite. -/
theorem formatInt32_eq_minus_cons_iff {value value' : Int32} :
    (formatInt32 value).data = '-' :: (formatInt32 value').data ↔
      value.toInt < 0 ∧ value'.toInt = -value.toInt := by
  simp only [formatInt32, int_toString_data]
  constructor
  · intro text
    split at text <;> split at text
    · exact absurd (text ▸ List.mem_cons_self _ _) (minus_not_mem_repr _)
    · exact absurd (text ▸ List.mem_cons_self _ _) (minus_not_mem_repr _)
    · have := repr_injective (String.ext (List.cons.inj text).2)
      omega
    · exact absurd ((List.cons.inj text).2 ▸ List.mem_cons_self _ _) (minus_not_mem_repr _)
  · rintro ⟨negative, opposite⟩
    rw [if_neg (by omega), opposite, if_pos (by omega), Int.natAbs_neg]

end AzureProvider
