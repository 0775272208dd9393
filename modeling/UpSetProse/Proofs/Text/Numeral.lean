import Mathlib.Data.List.Basic
import UpSetProse.Text.Characters

/-!
# Decimal numerals of natural numbers

A natural number is read back from its decimal digits, none of which is a leading zero.
-/

namespace UpSetProse.Text

private theorem digit_bounds {c : Char} (h : c.isDigit = true) : '0' ≤ c ∧ c ≤ '9' := by
  simp only [Char.isDigit, Bool.and_eq_true, decide_eq_true_eq] at h
  exact h

private theorem digitValue?_of_isDigit {c : Char} (h : c.isDigit = true) :
    digitValue? c = some (c.toNat - '0'.toNat) :=
  if_pos (digit_bounds h)

/-- Numbers are written with digits only. -/
theorem isDigit_of_mem_toDigits {n : Nat} {c : Char} (h : c ∈ Nat.toDigits 10 n) :
    isDigit c = true := by
  have hdigit := Nat.isDigit_of_mem_toDigits (by decide) (by decide) h
  have hle : c.toNat ≤ 57 := (digit_bounds hdigit).2
  have hlt : c.toNat - '0'.toNat < 10 := by
    change c.toNat - 48 < 10
    omega
  simpa [isDigit, isDigitOf, digitValue?_of_isDigit hdigit] using hlt

/-- A digit is no other character. -/
theorem ne_of_isDigit {c d : Char} (hc : isDigit c = true) (hd : isDigit d = false) : c ≠ d := by
  rintro rfl
  rw [hc] at hd
  cases hd

/-- The digits of a number write this number. -/
theorem natural_toDigits (n : Nat) : natural 10 (Nat.toDigits 10 n) = n := by
  have hvalue : natural 10 (Nat.toDigits 10 n) = Nat.ofDigitChars 10 (Nat.toDigits 10 n) 0 := by
    rw [natural, Nat.ofDigitChars_eq_foldl]
    apply List.foldl_ext
    intro before c hc
    have hdigit := Nat.isDigit_of_mem_toDigits (by decide) (by decide) hc
    rw [digitValue?_of_isDigit hdigit, Option.getD_some, Nat.mul_comm]
  rw [hvalue, Nat.ofDigitChars_ten_toDigits]

/-- Different numbers have different numerals. -/
theorem toString_inj {m n : Nat} : toString m = toString n ↔ m = n := by
  refine ⟨fun h => ?_, congrArg toString⟩
  rw [Nat.toString_eq_ofList_toDigits, Nat.toString_eq_ofList_toDigits, String.ofList_inj] at h
  rw [← natural_toDigits m, h, natural_toDigits]

/-- No zero leads in the digits of a positive number. -/
theorem head?_toDigits_ne {n : Nat} (h : 0 < n) : (Nat.toDigits 10 n).head? ≠ some '0' := by
  induction n using Nat.strongRecOn with
  | ind n ih =>
    by_cases hn : n < 10
    · have hdigit : ∀ n < 10, 0 < n → Nat.digitChar n ≠ '0' := by decide
      rw [Nat.toDigits_of_lt_base hn, List.head?_cons]
      exact fun heq => hdigit n hn h (Option.some.inj heq)
    · have hlt : n / 10 < n := by omega
      have hpos : 0 < n / 10 := by omega
      rw [Nat.toDigits_of_base_le (by decide) (by omega),
        List.head?_append_of_ne_nil _ Nat.toDigits_ne_nil]
      exact ih _ hlt hpos

end UpSetProse.Text
