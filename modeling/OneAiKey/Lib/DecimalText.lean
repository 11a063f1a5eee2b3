/-
  OneAiKey.Lib.DecimalText — decimal texts of numbers.

  A number has one decimal text without a leading zero, and each such text is the
  text of the number that it is read as.

  Main results:
    * `canonical_toDigits` — the digits of a number are without a leading zero;
    * `toDigits_ofDigitChars` — what is read from such digits is written as they are.
-/
import Std.Data.String.ToNat
import Mathlib.Data.List.Basic
import Mathlib.Data.List.Induction

namespace DecimalText

/-- Digits, and no zero in front of others. -/
structure Canonical (digits : List Char) : Prop where
  ne_nil : digits ≠ []
  isDigit : ∀ c ∈ digits, c.isDigit = true
  head?_ne : 1 < digits.length → digits.head? ≠ some '0'

/-! ## §1. Single digits. -/

theorem toNat_of_isDigit {c : Char} (h : c.isDigit = true) : 48 ≤ c.toNat ∧ c.toNat ≤ 57 := by
  simp only [Char.isDigit, Bool.and_eq_true, decide_eq_true_eq] at h
  exact ⟨UInt32.le_iff_toNat_le.mp h.1, UInt32.le_iff_toNat_le.mp h.2⟩

theorem digitValue_lt_ten {c : Char} (h : c.isDigit = true) : c.toNat - '0'.toNat < 10 := by
  have hle := (toNat_of_isDigit h).2
  show c.toNat - 48 < 10
  omega

theorem toDigits_digitValue {c : Char} (h : c.isDigit = true) :
    Nat.toDigits 10 (c.toNat - '0'.toNat) = [c] := by
  have hdigits : ∀ n < 58, 48 ≤ n → Nat.digitChar (n - 48) = Char.ofNat n := by decide
  obtain ⟨hle, hle'⟩ := toNat_of_isDigit h
  have hchar : Nat.digitChar (c.toNat - '0'.toNat) = c :=
    (hdigits c.toNat (Nat.lt_succ_of_le hle') hle).trans (Char.ofNat_toNat c)
  rw [Nat.toDigits_of_lt_base (digitValue_lt_ten h), hchar]

/-! ## §2. From a number to its digits. -/

theorem all_isDigit_toDigits (n : Nat) : (Nat.toDigits 10 n).all Char.isDigit = true :=
  List.all_eq_true.mpr fun _ hc => Nat.isDigit_of_mem_toDigits (by decide) (by decide) hc

theorem head?_toDigits_ne {n : Nat} (h : 0 < n) : (Nat.toDigits 10 n).head? ≠ some '0' := by
  induction n using Nat.strongRecOn with
  | _ n ih =>
      by_cases hlt : n < 10
      · rw [Nat.toDigits_of_lt_base hlt]
        intro hzero
        -- read back, the digit would be zero
        have hread := @Nat.ofDigitChars_ten_toDigits n
        rw [Nat.toDigits_of_lt_base hlt, Option.some.inj hzero] at hread
        exact absurd hread (Nat.ne_of_lt h)
      · rw [Nat.toDigits_of_base_le (by decide) (Nat.le_of_not_lt hlt),
          List.head?_append_of_ne_nil _ Nat.toDigits_ne_nil]
        exact ih (n / 10) (by omega) (by omega)

theorem canonical_toDigits (n : Nat) : Canonical (Nat.toDigits 10 n) where
  ne_nil := Nat.toDigits_ne_nil
  isDigit := List.all_eq_true.mp (all_isDigit_toDigits n)
  head?_ne hlong := by
    cases n with
    | zero => exact absurd hlong (by decide)
    | succ n => exact head?_toDigits_ne (Nat.succ_pos n)

/-! ## §3. From digits to their number. -/

/-- The digits in front of the last are without a leading zero as well. -/
theorem Canonical.of_concat {init : List Char} {c : Char} (h : Canonical (init ++ [c]))
    (hinit : init ≠ []) : init.head? ≠ some '0' ∧ Canonical init := by
  have hlong : 1 < (init ++ [c]).length := by
    have hpos := List.length_pos_iff.mpr hinit
    rw [List.length_append, List.length_singleton]
    omega
  have hhead : init.head? ≠ some '0' := by
    have hfirst := h.head?_ne hlong
    rwa [List.head?_append_of_ne_nil _ hinit] at hfirst
  exact ⟨hhead, hinit, fun c hc => h.isDigit c (List.mem_append_left _ hc), fun _ => hhead⟩

theorem toDigits_ofDigitChars {digits : List Char} (h : Canonical digits) :
    Nat.toDigits 10 (Nat.ofDigitChars 10 digits 0) = digits := by
  induction digits using List.reverseRecOn with
  | nil => exact absurd rfl h.ne_nil
  | append_singleton init c ih =>
      have hc : c.isDigit = true :=
        h.isDigit c (List.mem_append_right _ (List.mem_singleton_self c))
      have hvalue : Nat.ofDigitChars 10 (init ++ [c]) 0 =
          10 * Nat.ofDigitChars 10 init 0 + (c.toNat - '0'.toNat) := by
        rw [Nat.ofDigitChars_append, Nat.ofDigitChars_cons, Nat.ofDigitChars_nil]
      rw [hvalue]
      -- a single digit, or a number with a last digit
      by_cases hinit : init = []
      · rw [hinit, Nat.ofDigitChars_nil, Nat.mul_zero, Nat.zero_add, toDigits_digitValue hc]
        rfl
      · obtain ⟨hhead, hcanonical⟩ := h.of_concat hinit
        have hdigits := ih hcanonical
        have hpos : 0 < Nat.ofDigitChars 10 init 0 := by
          refine Nat.pos_of_ne_zero fun hzero => hhead ?_
          rw [← hdigits, hzero]
          rfl
        rw [← Nat.toDigits_append_toDigits (by decide) hpos (digitValue_lt_ten hc), hdigits,
          toDigits_digitValue hc]

end DecimalText
