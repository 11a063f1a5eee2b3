/-
  OneAiKey.Lib.PercentCoding — percent-encoding of bytes in a text.

  A byte stands for itself where it may, and is written as a percent sign and
  two hexadecimal digits otherwise.  Reading is tolerant: a percent sign without
  two digits behind it stands for itself.

  Main results:
    * `decode_encode` — what is written is read back, if only ASCII bytes other
      than the percent sign stand for themselves;
    * `not_mem_encode` — a character that is written for no byte does not occur.
-/
import OneAiKey.Lib.Utf8

namespace PercentCoding

def hexDigit (n : Nat) : Char := Char.ofNat (if n < 10 then 48 + n else 55 + n)

def hexValue (c : Char) : Option Nat :=
  if '0' ≤ c ∧ c ≤ '9' then some (c.toNat - 48)
  else if 'A' ≤ c ∧ c ≤ 'F' then some (c.toNat - 55)
  else if 'a' ≤ c ∧ c ≤ 'f' then some (c.toNat - 87)
  else none

def encodeByte (keep : UInt8 → Bool) (b : UInt8) : List Char :=
  if keep b then [Char.ofNat b.toNat]
  else ['%', hexDigit (b.toNat / 16), hexDigit (b.toNat % 16)]

/-- The text for the bytes, of which those in `keep` stand for themselves. -/
def encode (keep : UInt8 → Bool) (bytes : List UInt8) : List Char :=
  bytes.flatMap (encodeByte keep)

/-- The bytes that a text stands for. -/
def decode : List Char → List UInt8
  | [] => []
  | '%' :: high :: low :: text =>
      match hexValue high, hexValue low with
      | some h, some l => UInt8.ofNat (16 * h + l) :: decode text
      | _, _ => 37 :: decode (high :: low :: text)
  | c :: text => String.utf8EncodeChar c ++ decode text

/-! ## §1. Hexadecimal digits. -/

theorem hexValue_hexDigit {n : Nat} (h : n < 16) : hexValue (hexDigit n) = some n := by
  have hall : ∀ m : Fin 16, hexValue (hexDigit m) = some m.val := by decide
  exact hall ⟨n, h⟩

theorem hexDigit_mem {n : Nat} (h : n < 16) : hexDigit n ∈ "0123456789ABCDEF".toList := by
  have hall : ∀ m : Fin 16, hexDigit m ∈ "0123456789ABCDEF".toList := by decide
  exact hall ⟨n, h⟩

/-! ## §2. Reading back. -/

theorem decode_cons_of_ne {c : Char} (h : c ≠ '%') (text : List Char) :
    decode (c :: text) = String.utf8EncodeChar c ++ decode text := by
  match text with
  | [] => simp [decode]
  | [_] => simp [decode]
  | _ :: _ :: _ =>
      rw [decode]
      intro high low rest hc
      exact absurd hc h

theorem decode_digits {high low : Nat} (hhigh : high < 16) (hlow : low < 16)
    (text : List Char) :
    decode ('%' :: hexDigit high :: hexDigit low :: text) =
      UInt8.ofNat (16 * high + low) :: decode text := by
  rw [decode, hexValue_hexDigit hhigh, hexValue_hexDigit hlow]

theorem ofNat_ascii {b : UInt8} (h : b < 128) :
    String.utf8EncodeChar (Char.ofNat b.toNat) = [b] := by
  have hall : ∀ m : Fin 128, String.utf8EncodeChar (Char.ofNat m.val) = [UInt8.ofNat m.val] := by
    decide
  have hlt : b.toNat < 128 := h
  have hb := hall ⟨b.toNat, hlt⟩
  rw [UInt8.ofNat_toNat] at hb
  exact hb

section Keep

variable {keep : UInt8 → Bool}

theorem decode_encodeByte (hkeep : ∀ b, keep b = true → b < 128 ∧ b ≠ 37) (b : UInt8)
    (text : List Char) : decode (encodeByte keep b ++ text) = b :: decode text := by
  unfold encodeByte
  by_cases hb : keep b = true
  · rw [if_pos hb]
    obtain ⟨hascii, hne⟩ := hkeep b hb
    have hpercent : Char.ofNat b.toNat ≠ '%' := by
      intro heq
      have hcode := congrArg String.utf8EncodeChar heq
      rw [ofNat_ascii hascii] at hcode
      exact hne (List.cons.inj hcode).1
    show decode (Char.ofNat b.toNat :: text) = _
    rw [decode_cons_of_ne hpercent, ofNat_ascii hascii]
    rfl
  · rw [if_neg hb]
    have hlt : b.toNat < 256 := b.toNat_lt
    show decode ('%' :: hexDigit (b.toNat / 16) :: hexDigit (b.toNat % 16) :: text) = _
    rw [decode_digits (by omega) (by omega), Nat.div_add_mod, UInt8.ofNat_toNat]

/-- What is written is read back. -/
theorem decode_encode (hkeep : ∀ b, keep b = true → b < 128 ∧ b ≠ 37) (bytes : List UInt8) :
    decode (encode keep bytes) = bytes := by
  induction bytes with
  | nil => rfl
  | cons b bytes ih =>
      show decode (encodeByte keep b ++ encode keep bytes) = _
      rw [decode_encodeByte hkeep, ih]

/-- A character that is no percent sign, no digit and stands for no kept byte is not written. -/
theorem not_mem_encode {c : Char} (hpercent : c ≠ '%')
    (hdigit : c ∉ "0123456789ABCDEF".toList)
    (hkept : ∀ b, keep b = true → c ≠ Char.ofNat b.toNat) (bytes : List UInt8) :
    c ∉ encode keep bytes := by
  intro hmem
  obtain ⟨b, -, hmem⟩ := List.mem_flatMap.mp hmem
  unfold encodeByte at hmem
  by_cases hb : keep b = true
  · rw [if_pos hb] at hmem
    exact hkept b hb (List.mem_singleton.mp hmem)
  · rw [if_neg hb] at hmem
    have hlt : b.toNat < 256 := b.toNat_lt
    simp only [List.mem_cons, List.not_mem_nil, or_false] at hmem
    rcases hmem with h | h | h
    · exact hpercent h
    · exact hdigit (h ▸ hexDigit_mem (by omega))
    · exact hdigit (h ▸ hexDigit_mem (by omega))

end Keep

end PercentCoding
