/-
  OneAiKey.Lib.Interpolation — dollar references in a replacement text.

  `$name` takes the longest name of letters, digits and underscores, `${name}` whatever
  stands between the braces, and `$$` is a dollar sign.  A dollar sign with none of these
  behind it stands for itself.  What a name stands for is a parameter; a name that stands
  for nothing is expanded to nothing.

    * `expand_plain` — a text without references is expanded to itself;
    * `length_expand_lt` — a text with one gets shorter, if names stand for a character at
      most.
-/
import Mathlib.Data.List.TakeWhile

namespace Interpolation

/-! ## §1. References. -/

inductive Reference where
  | dollar
  | name (letters : List Char)
  deriving DecidableEq, Repr

def isCapLetter (ch : Char) : Bool := ch.isAlphanum || ch == '_'

/-- The reference behind a dollar sign, and how many characters it takes. -/
def referenceAt : List Char → Option (Reference × Nat)
  | [] => none
  | ch :: rest =>
      if ch = '$' then some (.dollar, 1)
      else if ch = '{' then
        let name := rest.takeWhile (· != '}')
        if name.length < rest.length then some (.name name, name.length + 2) else none
      else
        let name := (ch :: rest).takeWhile isCapLetter
        if name.isEmpty then none else some (.name name, name.length)

/-- What a reference is expanded to. -/
def Reference.expand (value : List Char → List Char) : Reference → List Char
  | .dollar => ['$']
  | .name letters => value letters

/-- The expansion of a text whose first `taken` characters belong to a reference. -/
def expandFrom (value : List Char → List Char) : (taken : Nat) → List Char → List Char
  | _, [] => []
  | taken + 1, _ :: rest => expandFrom value taken rest
  | 0, ch :: rest =>
      if ch = '$' then
        match referenceAt rest with
        | some (reference, taken) => reference.expand value ++ expandFrom value taken rest
        | none => ch :: expandFrom value 0 rest
      else ch :: expandFrom value 0 rest

def expand (value : List Char → List Char) (text : List Char) : List Char :=
  expandFrom value 0 text

/-- No dollar sign begins a reference. -/
def plain : List Char → Bool
  | [] => true
  | ch :: rest => (ch != '$' || (referenceAt rest).isNone) && plain rest

/-! ## §2. Expansions. -/

theorem expand_plain (value : List Char → List Char) {text : List Char}
    (h : plain text = true) : expand value text = text := by
  unfold expand
  induction text with
  | nil => rfl
  | cons ch rest ih =>
      unfold plain at h
      rw [Bool.and_eq_true, Bool.or_eq_true, bne_iff_ne, Option.isNone_iff_eq_none] at h
      show (if ch = '$' then _ else ch :: expandFrom value 0 rest) = ch :: rest
      rw [ih h.2]
      by_cases hdollar : ch = '$'
      · rw [if_pos hdollar, h.1.resolve_left (not_not_intro hdollar)]
      · rw [if_neg hdollar]

/-- A reference takes at least one of the characters behind the dollar sign. -/
theorem taken_of_referenceAt {rest : List Char} {reference : Reference} {taken : Nat}
    (h : referenceAt rest = some (reference, taken)) : 0 < taken ∧ taken ≤ rest.length := by
  cases rest with
  | nil => cases h
  | cons ch rest =>
      unfold referenceAt at h
      dsimp only at h
      -- the three forms of a reference: an escaped dollar, braces, a bare name
      by_cases hdollar : ch = '$'
      · rw [if_pos hdollar] at h
        cases h
        exact ⟨Nat.one_pos, by rw [List.length_cons]; omega⟩
      · rw [if_neg hdollar] at h
        by_cases hbrace : ch = '{'
        · rw [if_pos hbrace] at h
          by_cases hclosed : (rest.takeWhile (· != '}')).length < rest.length
          · rw [if_pos hclosed] at h
            cases h
            exact ⟨by omega, by rw [List.length_cons]; omega⟩
          · rw [if_neg hclosed] at h
            cases h
        · rw [if_neg hbrace] at h
          by_cases hempty : ((ch :: rest).takeWhile isCapLetter).isEmpty = true
          · rw [if_pos hempty] at h
            cases h
          · rw [if_neg hempty] at h
            cases h
            refine ⟨?_, (List.takeWhile_prefix _).length_le⟩
            rw [List.isEmpty_iff] at hempty
            exact List.length_pos_iff.mpr hempty

section Short

variable {value : List Char → List Char}

theorem length_expand_reference (hvalue : ∀ name, (value name).length ≤ 1)
    (reference : Reference) : (reference.expand value).length ≤ 1 := by
  cases reference with
  | dollar => exact Nat.le_refl 1
  | name letters => exact hvalue letters

theorem length_expandFrom_le (hvalue : ∀ name, (value name).length ≤ 1) (taken : Nat)
    (text : List Char) : (expandFrom value taken text).length ≤ text.length - taken := by
  induction text generalizing taken with
  | nil => cases taken <;> exact Nat.zero_le _
  | cons ch rest ih =>
      rw [List.length_cons]
      cases taken with
      | succ taken =>
          have hrest := ih taken
          show (expandFrom value taken rest).length ≤ _
          omega
      | zero =>
          -- a character that is no reference is copied
          have hcopied : (ch :: expandFrom value 0 rest).length ≤ rest.length + 1 := by
            have hrest := ih 0
            rw [List.length_cons]
            omega
          unfold expandFrom
          by_cases hdollar : ch = '$'
          · rw [if_pos hdollar]
            cases hreference : referenceAt rest with
            | none => exact hcopied
            | some found =>
                -- a reference is longer than what it stands for, which has one character at most
                obtain ⟨reference, taken⟩ := found
                have htaken := taken_of_referenceAt hreference
                have hshort := length_expand_reference hvalue reference
                have hrest := ih taken
                show (reference.expand value ++ expandFrom value taken rest).length ≤ _
                rw [List.length_append]
                omega
          · rw [if_neg hdollar]
            exact hcopied

/-- With a reference in it, a text gets shorter. -/
theorem length_expand_lt (hvalue : ∀ name, (value name).length ≤ 1) {text : List Char}
    (h : plain text = false) : (expand value text).length < text.length := by
  unfold expand
  induction text with
  | nil => cases h
  | cons ch rest ih =>
      unfold plain at h
      rw [Bool.and_eq_false_iff] at h
      rw [List.length_cons]
      unfold expandFrom
      by_cases hdollar : ch = '$'
      · rw [if_pos hdollar]
        cases hreference : referenceAt rest with
        | none =>
            -- this dollar sign stands for itself, so a later one begins a reference
            rw [hreference] at h
            have hrest := ih (h.resolve_left (by simp))
            show (ch :: expandFrom value 0 rest).length < _
            rw [List.length_cons]
            omega
        | some found =>
            obtain ⟨reference, taken⟩ := found
            have htaken := taken_of_referenceAt hreference
            have hshort := length_expand_reference hvalue reference
            have hrest := length_expandFrom_le hvalue taken rest
            show (reference.expand value ++ expandFrom value taken rest).length < _
            rw [List.length_append]
            omega
      · rw [if_neg hdollar]
        have hrest := ih (h.resolve_left (by simp [hdollar]))
        rw [List.length_cons]
        omega

end Short

end Interpolation
