/-
  OneAiKey.Lib.Utf8 — texts as lists of characters and their UTF-8 bytes.

  `encode` writes a text, `decode` reads one back; `decode_eq_some_iff` says
  that they are inverse to each other.  The rest is about cutting the bytes of
  a text in two:

    * `valid_of_boundary` — a cut before a first byte of a character leaves
      two texts, and (`boundary_of_valid`) no other cut leaves a text behind it;
    * `valid_of_ascii_end` — a cut behind an ASCII byte is such a cut;
    * `infix_encode_iff` — the bytes of a text occur in the bytes of another
      only where the text occurs in the other.
-/
import Mathlib.Data.List.Infix

namespace Utf8

/-- The UTF-8 bytes of a text. -/
def encode (text : List Char) : List UInt8 := text.flatMap String.utf8EncodeChar

/-- The text with these UTF-8 bytes, if there is one. -/
def decode (bytes : List UInt8) : Option (List Char) :=
  (ByteArray.mk bytes.toArray).utf8Decode?.map Array.toList

/-- The bytes are the bytes of a text. -/
def Valid (bytes : List UInt8) : Prop := ∃ text, bytes = encode text

/-! ## §1. Encoding and decoding. -/

@[simp] theorem encode_nil : encode [] = [] := rfl

theorem encode_cons (c : Char) (text : List Char) :
    encode (c :: text) = String.utf8EncodeChar c ++ encode text := List.flatMap_cons

theorem encode_append (text text' : List Char) :
    encode (text ++ text') = encode text ++ encode text' := List.flatMap_append

theorem encode_intercalate (separator : List Char) (texts : List (List Char)) :
    encode (separator.intercalate texts) = (encode separator).intercalate (texts.map encode) := by
  match texts with
  | [] => rfl
  | [text] => rw [List.intercalate_singleton, List.map_singleton, List.intercalate_singleton]
  | text :: text' :: texts =>
      rw [List.intercalate_cons_cons, encode_append, encode_append, List.map_cons, List.map_cons,
        List.intercalate_cons_cons, encode_intercalate separator (text' :: texts), List.map_cons]

theorem valid_nil : Valid [] := ⟨[], rfl⟩

theorem valid_encode (text : List Char) : Valid (encode text) := ⟨text, rfl⟩

theorem Valid.append {bytes bytes' : List UInt8} (h : Valid bytes) (h' : Valid bytes') :
    Valid (bytes ++ bytes') := by
  obtain ⟨text, rfl⟩ := h
  obtain ⟨text', rfl⟩ := h'
  exact ⟨text ++ text', (encode_append text text').symm⟩

/-- The bytes as the core library writes them. -/
theorem toByteArray_encode (text : List Char) :
    ByteArray.mk (encode text).toArray = text.utf8Encode := by
  apply ByteArray.ext
  show (encode text).toArray = (text.flatMap String.utf8EncodeChar).toByteArray.data
  rw [List.data_toByteArray]
  rfl

theorem valid_iff_isValidUTF8 {bytes : List UInt8} :
    Valid bytes ↔ (ByteArray.mk bytes.toArray).IsValidUTF8 := by
  constructor
  · rintro ⟨text, rfl⟩
    exact ⟨text, toByteArray_encode text⟩
  · rintro ⟨text, htext⟩
    refine ⟨text, ?_⟩
    rw [← toByteArray_encode] at htext
    exact Array.toList_inj.mpr (congrArg ByteArray.data htext)

@[simp] theorem decode_encode (text : List Char) : decode (encode text) = some text := by
  unfold decode
  rw [toByteArray_encode, List.utf8Decode?_utf8Encode]
  rfl

theorem decode_eq_some_iff {bytes : List UInt8} {text : List Char} :
    decode bytes = some text ↔ bytes = encode text := by
  constructor
  · intro h
    have hsome : (ByteArray.mk bytes.toArray).utf8Decode?.isSome = true := by
      unfold decode at h
      rw [← Option.isSome_map, h]
      rfl
    obtain ⟨text', rfl⟩ := valid_iff_isValidUTF8.mpr (ByteArray.isSome_utf8Decode?_iff.mp hsome)
    rw [decode_encode] at h
    rw [Option.some.inj h]
  · rintro rfl
    exact decode_encode text

theorem encode_injective {text text' : List Char} (h : encode text = encode text') :
    text = text' := by
  have hdecode := decode_encode text
  rw [h, decode_encode] at hdecode
  exact (Option.some.inj hdecode).symm

theorem valid_iff_decode_isSome {bytes : List UInt8} :
    Valid bytes ↔ (decode bytes).isSome = true := by
  rw [Option.isSome_iff_exists]
  exact exists_congr fun _ => decode_eq_some_iff.symm

theorem decode_eq_none_iff {bytes : List UInt8} : decode bytes = none ↔ ¬ Valid bytes := by
  rw [valid_iff_decode_isSome, Option.not_isSome_iff_eq_none]

/-! ## §2. Characters. -/

theorem utf8EncodeChar_ne_nil (c : Char) : String.utf8EncodeChar c ≠ [] := by
  rw [← List.length_pos_iff, String.length_utf8EncodeChar]
  exact c.utf8Size_pos

theorem encode_eq_nil_iff {text : List Char} : encode text = [] ↔ text = [] := by
  cases text with
  | nil => exact ⟨fun _ => rfl, fun _ => rfl⟩
  | cons c text =>
      rw [encode_cons]
      have hne := utf8EncodeChar_ne_nil c
      simp [hne]

/-- The bytes of an ASCII character. -/
theorem utf8EncodeChar_ascii {c : Char} (h : c.val ≤ 127) :
    String.utf8EncodeChar c = [c.val.toUInt8] :=
  String.utf8EncodeChar_eq_singleton (Char.utf8Size_eq_one_iff.mpr h)

theorem encode_replicate {c : Char} (h : c.val ≤ 127) (n : Nat) :
    encode (List.replicate n c) = List.replicate n c.val.toUInt8 := by
  induction n with
  | zero => rfl
  | succ n ih =>
      rw [List.replicate_succ, encode_cons, utf8EncodeChar_ascii h, ih]
      rfl

/-- A byte inside a character, behind its first one, is no first byte. -/
theorem not_isUTF8FirstByte_of_inside {c : Char} {before behind : List UInt8} {b : UInt8}
    (h : String.utf8EncodeChar c = before ++ b :: behind) (hbefore : before ≠ []) :
    ¬ b.IsUTF8FirstByte := by
  have hlength : before.length < (String.utf8EncodeChar c).length := by
    rw [h, List.length_append, List.length_cons]
    omega
  have hget : (String.utf8EncodeChar c)[before.length] = b := by
    simp only [h, List.getElem_append_right (Nat.le_refl _), Nat.sub_self, List.getElem_cons_zero]
  rw [← hget, UInt8.isUTF8FirstByte_getElem_utf8EncodeChar]
  exact fun hzero => hbefore (List.length_eq_zero_iff.mp hzero)

/-- The first byte of a character. -/
theorem isUTF8FirstByte_of_head {c : Char} {b : UInt8} {behind : List UInt8}
    (h : String.utf8EncodeChar c = b :: behind) : b.IsUTF8FirstByte := by
  have hlength : 0 < (String.utf8EncodeChar c).length := by
    rw [h]
    exact Nat.succ_pos _
  have hget : (String.utf8EncodeChar c)[0] = b := by
    simp only [h, List.getElem_cons_zero]
  rw [← hget, UInt8.isUTF8FirstByte_getElem_utf8EncodeChar]

/-- The bytes of a character of several bytes are not ASCII. -/
theorem le_of_mem_utf8EncodeChar {c : Char} (h : c.utf8Size ≠ 1) :
    ∀ b ∈ String.utf8EncodeChar c, 128 ≤ b := by
  have hlead (x y : UInt8) (hy : 128 ≤ y) : 128 ≤ x ||| y := by
    rw [UInt8.le_iff_toNat_le, UInt8.toNat_or]
    exact Nat.le_trans hy Nat.right_le_or
  obtain h1 | h2 | h3 | h4 := c.utf8Size_eq
  · exact absurd h1 h
  · rw [String.utf8EncodeChar_eq_cons_cons h2]
    intro b hb
    simp only [List.mem_cons, List.not_mem_nil, or_false] at hb
    obtain rfl | rfl := hb <;> exact hlead _ _ (by decide)
  · rw [String.utf8EncodeChar_eq_cons_cons_cons h3]
    intro b hb
    simp only [List.mem_cons, List.not_mem_nil, or_false] at hb
    obtain rfl | rfl | rfl := hb <;> exact hlead _ _ (by decide)
  · rw [String.utf8EncodeChar_eq_cons_cons_cons_cons h4]
    intro b hb
    simp only [List.mem_cons, List.not_mem_nil, or_false] at hb
    obtain rfl | rfl | rfl | rfl := hb <;> exact hlead _ _ (by decide)

/-- An ASCII byte in a text is the byte of a character. -/
theorem exists_mem_of_mem_encode {text : List Char} {b : UInt8} (hb : b < 128)
    (h : b ∈ encode text) : ∃ c ∈ text, c.val ≤ 127 ∧ b = c.val.toUInt8 := by
  obtain ⟨c, hc, hmem⟩ := List.mem_flatMap.mp h
  refine ⟨c, hc, ?_⟩
  by_cases hsize : c.utf8Size = 1
  · rw [String.utf8EncodeChar_eq_singleton hsize, List.mem_singleton] at hmem
    exact ⟨Char.utf8Size_eq_one_iff.mp hsize, hmem⟩
  · have hle := le_of_mem_utf8EncodeChar hsize b hmem
    rw [UInt8.le_iff_toNat_le] at hle
    rw [UInt8.lt_iff_toNat_lt] at hb
    omega

/-! ## §3. Cutting the bytes of a text. -/

/-- A text starts with a first byte. -/
theorem boundary_of_valid {b : UInt8} {bytes : List UInt8} (h : Valid (b :: bytes)) :
    b.IsUTF8FirstByte := by
  obtain ⟨text, htext⟩ := h
  cases text with
  | nil => cases htext
  | cons c text =>
      rw [encode_cons] at htext
      cases hc : String.utf8EncodeChar c with
      | nil => exact absurd hc (utf8EncodeChar_ne_nil c)
      | cons b' behind =>
          rw [hc, List.cons_append] at htext
          obtain ⟨rfl, -⟩ := List.cons.inj htext
          exact isUTF8FirstByte_of_head hc

/-- The two ways in which a cut meets the first character of a text. -/
theorem encode_cons_eq_append {c : Char} {text : List Char} {left right : List UInt8}
    (h : encode (c :: text) = left ++ right) :
    (∃ left', left = String.utf8EncodeChar c ++ left' ∧ encode text = left' ++ right) ∨
    ∃ inside, String.utf8EncodeChar c = left ++ inside ∧ inside ≠ [] ∧
      right = inside ++ encode text := by
  rw [encode_cons] at h
  rcases List.append_eq_append_iff.mp h with ⟨left', hleft, htext⟩ | ⟨inside, hc, hright⟩
  · exact .inl ⟨left', hleft, htext⟩
  · cases inside with
    | nil =>
        refine .inl ⟨[], ?_, ?_⟩
        · rw [hc, List.append_nil, List.append_nil]
        · exact hright.symm
    | cons b inside => exact .inr ⟨b :: inside, hc, List.cons_ne_nil b inside, hright⟩

/-- A cut before a first byte leaves two texts. -/
theorem valid_of_boundary {left right : List UInt8} {b : UInt8}
    (h : Valid (left ++ b :: right)) (hb : b.IsUTF8FirstByte) :
    Valid left ∧ Valid (b :: right) := by
  obtain ⟨text, htext⟩ := h
  induction text generalizing left with
  | nil => simp at htext
  | cons c text ih =>
      obtain ⟨left', rfl, hrest⟩ | ⟨inside, hc, hinside, hright⟩ :=
        encode_cons_eq_append htext.symm
      · obtain ⟨hleft, hb'⟩ := ih hrest.symm
        have hchar : Valid (String.utf8EncodeChar c) := ⟨[c], (List.append_nil _).symm⟩
        exact ⟨hchar.append hleft, hb'⟩
      · -- the cut is inside `c`: before its first byte, since `b` is one
        by_cases hleft : left = []
        · subst hleft
          exact ⟨valid_nil, c :: text, htext⟩
        · obtain ⟨b', behind, rfl⟩ := List.exists_cons_of_ne_nil hinside
          obtain ⟨rfl, -⟩ := List.cons.inj hright
          exact absurd hb (not_isUTF8FirstByte_of_inside hc hleft)

/-- What follows a text inside a text is a text. -/
theorem valid_right {left right : List UInt8} (h : Valid (left ++ right)) (hleft : Valid left) :
    Valid right := by
  obtain ⟨text, rfl⟩ := hleft
  induction text with
  | nil => exact h
  | cons c text ih =>
      rw [encode_cons, List.append_assoc, valid_iff_isValidUTF8] at h
      apply ih
      rw [valid_iff_isValidUTF8, ← ByteArray.isValidUTF8_utf8Encode_singleton_append_iff (c := c)]
      convert h using 1
      apply ByteArray.ext
      rw [List.utf8Encode_singleton, ByteArray.data_append, List.data_toByteArray]
      simp

/-- A cut that leaves a text cuts the text. -/
theorem exists_append_of_encode_eq {text : List Char} {left right : List UInt8}
    (h : encode text = left ++ right) (hleft : Valid left) :
    ∃ before behind, text = before ++ behind ∧ left = encode before ∧ right = encode behind := by
  obtain ⟨before, rfl⟩ := hleft
  obtain ⟨behind, rfl⟩ := valid_right (h ▸ valid_encode text) (valid_encode before)
  refine ⟨before, behind, ?_, rfl, rfl⟩
  apply encode_injective
  rw [h, encode_append]

/-- A cut behind an ASCII byte leaves two texts. -/
theorem valid_of_ascii_end {left right : List UInt8} {b : UInt8} (hb : b < 128)
    (h : Valid (left ++ [b] ++ right)) : Valid (left ++ [b]) ∧ Valid right := by
  suffices hleft : Valid (left ++ [b]) from ⟨hleft, valid_right h hleft⟩
  obtain ⟨text, htext⟩ := h
  induction text generalizing left with
  | nil => simp at htext
  | cons c text ih =>
      obtain ⟨left', hleft, hrest⟩ | ⟨inside, hc, hinside, -⟩ :=
        encode_cons_eq_append htext.symm
      · have hchar : Valid (String.utf8EncodeChar c) := ⟨[c], (List.append_nil _).symm⟩
        rw [hleft]
        refine hchar.append ?_
        -- the ASCII byte ends `c`, or it ends what follows `c`
        rcases List.eq_nil_or_concat left' with rfl | ⟨left', b', rfl⟩
        · exact valid_nil
        · rw [List.concat_eq_append, ← List.append_assoc] at hleft
          obtain ⟨-, hlast⟩ := List.append_inj' hleft rfl
          obtain rfl := (List.singleton_inj.mp hlast).symm
          rw [List.concat_eq_append] at hrest ⊢
          exact ih hrest.symm
      · -- no byte of a character of several bytes is ASCII
        have hsize : c.utf8Size ≠ 1 := by
          have hlength := congrArg List.length hc
          have hpos := List.length_pos_iff.mpr hinside
          rw [String.length_utf8EncodeChar, List.length_append, List.length_append,
            List.length_singleton] at hlength
          omega
        have hmem : b ∈ String.utf8EncodeChar c := by
          rw [hc]
          simp
        have hle := le_of_mem_utf8EncodeChar hsize b hmem
        rw [UInt8.le_iff_toNat_le] at hle
        rw [UInt8.lt_iff_toNat_lt] at hb
        omega

/-! ## §4. Occurrences of a text. -/

/-- The bytes of a text occur in the bytes of another where the text does. -/
theorem encode_eq_append_iff {pattern text : List Char} (hpattern : pattern ≠ [])
    {left right : List UInt8} (h : encode text = left ++ encode pattern ++ right) :
    ∃ before behind, text = before ++ pattern ++ behind ∧
      left = encode before ∧ right = encode behind := by
  obtain ⟨b, rest, hb⟩ :=
    List.exists_cons_of_ne_nil (mt encode_eq_nil_iff.mp hpattern)
  have hfirst : b.IsUTF8FirstByte := boundary_of_valid (hb ▸ valid_encode pattern)
  have hvalid : Valid (left ++ b :: (rest ++ right)) := by
    refine ⟨text, ?_⟩
    rw [h, hb]
    simp
  obtain ⟨⟨before, rfl⟩, hrest⟩ := valid_of_boundary hvalid hfirst
  rw [← List.cons_append, ← hb] at hrest
  obtain ⟨behind, rfl⟩ := valid_right hrest (valid_encode pattern)
  refine ⟨before, behind, ?_, rfl, rfl⟩
  apply encode_injective
  rw [h, encode_append, encode_append]

/-- Bytes that start one text and end another are a text. -/
theorem exists_encode_of_prefix_suffix {text text' : List Char} {part : List UInt8}
    (hpart : part ≠ []) (hstart : part <+: encode text) (hsuffix : part <:+ encode text') :
    ∃ shared, shared ≠ [] ∧ part = encode shared ∧ shared <+: text ∧ shared <:+ text' := by
  obtain ⟨right, hright⟩ := hstart
  obtain ⟨left, hleft⟩ := hsuffix
  obtain ⟨b, rest, rfl⟩ := List.exists_cons_of_ne_nil hpart
  have hwhole : Valid (b :: (rest ++ right)) := by
    rw [← List.cons_append, hright]
    exact valid_encode text
  have hfirst : b.IsUTF8FirstByte := boundary_of_valid hwhole
  have hvalid : Valid (left ++ b :: rest) := hleft ▸ valid_encode text'
  obtain ⟨⟨before, rfl⟩, ⟨shared, hshared⟩⟩ := valid_of_boundary hvalid hfirst
  obtain ⟨behind, rfl⟩ : Valid right := valid_right hwhole ⟨shared, hshared⟩
  refine ⟨shared, ?_, hshared, ⟨behind, ?_⟩, before, ?_⟩
  · rintro rfl
    exact absurd hshared (List.cons_ne_nil b rest)
  · apply encode_injective
    rw [encode_append, ← hshared, hright]
  · apply encode_injective
    rw [encode_append, ← hshared, hleft]

theorem infix_encode_iff {pattern text : List Char} :
    encode pattern <:+: encode text ↔ pattern <:+: text := by
  constructor
  · rintro ⟨left, right, h⟩
    by_cases hpattern : pattern = []
    · exact hpattern ▸ List.nil_infix
    · obtain ⟨before, behind, htext, -, -⟩ := encode_eq_append_iff hpattern h.symm
      exact ⟨before, behind, htext.symm⟩
  · rintro ⟨before, behind, rfl⟩
    refine ⟨encode before, encode behind, ?_⟩
    rw [encode_append, encode_append]

end Utf8
