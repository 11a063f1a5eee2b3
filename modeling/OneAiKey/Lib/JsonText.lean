/-
  OneAiKey.Lib.JsonText — compact JSON texts, and the brackets of a JSON text.

  §1 writes JSON as a compact formatter does.  §2 follows the brackets and the
  strings of a text, character by character.  Every object or array ends in
  `finished`; a text that does not is none.  The results are about what is
  left of an object after a cut, and what comes of writing on behind the cut:

    * `scan_object` — an object ends in `finished`, and
      `open_of_prefix_object`: no shorter beginning of it does;
    * `Open.scan_prefix` — behind a text that is cut inside, the beginning of
      an object never closes it;
    * `scan_finished_brace` — nor is one object behind another a JSON text.
-/
import Mathlib.Data.List.Infix

namespace JsonText

/-! ## §1. The writer. -/

/-- A character of a string: the quote, the backslash and the control characters
are escaped. -/
def escapeChar (c : Char) : List Char :=
  if c = '"' then ['\\', '"']
  else if c = '\\' then ['\\', '\\']
  else if 32 ≤ c.toNat then [c]
  else if c.toNat = 8 then ['\\', 'b']
  else if c.toNat = 9 then ['\\', 't']
  else if c.toNat = 10 then ['\\', 'n']
  else if c.toNat = 12 then ['\\', 'f']
  else if c.toNat = 13 then ['\\', 'r']
  else ['\\', 'u', '0', '0', Nat.digitChar (c.toNat / 16), Nat.digitChar (c.toNat % 16)]

/-- A text between quotation marks, escaped character by character. -/
def quote (text : List Char) : List Char := '"' :: (text.flatMap escapeChar ++ ['"'])

/-- A number in decimal digits. -/
def number (n : Nat) : List Char := Nat.toDigits 10 n

/-- The word that stands for nothing. -/
def null : List Char := ['n', 'u', 'l', 'l']

/-- One member of an object, its value already written. -/
def member (entry : List Char × List Char) : List Char := quote entry.1 ++ ':' :: entry.2

/-- The members between braces, separated by commas. -/
def object (entries : List (List Char × List Char)) : List Char :=
  '{' :: ([','].intercalate (entries.map member) ++ ['}'])

/-! ## §2. Brackets and strings. -/

/-- Where a reader of a text is; the depth counts the brackets that are open
around the innermost one. -/
inductive Position where
  | start
  | value (depth : Nat)
  | string (depth : Nat)
  | escape (depth : Nat)
  | finished
  | rejected
  deriving DecidableEq, Repr

/-- The whitespace that may stand between two tokens. -/
def isSpace (c : Char) : Bool := c = ' ' || c = '\t' || c = '\n' || c = '\r'

/-- The characters outside strings, brackets apart: separators, white space, and
the characters of numbers, `true`, `false` and `null`. -/
def isToken (c : Char) : Bool :=
  isSpace c || c.isDigit ||
    [',', ':', '+', '-', '.', 'E', 'e', 't', 'r', 'u', 'f', 'a', 'l', 's', 'n'].contains c

/-- The place in the text after one more character. -/
def step : Position → Char → Position
  | .start, c =>
      if c = '{' ∨ c = '[' then .value 0 else if isSpace c then .start else .rejected
  | .value depth, c =>
      if c = '"' then .string depth
      else if c = '{' ∨ c = '[' then .value (depth + 1)
      else if c = '}' ∨ c = ']' then
        match depth with
        | 0 => .finished
        | depth + 1 => .value depth
      else if isToken c then .value depth
      else .rejected
  | .string depth, c =>
      if c = '"' then .value depth else if c = '\\' then .escape depth else .string depth
  | .escape depth, _ => .string depth
  | .finished, c => if isSpace c then .finished else .rejected
  | .rejected, _ => .rejected

/-- The place after a whole text. -/
def scan (position : Position) (text : List Char) : Position := text.foldl step position

/-- Begun and not finished: what is read so far is no JSON text. -/
def Position.Open (position : Position) : Prop := position ≠ .start ∧ position ≠ .finished

/-- A text that leaves the brackets around it as they are. -/
def Neutral (text : List Char) : Prop := ∀ depth, scan (.value depth) text = .value depth

@[simp] theorem scan_nil (position : Position) : scan position [] = position := rfl

@[simp] theorem scan_cons (position : Position) (c : Char) (text : List Char) :
    scan position (c :: text) = scan (step position c) text := rfl

@[simp] theorem scan_append (position : Position) (text text' : List Char) :
    scan position (text ++ text') = scan (scan position text) text' := by
  simp only [scan, List.foldl_append]

@[simp] theorem scan_rejected (text : List Char) : scan .rejected text = .rejected := by
  induction text with
  | nil => rfl
  | cons c text ih => exact ih

/-- Behind the end of the outermost value, only whitespace keeps the text a value. -/
theorem scan_finished (text : List Char) :
    scan .finished text = .finished ∨ scan .finished text = .rejected := by
  induction text with
  | nil => exact .inl rfl
  | cons c text ih =>
      rw [scan_cons]
      by_cases hc : isSpace c = true
      · rw [show step .finished c = .finished from if_pos hc]
        exact ih
      · rw [show step .finished c = .rejected from if_neg hc]
        exact .inr (scan_rejected text)

/-- A text begins once: no character leads back to the start. -/
theorem step_ne_start {position : Position} (h : position ≠ .start) (c : Char) :
    step position c ≠ .start := by
  cases position with
  | start => exact absurd rfl h
  | value depth | string depth =>
      simp only [step]
      repeat' split
      all_goals nofun
  | escape depth => nofun
  | finished =>
      simp only [step]
      split <;> nofun
  | rejected => nofun

/-- No text leads back to the start either. -/
theorem scan_ne_start {position : Position} (h : position ≠ .start) (text : List Char) :
    scan position text ≠ .start := by
  induction text generalizing position with
  | nil => exact h
  | cons c text ih => exact ih (step_ne_start h c)

/-- A text that leads back inside was never left on the way. -/
theorem open_of_scan_append {position : Position} (h : position ≠ .start)
    {text text' : List Char} {depth : Nat}
    (hscan : scan position (text ++ text') = .value depth) : (scan position text).Open := by
  refine ⟨scan_ne_start h text, fun hfinished => ?_⟩
  rw [scan_append, hfinished] at hscan
  rcases scan_finished text' with h' | h' <;> rw [h'] at hscan <;> cases hscan

/-! ## §3. What is written is neutral. -/

theorem Neutral.nil : Neutral [] := fun _ => rfl

/-- Neutral texts one after the other are neutral. -/
theorem Neutral.append {text text' : List Char} (h : Neutral text) (h' : Neutral text') :
    Neutral (text ++ text') := by
  intro depth
  rw [scan_append, h, h']

/-- What is closed under writing one text behind another holds of a list of texts with
separators between them. -/
theorem intercalate_induction {P : List Char → Prop} (hnil : P [])
    (happend : ∀ text text', P text → P text' → P (text ++ text')) {separator : List Char}
    (hseparator : P separator) {texts : List (List Char)} (h : ∀ text ∈ texts, P text) :
    P (separator.intercalate texts) := by
  match texts with
  | [] => exact hnil
  | [text] =>
      rw [List.intercalate_singleton]
      exact h text List.mem_cons_self
  | text :: text' :: texts =>
      rw [List.intercalate_cons_cons]
      apply happend _ _ (happend _ _ (h text List.mem_cons_self) hseparator)
      exact intercalate_induction hnil happend hseparator
        fun t ht => h t (List.mem_cons_of_mem _ ht)

/-- A character of a word or a number leaves the depth as it is. -/
theorem step_value_token {c : Char} (h : isToken c = true) (depth : Nat) :
    step (.value depth) c = .value depth := by
  have hquote : c ≠ '"' := by
    rintro rfl
    exact absurd h (by decide)
  have hopen : ¬ (c = '{' ∨ c = '[') := by
    rintro (rfl | rfl) <;> exact absurd h (by decide)
  have hclose : ¬ (c = '}' ∨ c = ']') := by
    rintro (rfl | rfl) <;> exact absurd h (by decide)
  simp only [step, if_neg hquote, if_neg hopen, if_neg hclose, if_pos h]

/-- Words and numbers are neutral. -/
theorem Neutral.tokens {text : List Char} (h : ∀ c ∈ text, isToken c = true) : Neutral text := by
  intro depth
  induction text with
  | nil => rfl
  | cons c text ih =>
      rw [scan_cons, step_value_token (h c List.mem_cons_self)]
      exact ih fun c hc => h c (List.mem_cons_of_mem _ hc)

theorem neutral_null : Neutral null := .tokens (List.all_eq_true.mp (by decide))

/-- A number is neutral, since it is made of digits. -/
theorem neutral_number (n : Nat) : Neutral (number n) := by
  apply Neutral.tokens
  intro c hc
  have hdigit : c.isDigit = true := Nat.isDigit_of_mem_toDigits (by decide) (by decide) hc
  simp only [isToken, hdigit, Bool.or_true, Bool.true_or]

/-- The hexadecimal digits are no quotes, no backslashes and no control characters. -/
theorem digitChar_spec {n : Nat} (h : n < 16) :
    Nat.digitChar n ≠ '"' ∧ Nat.digitChar n ≠ '\\' ∧ 32 ≤ (Nat.digitChar n).toNat := by
  revert h
  revert n
  decide

/-- An escaped character does not end the string that it is in. -/
theorem scan_escapeChar (depth : Nat) (c : Char) :
    scan (.string depth) (escapeChar c) = .string depth := by
  unfold escapeChar
  split
  · rfl
  · split
    · rfl
    · split
      · next hquote hbackslash _ =>
          simp only [scan_cons, scan_nil, step, if_neg hquote, if_neg hbackslash]
      · next hcontrol =>
          -- the control characters: a letter behind the backslash, or four digits
          repeat' split
          all_goals try rfl
          obtain ⟨hq, hb, -⟩ := digitChar_spec (show c.toNat / 16 < 16 by omega)
          obtain ⟨hq', hb', -⟩ := digitChar_spec (show c.toNat % 16 < 16 by omega)
          simp [step, hq, hb, hq', hb']

/-- A quoted text is neutral, whatever the text. -/
theorem neutral_quote (text : List Char) : Neutral (quote text) := by
  intro depth
  have hbody : scan (.string depth) (text.flatMap escapeChar) = .string depth := by
    induction text with
    | nil => rfl
    | cons c text ih => rw [List.flatMap_cons, scan_append, scan_escapeChar, ih]
  show scan (.string depth) (text.flatMap escapeChar ++ ['"']) = .value depth
  rw [scan_append, hbody]
  rfl

/-- A member is neutral if its value is. -/
theorem neutral_member {entry : List Char × List Char} (h : Neutral entry.2) :
    Neutral (member entry) := by
  have hcolon : Neutral [':'] := .tokens (List.all_eq_true.mp (by decide))
  exact (neutral_quote entry.1).append (hcolon.append h)

/-- The members of an object, with their commas. -/
theorem neutral_members {entries : List (List Char × List Char)}
    (h : ∀ entry ∈ entries, Neutral entry.2) :
    Neutral ([','].intercalate (entries.map member)) := by
  apply intercalate_induction .nil (fun _ _ => .append) (.tokens (List.all_eq_true.mp (by decide)))
  intro text htext
  obtain ⟨entry, hentry, rfl⟩ := List.mem_map.mp htext
  exact neutral_member (h entry hentry)

/-- An object is neutral if its values are: the brace that it opens it closes. -/
theorem neutral_object {entries : List (List Char × List Char)}
    (h : ∀ entry ∈ entries, Neutral entry.2) : Neutral (object entries) := by
  intro depth
  show scan (.value (depth + 1)) ([','].intercalate (entries.map member) ++ ['}']) = _
  rw [scan_append, neutral_members h]
  rfl

/-! ## §4. Objects that are cut. -/

/-- An object is a JSON text. -/
theorem scan_object {entries : List (List Char × List Char)}
    (h : ∀ entry ∈ entries, Neutral entry.2) : scan .start (object entries) = .finished := by
  show scan (.value 0) ([','].intercalate (entries.map member) ++ ['}']) = _
  rw [scan_append, neutral_members h]
  rfl

/-- A beginning of an object is not. -/
theorem open_of_prefix_object {entries : List (List Char × List Char)}
    (h : ∀ entry ∈ entries, Neutral entry.2) {text behind : List Char}
    (htext : object entries = text ++ behind) (hnil : text ≠ []) (hbehind : behind ≠ []) :
    (scan .start text).Open := by
  obtain ⟨c, text, rfl⟩ := List.exists_cons_of_ne_nil hnil
  obtain ⟨rfl, hbody⟩ := List.cons.inj htext
  -- the cut lies before the closing bracket, so inside the members
  obtain ⟨behind, b, rfl⟩ : ∃ l b, behind = l ++ [b] :=
    (List.eq_nil_or_concat behind).elim (absurd · hbehind) fun ⟨l, b, hl⟩ =>
      ⟨l, b, hl.trans (List.concat_eq_append ..)⟩
  replace hbody : [','].intercalate (entries.map member) ++ ['}'] = text ++ (behind ++ [b]) :=
    hbody
  rw [← List.append_assoc] at hbody
  obtain ⟨hmembers, -⟩ := List.append_inj' hbody rfl
  have hscan : scan (.value 0) (text ++ behind) = .value 0 := by
    rw [← hmembers]
    exact neutral_members h 0
  have hvalue : Position.value 0 ≠ .start := nofun
  exact open_of_scan_append hvalue hscan

/-- Inside a string the first quote of an object ends the string, and the object's first
key does not fit behind it. -/
theorem open_scan_in_string {position : Position} (hposition : position.Open) {depth : Nat}
    (hstep : step position '{' = .string depth) {c : Char} {rest : List Char}
    (hc : step (.value depth) c = .rejected) {text behind : List Char}
    (htext : '{' :: '"' :: c :: rest = text ++ behind) : (scan position text).Open := by
  match text, htext with
  | [], _ => exact hposition
  | [_], htext =>
      obtain ⟨rfl, -⟩ := List.cons.inj htext
      rw [scan_cons, scan_nil, hstep]
      exact ⟨nofun, nofun⟩
  | [_, _], htext =>
      simp only [List.cons_append, List.cons.injEq] at htext
      obtain ⟨rfl, rfl, -⟩ := htext
      rw [scan_cons, hstep]
      exact ⟨nofun, nofun⟩
  | _ :: _ :: _ :: text, htext =>
      simp only [List.cons_append, List.cons.injEq] at htext
      obtain ⟨rfl, rfl, rfl, -⟩ := htext
      rw [scan_cons, hstep]
      show (scan (step (.value depth) c) text).Open
      rw [hc, scan_rejected]
      exact ⟨nofun, nofun⟩

/-- The beginning of an object, behind a text that is cut inside. -/
theorem Position.Open.scan_prefix {position : Position} (hposition : position.Open)
    {object : List Char} (hneutral : Neutral object) {c : Char} {rest : List Char}
    (hobject : object = '{' :: '"' :: c :: rest) (hc : ∀ depth, step (.value depth) c = .rejected)
    {text behind : List Char} (htext : object = text ++ behind) :
    (scan position text).Open := by
  cases position with
  | start => exact absurd rfl hposition.1
  | finished => exact absurd rfl hposition.2
  | rejected =>
      rw [scan_rejected]
      exact hposition
  | value depth =>
      have hscan : scan (.value depth) (text ++ behind) = .value depth := by
        rw [← htext]
        exact hneutral depth
      exact open_of_scan_append hposition.1 hscan
  | string depth => exact open_scan_in_string hposition rfl (hc depth) (hobject ▸ htext)
  | escape depth => exact open_scan_in_string hposition rfl (hc depth) (hobject ▸ htext)

/-- Behind a finished text an object is out of place from its first character. -/
theorem scan_finished_brace (text : List Char) : scan .finished ('{' :: text) = .rejected :=
  scan_rejected text

/-! ## §5. Control characters. -/

/-- A text without control characters. -/
def Plain (text : List Char) : Prop := ∀ c ∈ text, 32 ≤ c.toNat

/-- The test of all characters, as a proof. -/
theorem Plain.of_all {text : List Char} (h : text.all (32 ≤ ·.toNat) = true) : Plain text :=
  fun c hc => of_decide_eq_true (List.all_eq_true.mp h c hc)

theorem Plain.append {text text' : List Char} (h : Plain text) (h' : Plain text') :
    Plain (text ++ text') := by
  intro c hc
  rcases List.mem_append.mp hc with hc | hc
  · exact h c hc
  · exact h' c hc

theorem Plain.cons {c : Char} {text : List Char} (hc : 32 ≤ c.toNat) (h : Plain text) :
    Plain (c :: text) := List.forall_mem_cons.mpr ⟨hc, h⟩

theorem Plain.of_append_left {text text' : List Char} (h : Plain (text ++ text')) : Plain text :=
  fun c hc => h c (List.mem_append_left _ hc)

/-- An escaped character holds no control character; that is what it is escaped for. -/
theorem plain_escapeChar (c : Char) : Plain (escapeChar c) := by
  unfold escapeChar
  split
  · exact .of_all (by decide)
  · split
    · exact .of_all (by decide)
    · split
      · next hc => exact .cons hc (by nofun)
      · have hhigh := (digitChar_spec (show c.toNat / 16 < 16 by omega)).2.2
        have hlow := (digitChar_spec (show c.toNat % 16 < 16 by omega)).2.2
        repeat' split
        all_goals simp [Plain, hhigh, hlow]

/-- A quoted text holds no control character, so it is on one line. -/
theorem plain_quote (text : List Char) : Plain (quote text) := by
  refine .cons (by decide) (.append ?_ (.cons (by decide) (by nofun)))
  intro c hc
  obtain ⟨c', -, hc'⟩ := List.mem_flatMap.mp hc
  exact plain_escapeChar c' c hc'

theorem plain_number (n : Nat) : Plain (number n) := by
  intro c hc
  have hdigit : c.isDigit = true := Nat.isDigit_of_mem_toDigits (by decide) (by decide) hc
  simp only [Char.isDigit, Bool.and_eq_true, decide_eq_true_eq] at hdigit
  have hle : 48 ≤ c.toNat := hdigit.1
  omega

theorem plain_null : Plain null := .of_all (by decide)

/-- An object holds no control character if its values hold none. -/
theorem plain_object {entries : List (List Char × List Char)}
    (h : ∀ entry ∈ entries, Plain entry.2) : Plain (object entries) := by
  refine .cons (by decide) (.append ?_ (.cons (by decide) (by nofun)))
  apply intercalate_induction (P := Plain) (by nofun) (fun _ _ => .append)
    (.cons (by decide) (by nofun))
  intro text htext
  obtain ⟨entry, hentry, rfl⟩ := List.mem_map.mp htext
  exact (plain_quote entry.1).append (.cons (by decide) (h entry hentry))

end JsonText
