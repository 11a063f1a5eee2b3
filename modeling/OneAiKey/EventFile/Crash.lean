/-
  OneAiKey.EventFile.Crash — what a crash in an append leaves of the event log.

  A run is any sequence of appends, crashes and reopenings.  At each state the
  log should read back the events whose JSON is on disk, in the order of their
  appends.  Two things go wrong: nothing removes a torn last line, so that the
  next append is joined to it and lost (and the log is unreadable from the
  append after that); and a cut inside a character leaves bytes that are no
  UTF-8, which the reader does not forgive, not even in the last line.

  Main results:
    * `Intact.extend` and `Intact.spoil` — a step that meets `Recoverable`
      leaves whole lines and one cut line; any other step spoils a line;
    * `Spoilt.extend` — no step mends it;
    * `event_log_survives_iff` — the log reads back what is recorded just when
      every step of the run met `Recoverable`.
-/
import OneAiKey.EventFile

namespace OneAiKey

/-! ## §1. Lines. -/

theorem rawLines_cons_line {line rest : List UInt8} (h : 10 ∉ line) :
    rawLines (line ++ 10 :: rest) = (line ++ [10]) :: rawLines rest := by
  induction line with
  | nil => rfl
  | cons b line ih =>
      have hb : b ≠ 10 := fun hb => h (hb ▸ List.mem_cons_self)
      have hline : 10 ∉ line := fun hmem => h (List.mem_cons_of_mem _ hmem)
      rw [List.cons_append, rawLines, if_neg hb, ih hline]
      rfl

theorem rawLines_last {line : List UInt8} (h : 10 ∉ line) (hne : line ≠ []) :
    rawLines line = [line] := by
  induction line with
  | nil => exact absurd rfl hne
  | cons b line ih =>
      have hb : b ≠ 10 := fun hb => h (hb ▸ List.mem_cons_self)
      have hline : 10 ∉ line := fun hmem => h (List.mem_cons_of_mem _ hmem)
      rw [rawLines, if_neg hb]
      by_cases hnil : line = []
      · rw [hnil]
        rfl
      · rw [ih hline hnil]

theorem rawLines_ne_nil {bytes : List UInt8} (h : bytes ≠ []) : rawLines bytes ≠ [] := by
  cases bytes with
  | nil => exact absurd rfl h
  | cons b bytes =>
      unfold rawLines
      split
      · exact List.cons_ne_nil _ _
      · split <;> exact List.cons_ne_nil _ _

/-- A text without control characters has no newline in its bytes. -/
theorem newline_notMem_encode {text : List Char} (h : JsonText.Plain text) :
    10 ∉ Utf8.encode text := by
  intro hmem
  obtain ⟨c, hc, hle, heq⟩ := Utf8.exists_mem_of_mem_encode (by decide) hmem
  have hcontrol : 32 ≤ c.val.toNat := h c hc
  have hten : (10 : UInt8).toNat = c.val.toUInt8.toNat := congrArg UInt8.toNat heq
  rw [UInt32.toNat_toUInt8] at hten
  rw [UInt32.le_iff_toNat_le] at hle
  have hle' : c.val.toNat ≤ 127 := hle
  rw [Nat.mod_eq_of_lt (by omega)] at hten
  have h10 : (10 : UInt8).toNat = 10 := rfl
  omega

theorem newline_notMem_jsonBytes (event : ManagementEvent) : 10 ∉ event.jsonBytes :=
  newline_notMem_encode event.plain_toJson

/-- A file of records is read record by record. -/
theorem rawLines_records (events : List ManagementEvent) (rest : List UInt8) :
    rawLines (events.flatMap ManagementEvent.record ++ rest) =
      events.map ManagementEvent.record ++ rawLines rest := by
  induction events with
  | nil => rfl
  | cons event events ih =>
      rw [List.flatMap_cons, List.append_assoc, ManagementEvent.record, List.append_assoc,
        List.singleton_append, rawLines_cons_line (newline_notMem_jsonBytes event), ih]
      rfl

theorem getLast?_ne_of_plain {text : List Char} (h : JsonText.Plain text) {c : Char}
    (hc : c.toNat < 32) : text.getLast? ≠ some c := by
  intro hlast
  have hplain := h c (List.mem_of_getLast? hlast)
  omega

theorem lineText_encode {text : List Char} (h : JsonText.Plain text) :
    lineText (Utf8.encode text) = some text := by
  unfold lineText chomp
  rw [Utf8.decode_encode, Option.map_some, if_neg (getLast?_ne_of_plain h (by decide))]

theorem lineText_encode_newline {text : List Char} (h : JsonText.Plain text) :
    lineText (Utf8.encode text ++ [10]) = some text := by
  have hbytes : Utf8.encode text ++ [10] = Utf8.encode (text ++ ['\n']) :=
    (Utf8.encode_append text ['\n']).symm
  unfold lineText chomp
  rw [hbytes, Utf8.decode_encode, Option.map_some, List.getLast?_concat, if_pos rfl,
    List.dropLast_concat, if_neg (getLast?_ne_of_plain h (by decide))]

theorem lineText_invalid {line : List UInt8} (h : ¬ Utf8.Valid line) : lineText line = none := by
  unfold lineText
  rw [Utf8.decode_eq_none_iff.mpr h]
  rfl

/-- A cut line stays no UTF-8 when a newline comes behind it. -/
theorem lineText_invalid_newline {line : List UInt8} (h : ¬ Utf8.Valid line) :
    lineText (line ++ [10]) = none := by
  apply lineText_invalid
  intro hvalid
  exact h (Utf8.valid_of_boundary hvalid (by decide)).1

/-! ## §2. Reading the file. -/

/-- A line that begins with a brace is not blank. -/
theorem trim_brace (text : List Char) : (trim ('{' :: text)).isEmpty = false := by
  have hbrace : isWhitespace '{' = false := by decide
  have hmem : '{' ∈ trim ('{' :: text) := by
    unfold trim
    rw [List.dropWhile_cons_of_neg (by simp [hbrace]), List.mem_reverse, List.reverse_cons]
    -- the brace is the last character of the reversed text, behind all white space
    generalize text.reverse = rest
    induction rest with
    | nil => simp [hbrace]
    | cons c rest ih =>
        rw [List.cons_append]
        by_cases hc : isWhitespace c = true
        · rw [List.dropWhile_cons_of_pos hc]
          exact ih
        · rw [List.dropWhile_cons_of_neg hc]
          simp
  exact List.isEmpty_eq_false_iff_exists_mem.mpr ⟨_, hmem⟩

/-- A line that is cut inside its JSON, or that goes on behind a cut. -/
structure Torn (text : List Char) : Prop where
  plain : JsonText.Plain text
  brace : ∃ rest, text = '{' :: rest
  opened : (JsonText.scan .start text).Open

variable {fromStr : List Char → Except String ManagementEvent}

/-- What `serde_json::from_str` takes has the shape of a JSON text. -/
def Shaped (fromStr : List Char → Except String ManagementEvent) : Prop :=
  ∀ text event, fromStr text = .ok event → JsonText.scan .start text = .finished

theorem Torn.fromStr_error {text : List Char} (h : Torn text) (hshaped : Shaped fromStr) :
    ∃ message, fromStr text = .error message := by
  cases hread : fromStr text with
  | ok event => exact absurd (hshaped text event hread) h.opened.2
  | error message => exact ⟨message, rfl⟩

/-- The records are read back, whatever follows. -/
theorem readEvents_records {events : List ManagementEvent}
    (hround : ∀ event ∈ events, fromStr event.toJson = .ok event) (lines : List (List UInt8)) :
    readEvents fromStr (events.map ManagementEvent.record ++ lines) =
      (readEvents fromStr lines).map (events ++ ·) := by
  induction events with
  | nil =>
      show readEvents fromStr lines = _
      cases readEvents fromStr lines <;> rfl
  | cons event events ih =>
      obtain ⟨rest, hjson⟩ := event.toJson_eq
      have hevent := hround event List.mem_cons_self
      have hblank : (trim event.toJson).isEmpty = false := by
        rw [hjson]
        exact trim_brace _
      have htext : lineText event.record = some event.toJson :=
        lineText_encode_newline event.plain_toJson
      rw [List.map_cons, List.cons_append, readEvents]
      simp only [htext, hblank, hevent, Bool.false_eq_true, if_false]
      rw [ih fun event hmem => hround event (List.mem_cons_of_mem _ hmem)]
      cases readEvents fromStr lines <;> rfl

/-! ## §3. Intact files and spoilt ones. -/

/-- Whole records, and behind them at most one record that lacks its end. -/
inductive Intact (bytes : List UInt8) (recorded : List ManagementEvent) : Prop where
  | whole (hbytes : bytes = recorded.flatMap ManagementEvent.record)
  | torn (text : List Char) (htorn : Torn text)
      (hbytes : bytes = recorded.flatMap ManagementEvent.record ++ Utf8.encode text)
  | unterminated (events : List ManagementEvent) (event : ManagementEvent)
      (hbytes : bytes = events.flatMap ManagementEvent.record ++ event.jsonBytes)
      (hrecorded : recorded = events ++ [event])

/-- A line that is no UTF-8, or a torn one that an event was lost to. -/
inductive BadLine (events recorded : List ManagementEvent) (line : List UInt8) : Prop where
  | invalid (h : ¬ Utf8.Valid line)
  | lost (text : List Char) (htorn : Torn text) (hline : line = Utf8.encode text)
      (hlost : events.length < recorded.length)

/-- Behind the whole records a line that is no record. -/
inductive Spoilt (bytes : List UInt8) (recorded : List ManagementEvent) : Prop where
  | line (events : List ManagementEvent) (line rest : List UInt8)
      (hbytes : bytes = events.flatMap ManagementEvent.record ++ (line ++ rest))
      (hevents : events <+: recorded) (hline : 10 ∉ line)
      (hrest : rest = [] ∨ ∃ more, rest = 10 :: more) (hbad : BadLine events recorded line)

theorem Torn.blank {text : List Char} (h : Torn text) : (trim text).isEmpty = false := by
  obtain ⟨rest, rfl⟩ := h.brace
  exact trim_brace rest

theorem Torn.ne_nil {text : List Char} (h : Torn text) : Utf8.encode text ≠ [] := by
  obtain ⟨rest, rfl⟩ := h.brace
  exact mt Utf8.encode_eq_nil_iff.mp (List.cons_ne_nil _ _)

theorem ManagementEvent.jsonBytes_ne_nil (event : ManagementEvent) : event.jsonBytes ≠ [] := by
  obtain ⟨rest, hrest⟩ := event.toJson_eq
  refine mt Utf8.encode_eq_nil_iff.mp ?_
  rw [hrest]
  exact List.cons_ne_nil _ _

/-- An intact file reads back what is recorded. -/
theorem Intact.read {bytes : List UInt8} {recorded : List ManagementEvent}
    (h : Intact bytes recorded) (hshaped : Shaped fromStr)
    (hround : ∀ event ∈ recorded, fromStr event.toJson = .ok event) :
    readEventsFromPath fromStr bytes = .ok recorded := by
  unfold readEventsFromPath
  cases h with
  | whole hbytes =>
      have hlines := rawLines_records recorded []
      rw [List.append_nil] at hlines
      rw [hbytes, hlines, readEvents_records hround]
      show Except.ok (recorded ++ []) = _
      rw [List.append_nil]
  -- the last line is no record, and is passed over because it is the last
  | torn text htorn hbytes =>
      obtain ⟨message, hmessage⟩ := htorn.fromStr_error hshaped
      have hline := rawLines_last (newline_notMem_encode htorn.plain) htorn.ne_nil
      rw [hbytes, rawLines_records, hline, readEvents_records hround, readEvents]
      simp only [lineText_encode htorn.plain, htorn.blank, hmessage]
      show Except.ok (recorded ++ []) = _
      rw [List.append_nil]
  -- only the line feed is missing: the record is read
  | unterminated events event hbytes hrecorded =>
      subst hrecorded
      have hline := rawLines_last (newline_notMem_jsonBytes event) event.jsonBytes_ne_nil
      have hevent : fromStr event.toJson = .ok event := hround event (by simp)
      have hblank : (trim event.toJson).isEmpty = false := by
        obtain ⟨rest, hrest⟩ := event.toJson_eq
        rw [hrest]
        exact trim_brace _
      have htext : lineText event.jsonBytes = some event.toJson :=
        lineText_encode event.plain_toJson
      rw [hbytes, rawLines_records, hline,
        readEvents_records fun event hmem => hround event (List.mem_append_left _ hmem), readEvents]
      simp only [htext, hblank, hevent]
      rfl

/-- What the reader makes of a bad line: nothing that follows is reached, and nothing
is added to the events before it. -/
theorem BadLine.read {events recorded : List ManagementEvent} {line : List UInt8}
    (h : BadLine events recorded line) (hshaped : Shaped fromStr) {raw : List UInt8}
    (hraw : raw = line ∨ raw = line ++ [10]) (lines : List (List UInt8)) :
    (∃ message, readEvents fromStr (raw :: lines) = .error message) ∨
      readEvents fromStr (raw :: lines) = .ok [] ∧ events.length < recorded.length := by
  cases h with
  | invalid hinvalid =>
      have htext : lineText raw = none := by
        rcases hraw with rfl | rfl
        · exact lineText_invalid hinvalid
        · exact lineText_invalid_newline hinvalid
      refine .inl ⟨"stream did not contain valid UTF-8", ?_⟩
      rw [readEvents, htext]
  | lost text htorn hline hlost =>
      subst hline
      obtain ⟨message, hmessage⟩ := htorn.fromStr_error hshaped
      have htext : lineText raw = some text := by
        rcases hraw with rfl | rfl
        · exact lineText_encode htorn.plain
        · exact lineText_encode_newline htorn.plain
      rw [readEvents]
      simp only [htext, htorn.blank, hmessage]
      cases lines with
      | nil => exact .inr ⟨rfl, hlost⟩
      | cons line lines => exact .inl ⟨message, rfl⟩

theorem BadLine.ne_nil {events recorded : List ManagementEvent} {line : List UInt8}
    (h : BadLine events recorded line) : line ≠ [] := by
  cases h with
  | invalid h =>
      intro hnil
      exact h (hnil ▸ Utf8.valid_nil)
  | lost text htorn hline _ => exact hline ▸ htorn.ne_nil

/-- A spoilt file does not. -/
theorem Spoilt.read {bytes : List UInt8} {recorded : List ManagementEvent}
    (h : Spoilt bytes recorded) (hshaped : Shaped fromStr)
    (hround : ∀ event ∈ recorded, fromStr event.toJson = .ok event) :
    readEventsFromPath fromStr bytes ≠ .ok recorded := by
  obtain ⟨events, line, rest, hbytes, hevents, hline, hrest, hbad⟩ := h
  have hround' : ∀ event ∈ events, fromStr event.toJson = .ok event :=
    fun event hmem => hround event (hevents.subset hmem)
  -- the bad line is the last one, or others have come behind it
  obtain ⟨raw, lines, hraw, hlines⟩ : ∃ raw lines,
      (raw = line ∨ raw = line ++ [10]) ∧ rawLines (line ++ rest) = raw :: lines := by
    rcases hrest with rfl | ⟨more, rfl⟩
    · rw [List.append_nil, rawLines_last hline hbad.ne_nil]
      exact ⟨_, _, .inl rfl, rfl⟩
    · rw [rawLines_cons_line hline]
      exact ⟨_, _, .inr rfl, rfl⟩
  intro hread
  unfold readEventsFromPath at hread
  rw [hbytes, rawLines_records, hlines, readEvents_records hround'] at hread
  rcases hbad.read hshaped hraw lines with ⟨message, herror⟩ | ⟨hok, hlost⟩
  · rw [herror] at hread
    cases hread
  · rw [hok] at hread
    have hlength : (events ++ []).length = recorded.length :=
      congrArg List.length (Except.ok.inj hread)
    rw [List.append_nil] at hlength
    omega

/-! ## §4. What a write leaves. -/

theorem ManagementEvent.valid_record (event : ManagementEvent) : Utf8.Valid event.record :=
  (Utf8.valid_encode event.toJson).append (Utf8.valid_encode ['\n'])

/-- How far a write has come: it broke off inside a character, or behind some of the
JSON's characters, or all is written. -/
inductive Part (event : ManagementEvent) (written : Nat) (bytes : List UInt8) : Prop where
  | broken (hinvalid : ¬ Utf8.Valid bytes) (hlt : written < event.jsonBytes.length)
      (hline : 10 ∉ bytes)
  | text (before behind : List Char) (hjson : event.toJson = before ++ behind)
      (hbytes : bytes = Utf8.encode before)
      (hbehind : event.jsonBytes.length ≤ written ↔ behind = [])
  | record (hbytes : bytes = event.record) (hlt : event.jsonBytes.length < written)

theorem part_take (event : ManagementEvent) (written : Nat) :
    Part event written (event.record.take written) := by
  by_cases hlt : event.jsonBytes.length < written
  · refine .record (List.take_of_length_le ?_) hlt
    rw [ManagementEvent.record, List.length_append, List.length_singleton]
    exact hlt
  · have htake : event.record.take written = event.jsonBytes.take written :=
      List.take_append_of_le_length (Nat.le_of_not_lt hlt)
    have hcut : Utf8.encode event.toJson =
        event.jsonBytes.take written ++ event.jsonBytes.drop written :=
      (List.take_append_drop written _).symm
    rw [htake]
    -- what was written ends between two characters, or inside of one
    by_cases hvalid : Utf8.Valid (event.jsonBytes.take written)
    · obtain ⟨before, behind, hjson, hbefore, hbehind⟩ :=
        Utf8.exists_append_of_encode_eq hcut hvalid
      refine .text before behind hjson hbefore ?_
      rw [← Utf8.encode_eq_nil_iff, ← hbehind, List.drop_eq_nil_iff]
    · refine .broken hvalid ?_ fun hmem =>
        newline_notMem_jsonBytes event (List.mem_of_mem_take hmem)
      apply Nat.lt_of_not_le
      intro hle
      rw [List.take_of_length_le hle] at hvalid
      exact hvalid (Utf8.valid_encode event.toJson)

/-- A record is not there with its first byte. -/
theorem ManagementEvent.one_lt_length (event : ManagementEvent) : 1 < event.jsonBytes.length := by
  obtain ⟨rest, hrest⟩ := event.toJson_eq
  have hbytes : event.jsonBytes = 123 :: 34 :: Utf8.encode ('i' :: rest) :=
    congrArg Utf8.encode hrest
  rw [hbytes, List.length_cons, List.length_cons]
  omega

theorem recordedAfter_of_le {event : ManagementEvent} {written : Nat}
    (h : event.jsonBytes.length ≤ written) (recorded : List ManagementEvent) :
    recordedAfter recorded event written = recorded ++ [event] := if_pos h

theorem recordedAfter_of_lt {event : ManagementEvent} {written : Nat}
    (h : written < event.jsonBytes.length) (recorded : List ManagementEvent) :
    recordedAfter recorded event written = recorded := if_neg (Nat.not_le_of_lt h)

theorem prefix_recordedAfter (recorded : List ManagementEvent) (event : ManagementEvent)
    (written : Nat) : recorded <+: recordedAfter recorded event written := by
  unfold recordedAfter
  split
  · exact List.prefix_append _ _
  · exact List.prefix_refl _

theorem step_i (depth : Nat) : JsonText.step (.value depth) 'i' = .rejected := rfl

/-- A record that is cut inside its JSON. -/
theorem torn_of_cut {event : ManagementEvent} {before behind : List Char}
    (hjson : event.toJson = before ++ behind) (hbefore : before ≠ []) (hbehind : behind ≠ []) :
    Torn before := by
  refine ⟨?_, ?_, JsonText.open_of_prefix_object event.neutral_members hjson hbefore hbehind⟩
  · have hplain := event.plain_toJson
    rw [hjson] at hplain
    exact hplain.of_append_left
  · obtain ⟨rest, hrest⟩ := event.toJson_eq
    obtain ⟨c, before, rfl⟩ := List.exists_cons_of_ne_nil hbefore
    rw [hrest] at hjson
    obtain ⟨rfl, -⟩ := List.cons.inj hjson
    exact ⟨before, rfl⟩

/-- A torn line stays torn when a record is written behind it. -/
theorem Torn.append {text : List Char} (h : Torn text) {event : ManagementEvent}
    {before behind : List Char} (hjson : event.toJson = before ++ behind) :
    Torn (text ++ before) := by
  obtain ⟨rest, hrest⟩ := event.toJson_eq
  have hplain := event.plain_toJson
  rw [hjson] at hplain
  refine ⟨h.plain.append hplain.of_append_left, ?_, ?_⟩
  · obtain ⟨tail, rfl⟩ := h.brace
    exact ⟨tail ++ before, rfl⟩
  · rw [JsonText.scan_append]
    exact h.opened.scan_prefix event.neutral_toJson hrest step_i hjson

/-- So is a whole record that lacks its newline. -/
theorem torn_behind_json (whole : ManagementEvent) {event : ManagementEvent}
    {before behind : List Char} (hjson : event.toJson = before ++ behind)
    (hbefore : before ≠ []) : Torn (whole.toJson ++ before) := by
  obtain ⟨rest, hrest⟩ := event.toJson_eq
  have hplain := event.plain_toJson
  rw [hjson] at hplain
  refine ⟨whole.plain_toJson.append hplain.of_append_left, ?_, ?_⟩
  · obtain ⟨tail, htail⟩ := whole.toJson_eq
    rw [htail]
    exact ⟨_, rfl⟩
  · obtain ⟨c, before, rfl⟩ := List.exists_cons_of_ne_nil hbefore
    rw [hrest] at hjson
    obtain ⟨rfl, -⟩ := List.cons.inj hjson
    have hscan : JsonText.scan .start whole.toJson = .finished :=
      JsonText.scan_object whole.neutral_members
    rw [JsonText.scan_append, hscan, JsonText.scan_finished_brace]
    exact ⟨nofun, nofun⟩

/-- What a write puts behind a broken line leaves it broken. -/
theorem invalid_append {line : List UInt8} (h : ¬ Utf8.Valid line) {event : ManagementEvent}
    {before behind : List UInt8} (hjson : event.jsonBytes = before ++ behind) :
    ¬ Utf8.Valid (line ++ before) := by
  intro hvalid
  cases before with
  | nil =>
      rw [List.append_nil] at hvalid
      exact h hvalid
  | cons b before =>
      have hevent : Utf8.Valid event.jsonBytes := Utf8.valid_encode event.toJson
      rw [hjson] at hevent
      exact h (Utf8.valid_of_boundary hvalid (Utf8.boundary_of_valid hevent)).1

/-! ## §5. Which steps a file survives. -/

/-- The file is empty or ends behind a newline. -/
def endsLine (bytes : List UInt8) : Bool := bytes.getLast?.all (· == 10)

def lastLine (bytes : List UInt8) : List UInt8 := (rawLines bytes).getLast?.getD []

/-- The last line is not itself a record. -/
def LastLineUnreadable (fromStr : List Char → Except String ManagementEvent)
    (bytes : List UInt8) : Prop :=
  ∀ text event, lineText (lastLine bytes) = some text → fromStr text ≠ .ok event

/-- A write that breaks off between two characters, behind a newline; or behind a torn
line, when it has not come to the end of its JSON. -/
def WriteRecoverable (fromStr : List Char → Except String ManagementEvent)
    (bytes : List UInt8) (event : ManagementEvent) (written : Nat) : Prop :=
  Utf8.Valid (event.record.take written) ∧
    (endsLine bytes = true ∨ written = 0 ∨
      written < event.jsonBytes.length ∧ LastLineUnreadable fromStr bytes)

/-- An append needs a file that ends behind a newline. -/
def EventFile.Recoverable (fromStr : List Char → Except String ManagementEvent)
    (s : EventFile) : EventFileStep → Prop
  | .reopen => True
  | .append _ _ => endsLine s.bytes = true
  | .crash audit createdAtUnixSeconds written =>
      ∀ log, s.log = some log →
        WriteRecoverable fromStr s.bytes (log.nextEvent audit createdAtUnixSeconds) written

theorem endsLine_records (events : List ManagementEvent) :
    endsLine (events.flatMap ManagementEvent.record) = true := by
  rcases List.eq_nil_or_concat events with rfl | ⟨events, event, rfl⟩
  · rfl
  · rw [List.concat_eq_append, List.flatMap_append, List.flatMap_singleton,
      ManagementEvent.record, ← List.append_assoc, endsLine, List.getLast?_concat]
    rfl

theorem endsLine_append {line : List UInt8} (h : 10 ∉ line) (hne : line ≠ [])
    (bytes : List UInt8) : endsLine (bytes ++ line) = false := by
  rcases List.eq_nil_or_concat line with rfl | ⟨line, b, rfl⟩
  · exact absurd rfl hne
  · have hb : b ≠ 10 := by
      rintro rfl
      exact h (by simp)
    rw [List.concat_eq_append, ← List.append_assoc, endsLine, List.getLast?_concat]
    simp [hb]

theorem lastLine_append {line : List UInt8} (h : 10 ∉ line) (hne : line ≠ [])
    (events : List ManagementEvent) :
    lastLine (events.flatMap ManagementEvent.record ++ line) = line := by
  unfold lastLine
  rw [rawLines_records, rawLines_last h hne, List.getLast?_concat]
  rfl

/-! ## §6. One write. -/

theorem ManagementEvent.length_jsonBytes_pos (event : ManagementEvent) :
    0 < event.jsonBytes.length := List.length_pos_iff.mpr event.jsonBytes_ne_nil

/-- A write that the condition allows leaves the file intact. -/
theorem Intact.extend {bytes : List UInt8} {recorded : List ManagementEvent}
    (h : Intact bytes recorded) {event : ManagementEvent} {written : Nat}
    (hround : ∀ event ∈ recorded, fromStr event.toJson = .ok event)
    (hwrite : WriteRecoverable fromStr bytes event written) :
    Intact (bytes ++ event.record.take written) (recordedAfter recorded event written) := by
  obtain ⟨hvalid, hcut⟩ := hwrite
  have hpart := part_take event written
  by_cases hzero : written = 0
  · rw [hzero, recordedAfter_of_lt event.length_jsonBytes_pos, List.take_zero, List.append_nil]
    exact h
  · cases h with
    | whole hbytes =>
        cases hpart with
        | broken hinvalid _ _ => exact absurd hvalid hinvalid
        | text before behind hjson hbefore hbehind =>
            rw [hbytes, hbefore]
            by_cases hnil : behind = []
            · -- the JSON is there and its newline is not
              rw [recordedAfter_of_le (hbehind.mpr hnil)]
              rw [hnil, List.append_nil] at hjson
              exact .unterminated recorded event (by rw [← hjson]; rfl) rfl
            · rw [recordedAfter_of_lt (Nat.lt_of_not_le (mt hbehind.mp hnil))]
              by_cases hbefore' : before = []
              · rw [hbefore', Utf8.encode_nil, List.append_nil]
                exact .whole rfl
              · exact .torn before (torn_of_cut hjson hbefore' hnil) rfl
        | record hrecord hlt =>
            rw [hbytes, hrecord, recordedAfter_of_le (Nat.le_of_lt hlt)]
            exact .whole (by rw [List.flatMap_append, List.flatMap_singleton])
    | torn text htorn hbytes =>
        have hends : endsLine bytes = false :=
          hbytes ▸ endsLine_append (newline_notMem_encode htorn.plain) htorn.ne_nil _
        obtain ⟨hlt, -⟩ := hcut.resolve_left (by rw [hends]; nofun) |>.resolve_left hzero
        rw [recordedAfter_of_lt hlt]
        cases hpart with
        | broken hinvalid _ _ => exact absurd hvalid hinvalid
        | text before behind hjson hbefore _ =>
            refine .torn (text ++ before) (htorn.append hjson) ?_
            rw [hbytes, hbefore, Utf8.encode_append, List.append_assoc]
        | record _ hlt' => omega
    | unterminated events whole hbytes hrecorded =>
        -- the last line is the record of an event, so it is readable
        have hline := newline_notMem_jsonBytes whole
        have hends : endsLine bytes = false :=
          hbytes ▸ endsLine_append hline whole.jsonBytes_ne_nil _
        obtain ⟨-, hread⟩ := hcut.resolve_left (by rw [hends]; nofun) |>.resolve_left hzero
        have hlast : lineText (lastLine bytes) = some whole.toJson := by
          rw [hbytes, lastLine_append hline whole.jsonBytes_ne_nil]
          exact lineText_encode whole.plain_toJson
        exact absurd (hround whole (by rw [hrecorded]; simp)) (hread whole.toJson whole hlast)

/-- A write behind a line that lacks its newline, when it is no recoverable one. -/
theorem spoilt_of_joined {events recorded : List ManagementEvent} {event : ManagementEvent}
    {written : Nat} {line : List Char} (hplain : JsonText.Plain line)
    (htorn : ∀ before behind, event.toJson = before ++ behind → before ≠ [] →
      Torn (line ++ before)) (hevents : events <+: recorded) (hzero : written ≠ 0)
    (hlost : Utf8.Valid (event.record.take written) →
      events.length < (recordedAfter recorded event written).length) :
    Spoilt (events.flatMap ManagementEvent.record ++ Utf8.encode line ++
      event.record.take written) (recordedAfter recorded event written) := by
  have hevents' := hevents.trans (prefix_recordedAfter recorded event written)
  have hline := newline_notMem_encode hplain
  rw [List.append_assoc]
  cases hpart : part_take event written with
  -- the part ends inside a character
  | broken hinvalid _ hnewline =>
      refine .line events (Utf8.encode line ++ event.record.take written) [] (by simp) hevents' ?_
        (.inl rfl) (.invalid fun hvalid => hinvalid (Utf8.valid_right hvalid ⟨line, rfl⟩))
      exact fun hmem => (List.mem_append.mp hmem).elim hline hnewline
  | text before behind hjson hbefore _ =>
      have hne : before ≠ [] := by
        rintro rfl
        have hnil : event.record.take written = [] := hbefore
        rcases List.take_eq_nil_iff.mp hnil with hwritten | hrecord
        · exact hzero hwritten
        · exact List.cons_ne_nil _ _ (List.append_eq_nil_iff.mp hrecord).2
      have hcut := htorn before behind hjson hne
      refine .line events (Utf8.encode (line ++ before)) [] ?_ hevents'
        (newline_notMem_encode hcut.plain) (.inl rfl)
        (.lost (line ++ before) hcut rfl (hlost ⟨before, hbefore⟩))
      rw [hbefore, Utf8.encode_append, List.append_nil]
  -- the whole record, on the line of the torn one
  | record hrecord _ =>
      have hcut := htorn event.toJson [] (List.append_nil _).symm (by
        obtain ⟨rest, hrest⟩ := event.toJson_eq
        rw [hrest]
        exact List.cons_ne_nil _ _)
      have hvalid : Utf8.Valid (event.record.take written) := by
        rw [hrecord]
        exact event.valid_record
      refine .line events (Utf8.encode (line ++ event.toJson)) [10] ?_ hevents'
        (newline_notMem_encode hcut.plain) (.inr ⟨[], rfl⟩)
        (.lost (line ++ event.toJson) hcut rfl (hlost hvalid))
      rw [hrecord, ManagementEvent.record, Utf8.encode_append, List.append_assoc]
      rfl

/-- Any other write spoils a line. -/
theorem Intact.spoil {bytes : List UInt8} {recorded : List ManagementEvent}
    (h : Intact bytes recorded) (hshaped : Shaped fromStr) {event : ManagementEvent}
    {written : Nat} (hwrite : ¬ WriteRecoverable fromStr bytes event written) :
    Spoilt (bytes ++ event.record.take written) (recordedAfter recorded event written) := by
  have hzero : written ≠ 0 := by
    rintro rfl
    exact hwrite ⟨Utf8.valid_nil, .inr (.inl rfl)⟩
  cases h with
  | whole hbytes =>
      have hends : endsLine bytes = true := hbytes ▸ endsLine_records recorded
      have hinvalid : ¬ Utf8.Valid (event.record.take written) :=
        fun hvalid => hwrite ⟨hvalid, .inl hends⟩
      cases part_take event written with
      | broken _ _ hnewline =>
          rw [hbytes]
          refine .line recorded (event.record.take written) [] (by rw [List.append_nil])
            (prefix_recordedAfter _ _ _) hnewline (.inl rfl) (.invalid hinvalid)
      | text before _ _ hbefore _ => exact absurd ⟨before, hbefore⟩ hinvalid
      | record hrecord _ =>
          rw [hrecord] at hinvalid
          exact absurd event.valid_record hinvalid
  | torn text htorn hbytes =>
      rw [hbytes]
      refine spoilt_of_joined htorn.plain (fun before behind hjson _ => htorn.append hjson)
        (List.prefix_refl _) hzero fun hvalid => ?_
      -- the torn line is unreadable, so the write must have come to the end of its JSON
      have hunreadable : LastLineUnreadable fromStr bytes := by
        intro text' event' htext' hevent'
        rw [hbytes, lastLine_append (newline_notMem_encode htorn.plain) htorn.ne_nil,
          lineText_encode htorn.plain] at htext'
        obtain ⟨message, herror⟩ := htorn.fromStr_error hshaped
        rw [← Option.some.inj htext', herror] at hevent'
        cases hevent'
      have hle : event.jsonBytes.length ≤ written := by
        apply Nat.le_of_not_lt
        intro hlt
        exact hwrite ⟨hvalid, .inr (.inr ⟨hlt, hunreadable⟩)⟩
      rw [recordedAfter_of_le hle, List.length_append]
      exact Nat.lt_succ_self _
  | unterminated events whole hbytes hrecorded =>
      rw [hbytes]
      refine spoilt_of_joined whole.plain_toJson
        (fun before behind hjson hbefore => torn_behind_json whole hjson hbefore)
        (hrecorded ▸ List.prefix_append _ _) hzero fun _ => ?_
      have hle := (prefix_recordedAfter recorded event written).length_le
      rw [hrecorded, List.length_append, List.length_singleton] at hle
      exact hrecorded ▸ hle

theorem BadLine.mono {events recorded recorded' : List ManagementEvent} {line : List UInt8}
    (h : BadLine events recorded line) (hle : recorded <+: recorded') :
    BadLine events recorded' line := by
  cases h with
  | invalid h => exact .invalid h
  | lost text htorn hline hlost =>
      exact .lost text htorn hline (Nat.lt_of_lt_of_le hlost hle.length_le)

/-- What is written behind a bad line belongs to it. -/
theorem BadLine.append {events recorded : List ManagementEvent} {line : List UInt8}
    (h : BadLine events recorded line) {event : ManagementEvent} {before behind : List UInt8}
    (hjson : event.jsonBytes = before ++ behind) : BadLine events recorded (line ++ before) := by
  cases h with
  | invalid h => exact .invalid (invalid_append h hjson)
  | lost text htorn hline hlost =>
      subst hline
      by_cases hvalid : Utf8.Valid before
      · obtain ⟨before', behind', hjson', rfl, -⟩ :=
          Utf8.exists_append_of_encode_eq hjson hvalid
        refine .lost (text ++ before') (htorn.append hjson') ?_ hlost
        rw [Utf8.encode_append]
      · exact .invalid fun h => hvalid (Utf8.valid_right h ⟨text, rfl⟩)

/-- No write mends a spoilt file. -/
theorem Spoilt.extend {bytes : List UInt8} {recorded : List ManagementEvent}
    (h : Spoilt bytes recorded) (event : ManagementEvent) (written : Nat) :
    Spoilt (bytes ++ event.record.take written) (recordedAfter recorded event written) := by
  obtain ⟨events, line, rest, hbytes, hevents, hline, hrest, hbad⟩ := h
  have hgrow := prefix_recordedAfter recorded event written
  have hevents' := hevents.trans hgrow
  -- the bad line is the last one and grows, or lines have come behind it already
  rcases hrest with rfl | ⟨more, rfl⟩
  · rw [List.append_nil] at hbytes
    have hjson : 10 ∉ event.jsonBytes := newline_notMem_jsonBytes event
    -- the newline of the record ends the bad line only if it is written
    by_cases hle : written ≤ event.jsonBytes.length
    · have htake : event.record.take written = event.jsonBytes.take written :=
        List.take_append_of_le_length hle
      have hsplit := (List.take_append_drop written event.jsonBytes).symm
      refine .line events (line ++ event.jsonBytes.take written) [] ?_ hevents' ?_ (.inl rfl)
        ((hbad.append hsplit).mono hgrow)
      · rw [hbytes, htake, List.append_nil, List.append_assoc]
      · exact fun hmem => (List.mem_append.mp hmem).elim hline
          fun hmem => hjson (List.mem_of_mem_take hmem)
    · have htake : event.record.take written = event.record := by
        apply List.take_of_length_le
        rw [ManagementEvent.record, List.length_append, List.length_singleton]
        omega
      refine .line events (line ++ event.jsonBytes) [10] ?_ hevents' ?_ (.inr ⟨[], rfl⟩)
        ((hbad.append (List.append_nil _).symm).mono hgrow)
      · rw [hbytes, htake, ManagementEvent.record, List.append_assoc, List.append_assoc]
      · exact fun hmem => (List.mem_append.mp hmem).elim hline hjson
  · refine .line events line (10 :: more ++ event.record.take written) ?_ hevents' hline
      (.inr ⟨_, rfl⟩) (hbad.mono hgrow)
    rw [hbytes, List.append_assoc, List.append_assoc]

/-! ## §7. Runs. -/

/-- A step writes nothing, or so many bytes of one record; an append writes them all. -/
theorem EventFile.next_cases {s s' : EventFile} {step : EventFileStep}
    (h : s.next fromStr step = some s') :
    (s'.bytes = s.bytes ∧ s'.recorded = s.recorded ∧ s.Recoverable fromStr step) ∨
    ∃ event written, s'.bytes = s.bytes ++ event.record.take written ∧
      s'.recorded = recordedAfter s.recorded event written ∧
      (s.Recoverable fromStr step ↔ WriteRecoverable fromStr s.bytes event written) := by
  cases step with
  | reopen =>
      obtain rfl := Option.some.inj h
      exact .inl ⟨rfl, rfl, trivial⟩
  -- an append writes every byte of its record
  | append audit createdAtUnixSeconds =>
      obtain ⟨log, -, rfl⟩ := Option.map_eq_some_iff.mp h
      generalize hevent : log.nextEvent audit createdAtUnixSeconds = event
      have hlength : event.record.length = event.jsonBytes.length + 1 := by
        rw [ManagementEvent.record, List.length_append, List.length_singleton]
      refine .inr ⟨event, event.record.length, ?_, ?_, ?_⟩
      · rw [List.take_length]
      · rw [recordedAfter_of_le (by omega)]
      · show endsLine s.bytes = true ↔ _
        unfold WriteRecoverable
        rw [List.take_length]
        constructor
        · intro hends
          exact ⟨event.valid_record, .inl hends⟩
        · rintro ⟨-, hends | hzero | ⟨hlt, -⟩⟩
          · exact hends
          · omega
          · omega
  | crash audit createdAtUnixSeconds written =>
      obtain ⟨log, hlog, rfl⟩ := Option.map_eq_some_iff.mp h
      refine .inr ⟨log.nextEvent audit createdAtUnixSeconds, written, rfl, rfl, ?_⟩
      constructor
      · intro hrecoverable
        exact hrecoverable log hlog
      · intro hwrite log' hlog'
        obtain rfl := Option.some.inj (hlog.symm.trans hlog')
        exact hwrite

/-- The events recorded so far can be read. -/
def Readable (fromStr : List Char → Except String ManagementEvent)
    (recorded : List ManagementEvent) : Prop :=
  ∀ event ∈ recorded, fromStr event.toJson = .ok event

theorem Readable.of_next {s s' : EventFile} {step : EventFileStep}
    (h : s.next fromStr step = some s') (hread : Readable fromStr s'.recorded) :
    Readable fromStr s.recorded := by
  rcases EventFile.next_cases h with ⟨-, hrecorded, -⟩ | ⟨event, written, -, hrecorded, -⟩
  · exact hrecorded ▸ hread
  · intro event' hmem
    rw [hrecorded] at hread
    exact hread event' ((prefix_recordedAfter _ _ _).subset hmem)

/-- A recoverable step keeps the file intact. -/
theorem EventFile.intact_next {s s' : EventFile} {step : EventFileStep}
    (hstep : s.next fromStr step = some s') (hrecoverable : s.Recoverable fromStr step)
    (hintact : Intact s.bytes s.recorded) (hread : Readable fromStr s.recorded) :
    Intact s'.bytes s'.recorded := by
  rcases EventFile.next_cases hstep with ⟨hbytes, hrecorded, -⟩ |
    ⟨event, written, hbytes, hrecorded, hiff⟩
  · rw [hbytes, hrecorded]
    exact hintact
  · rw [hbytes, hrecorded]
    exact hintact.extend hread (hiff.mp hrecoverable)

theorem EventFile.spoilt_next {s s' : EventFile} {step : EventFileStep}
    (hstep : s.next fromStr step = some s') (hspoilt : Spoilt s.bytes s.recorded) :
    Spoilt s'.bytes s'.recorded := by
  rcases EventFile.next_cases hstep with ⟨hbytes, hrecorded, -⟩ |
    ⟨event, written, hbytes, hrecorded, -⟩
  · rw [hbytes, hrecorded]
    exact hspoilt
  · rw [hbytes, hrecorded]
    exact hspoilt.extend event written

/-- While the events are readable: an intact file, and a log that holds them. -/
def EventFile.Sound (fromStr : List Char → Except String ManagementEvent) (s : EventFile) :
    Prop :=
  Readable fromStr s.recorded →
    Intact s.bytes s.recorded ∧ ∀ log, s.log = some log → log.recorded = s.recorded

theorem EventFile.sound_init {s : EventFile} (h : (eventFileSystem fromStr).Init s) :
    s.Sound fromStr := by
  obtain rfl : s = _ := h
  exact fun _ => ⟨.whole rfl, nofun⟩

theorem openFile_recorded {bytes : List UInt8} {log : EventLog}
    (h : EventLog.openFile fromStr bytes = .ok log) :
    readEventsFromPath fromStr bytes = .ok log.recorded := by
  unfold EventLog.openFile at h
  cases hread : readEventsFromPath fromStr bytes with
  | error message =>
      rw [hread] at h
      cases h
  | ok events =>
      rw [hread] at h
      obtain rfl := Except.ok.inj h
      rfl

theorem EventFile.sound_next (hshaped : Shaped fromStr) {s s' : EventFile} {step : EventFileStep}
    (hsound : s.Sound fromStr) (hstep : s.next fromStr step = some s')
    (hrecoverable : s.Recoverable fromStr step) : s'.Sound fromStr := by
  intro hread'
  have hread := Readable.of_next hstep hread'
  obtain ⟨hintact, hlog⟩ := hsound hread
  -- the file is intact; what is left is the log in memory, by what the step does to it
  refine ⟨intact_next hstep hrecoverable hintact hread, ?_⟩
  intro log hlog'
  cases step with
  | reopen =>
      obtain rfl := Option.some.inj hstep
      have hopen : EventLog.openFile fromStr s.bytes = .ok log := by
        cases hresult : EventLog.openFile fromStr s.bytes with
        | error message =>
            simp only [hresult] at hlog'
            cases hlog'
        | ok log' =>
            simp only [hresult] at hlog'
            exact congrArg Except.ok (Option.some.inj hlog')
      have hread := (hintact.read hshaped hread).symm.trans (openFile_recorded hopen)
      exact (Except.ok.inj hread).symm
  | append audit createdAtUnixSeconds =>
      obtain ⟨log', hlog'', rfl⟩ := Option.map_eq_some_iff.mp hstep
      obtain rfl := Option.some.inj hlog'
      show log'.recorded ++ _ = _
      rw [hlog log' hlog'']
      rfl
  | crash audit createdAtUnixSeconds written =>
      obtain ⟨log', -, rfl⟩ := Option.map_eq_some_iff.mp hstep
      cases hlog'

/-- A step that is not recoverable spoils the file. -/
theorem EventFile.spoil_next (hshaped : Shaped fromStr) {s s' : EventFile} {step : EventFileStep}
    (hintact : Intact s.bytes s.recorded) (hstep : s.next fromStr step = some s')
    (hrecoverable : ¬ s.Recoverable fromStr step) : Spoilt s'.bytes s'.recorded := by
  rcases EventFile.next_cases hstep with ⟨-, -, h⟩ | ⟨event, written, hbytes, hrecorded, hiff⟩
  · exact absurd h hrecoverable
  · rw [hbytes, hrecorded]
    exact hintact.spoil hshaped (mt hiff.mpr hrecoverable)

theorem EventFile.run_sound_or_spoilt (hshaped : Shaped fromStr) {s₀ s : EventFile}
    {steps : List EventFileStep} (hinit : (eventFileSystem fromStr).Init s₀)
    (hrun : (eventFileSystem fromStr).Run s₀ steps s) (hround : Readable fromStr s.recorded) :
    (((eventFileSystem fromStr).restrict (Recoverable fromStr)).Run s₀ steps s ∧
      s.Sound fromStr) ∨ Spoilt s.bytes s.recorded := by
  -- both facts are about the states whose events can be read, as the last one's can
  rcases hrun.restrict_or_doomed (C := Recoverable fromStr) (I := Sound fromStr)
    (D := fun s => Readable fromStr s.recorded → Spoilt s.bytes s.recorded)
    (fun s step s' hsound hstep hrecoverable => sound_next hshaped hsound hstep hrecoverable)
    (fun s step s' hsound hstep hrecoverable hread =>
      spoil_next hshaped (hsound (Readable.of_next hstep hread)).1 hstep hrecoverable)
    (fun s step s' hspoilt hstep hread =>
      spoilt_next hstep (hspoilt (Readable.of_next hstep hread)))
    (sound_init hinit) with hkept | hspoilt
  · exact .inl hkept
  · exact .inr (hspoilt hround)

/-- Opening the log succeeds, and it holds these events. -/
def ReadsBack (fromStr : List Char → Except String ManagementEvent) (s : EventFile) : Prop :=
  ∃ log, EventLog.openFile fromStr s.bytes = .ok log ∧ log.recorded = s.recorded

theorem readsBack_iff {s : EventFile} :
    ReadsBack fromStr s ↔ readEventsFromPath fromStr s.bytes = .ok s.recorded := by
  constructor
  · intro h
    obtain ⟨log, hlog, hrecorded⟩ := h
    rw [openFile_recorded hlog, hrecorded]
  · intro h
    unfold ReadsBack EventLog.openFile
    rw [h]
    exact ⟨_, rfl, rfl⟩

/-- The log reads back what is recorded just when each step of the run was recoverable.
Appends that return, crashes after any number of bytes of an append and reopenings may follow
each other in any order; of the parser it is only asked that it reads back what the program
writes, and takes nothing for an event that does not have the shape of a JSON text. -/
theorem event_log_survives_iff (fromStr : List Char → Except String ManagementEvent)
    (hshaped : Shaped fromStr) (s₀ s : EventFile) (steps : List EventFileStep)
    (hinit : (eventFileSystem fromStr).Init s₀)
    (hrun : (eventFileSystem fromStr).Run s₀ steps s)
    (hround : Readable fromStr s.recorded) :
    ReadsBack fromStr s ↔
      ((eventFileSystem fromStr).restrict (EventFile.Recoverable fromStr)).Run s₀ steps s := by
  rw [readsBack_iff]
  constructor
  · intro hread
    rcases EventFile.run_sound_or_spoilt hshaped hinit hrun hround with ⟨hkept, -⟩ | hspoilt
    · exact hkept
    · exact absurd hread (hspoilt.read hshaped hround)
  · intro hkept
    have hkeep : ∀ s step s', s.Sound fromStr →
        ((eventFileSystem fromStr).restrict (EventFile.Recoverable fromStr)).Step s step s' →
        s'.Sound fromStr :=
      fun s step s' hsound hstep => EventFile.sound_next hshaped hsound hstep.1 hstep.2
    have hsound := hkept.invariant hkeep (EventFile.sound_init hinit)
    exact (hsound hround).1.read hshaped hround

/-! ## §8. A torn record, and the append behind it. -/

/-- An operator disables a credential. -/
def disableAudit : ManagementAuditEvent := eventAudit "credential_disabled" "channel" "key" none

def firstEvent : ManagementEvent := disableAudit.toEvent 1 0

/-- A reader that knows the one record. -/
def readFirst (text : List Char) : Except String ManagementEvent :=
  if text = firstEvent.toJson then .ok firstEvent else .error "trailing characters"

theorem shaped_readFirst : Shaped readFirst := by
  intro text event h
  unfold readFirst at h
  split at h
  · next htext =>
      rw [htext]
      exact JsonText.scan_object firstEvent.neutral_members
  · cases h

theorem readable_readFirst : Readable readFirst [firstEvent] := by
  intro event hmem
  rw [List.mem_singleton.mp hmem]
  exact if_pos rfl

/-- A crash behind the first byte of a record. -/
theorem next_crash_brace (log : EventLog) (bytes : List UInt8) (recorded : List ManagementEvent) :
    EventFile.next fromStr ⟨bytes, some log, recorded⟩ (.crash disableAudit 0 1) =
      some ⟨bytes ++ Utf8.encode ['{'], none, recorded⟩ := by
  show some (EventFile.mk (bytes ++ Utf8.encode ['{']) none
    (recordedAfter recorded (log.nextEvent disableAudit 0) 1)) = _
  rw [recordedAfter_of_lt (log.nextEvent disableAudit 0).one_lt_length]

/-- One event is recorded, and a crash tears the record of the second one. -/
theorem event_log_survives_torn :
    ReadsBack readFirst ⟨firstEvent.record ++ Utf8.encode ['{'], none, [firstEvent]⟩ := by
  have hopened : EventFile.next readFirst ⟨[], none, []⟩ .reopen = some ⟨[], some ⟨0, []⟩, []⟩ :=
    rfl
  have happended : EventFile.next readFirst ⟨[], some ⟨0, []⟩, []⟩ (.append disableAudit 0) =
      some ⟨firstEvent.record, some ⟨1, [firstEvent]⟩, [firstEvent]⟩ := rfl
  have hcrashed : EventFile.next readFirst ⟨firstEvent.record, some ⟨1, [firstEvent]⟩,
      [firstEvent]⟩ (.crash disableAudit 0 1) =
      some ⟨firstEvent.record ++ Utf8.encode ['{'], none, [firstEvent]⟩ :=
    next_crash_brace ⟨1, [firstEvent]⟩ firstEvent.record [firstEvent]
  -- the first record has been written with its newline
  have hends : endsLine firstEvent.record = true := by
    have h := endsLine_records [firstEvent]
    rw [List.flatMap_singleton] at h
    exact h
  have hrun : ((eventFileSystem readFirst).restrict (EventFile.Recoverable readFirst)).Run
      ⟨[], none, []⟩ [.reopen, .append disableAudit 0, .crash disableAudit 0 1]
      ⟨firstEvent.record ++ Utf8.encode ['{'], none, [firstEvent]⟩ := by
    refine .cons ⟨hopened, trivial⟩ (.cons ⟨happended, rfl⟩ (.cons ⟨hcrashed, ?_⟩ (.nil _)))
    intro log hlog
    obtain rfl := Option.some.inj hlog
    exact ⟨⟨['{'], by decide⟩, .inl hends⟩
  exact (event_log_survives_iff readFirst shaped_readFirst ⟨[], none, []⟩ _ _ rfl
    hrun.of_restrict readable_readFirst).mpr hrun

/-- The file in which a record was written behind a torn one. -/
def joinedBytes : List UInt8 := Utf8.encode ['{'] ++ firstEvent.record

/-- The append behind the torn record is lost, and the log is unreadable from the next append
on.  A crash has left the opening brace of a record without a newline; the next event is
written behind it on the same line.  As long as this is the last line, a reader drops it as
torn, and the event with it; once another line follows, the joined line is an error. -/
theorem torn_record_swallows_append :
    (eventFileSystem readFirst).Run ⟨[], none, []⟩
      [.reopen, .crash disableAudit 0 1, .reopen, .append disableAudit 0]
      ⟨joinedBytes, some ⟨1, [firstEvent]⟩, [firstEvent]⟩ ∧
    Readable readFirst [firstEvent] ∧
    readEventsFromPath readFirst joinedBytes = .ok [] ∧
    ∀ event : ManagementEvent,
      readEventsFromPath readFirst (joinedBytes ++ event.record) = .error "trailing characters" := by
  have hopened : EventFile.next readFirst ⟨[], none, []⟩ .reopen = some ⟨[], some ⟨0, []⟩, []⟩ :=
    rfl
  have hcrashed : EventFile.next readFirst ⟨[], some ⟨0, []⟩, []⟩ (.crash disableAudit 0 1) =
      some ⟨Utf8.encode ['{'], none, []⟩ := next_crash_brace ⟨0, []⟩ [] []
  have hbrace : JsonText.Plain ['{'] := .of_all (by decide)
  have hreopened : EventFile.next readFirst ⟨Utf8.encode ['{'], none, []⟩ .reopen =
      some ⟨Utf8.encode ['{'], some ⟨0, []⟩, []⟩ := by
    -- the torn record is the last line: it is passed over at the start
    have hread : EventLog.openFile readFirst (Utf8.encode ['{']) = .ok ⟨0, []⟩ := by
      unfold EventLog.openFile readEventsFromPath
      rw [rawLines_last (newline_notMem_encode hbrace) (by decide), readEvents,
        lineText_encode hbrace]
      rfl
    unfold EventFile.next
    rw [hread]
    rfl
  have happended : EventFile.next readFirst ⟨Utf8.encode ['{'], some ⟨0, []⟩, []⟩
      (.append disableAudit 0) = some ⟨joinedBytes, some ⟨1, [firstEvent]⟩, [firstEvent]⟩ := rfl
  have hplain : JsonText.Plain ('{' :: firstEvent.toJson) :=
    .cons (by decide) firstEvent.plain_toJson
  have hline : joinedBytes = Utf8.encode ('{' :: firstEvent.toJson) ++ [10] := rfl
  have hraw (rest : List UInt8) : rawLines (joinedBytes ++ rest) =
      (Utf8.encode ('{' :: firstEvent.toJson) ++ [10]) :: rawLines rest := by
    rw [hline, List.append_assoc, List.singleton_append]
    exact rawLines_cons_line (newline_notMem_encode hplain)
  -- and with the next record behind it on its line, it is an error unless it is last
  have hread (lines : List (List UInt8)) :
      readEvents readFirst ((Utf8.encode ('{' :: firstEvent.toJson) ++ [10]) :: lines) =
        if lines.isEmpty then .ok [] else .error "trailing characters" := by
    rw [readEvents, lineText_encode_newline hplain]
    simp only [trim_brace]
    rfl
  refine ⟨.cons hopened (.cons hcrashed (.cons hreopened (.cons happended (.nil _)))),
    readable_readFirst, ?_, fun event => ?_⟩
  · have hlines := hraw []
    rw [List.append_nil] at hlines
    unfold readEventsFromPath
    rw [hlines, hread]
    rfl
  · unfold readEventsFromPath
    rw [hraw, hread, if_neg]
    have hne : event.record ≠ [] := fun h => List.cons_ne_nil _ _ (List.append_eq_nil_iff.mp h).2
    rw [List.isEmpty_iff]
    exact rawLines_ne_nil hne

end OneAiKey
