/-
  OneAiKey.FilterStream.Chunking — how the chunks of a body bear on what the
  filtered stream writes (`filter_response_stream` of
  `src/upstream_response.rs`).

  An event boundary is found as soon as its last byte is pending, and the bytes
  behind it do not change where it is.  So as long as no segment of the body
  exceeds the limit of the pending bytes, the units are the segments, whatever
  the chunks.

  Main results:
    * `sseEventEnd_eq_some_iff` — the search finds the boundary that ends first;
    * `writtenBytes_filterFrom` — what a stream writes, from any state;
    * `filtered_independent_of_chunking` — the chunks do not matter, and a filter
      that changes nothing writes the body.
-/
import OneAiKey.FilterStream

namespace OneAiKey

/-! ## §1. Event boundaries. -/

/-- The pattern ends behind so many bytes. -/
def OccursEnding (pattern bytes : Bytes) (stop : Nat) : Prop :=
  stop ≤ bytes.length ∧ pattern <:+ bytes.take stop

/-- An empty line ends behind so many bytes. -/
def EventBoundary (bytes : Bytes) (stop : Nat) : Prop :=
  OccursEnding [lf, lf] bytes stop ∨ OccursEnding [cr, lf, cr, lf] bytes stop

/-- Bytes behind the end of an occurrence do not matter. -/
theorem occursEnding_append {pattern bytes more : Bytes} {stop : Nat}
    (h : stop ≤ bytes.length) :
    OccursEnding pattern (bytes ++ more) stop ↔ OccursEnding pattern bytes stop := by
  unfold OccursEnding
  rw [List.take_append_of_le_length h, List.length_append]
  constructor
  · intro hoccurs
    exact ⟨h, hoccurs.2⟩
  · intro hoccurs
    exact ⟨Nat.le_add_right_of_le h, hoccurs.2⟩

theorem eventBoundary_append {bytes more : Bytes} {stop : Nat} (h : stop ≤ bytes.length) :
    EventBoundary (bytes ++ more) stop ↔ EventBoundary bytes stop := by
  unfold EventBoundary
  rw [occursEnding_append h, occursEnding_append h]

/-- An occurrence splits the bytes around the pattern. -/
theorem occursEnding_of_eq {pattern before behind : Bytes} :
    OccursEnding pattern (before ++ pattern ++ behind) (before.length + pattern.length) := by
  rw [← List.length_append, occursEnding_append (Nat.le_refl _)]
  refine ⟨Nat.le_refl _, ?_⟩
  rw [List.take_length]
  exact List.suffix_append before pattern

theorem eq_of_occursEnding {pattern bytes : Bytes} {stop : Nat}
    (h : OccursEnding pattern bytes stop) :
    ∃ before behind, bytes = before ++ pattern ++ behind ∧
      before.length + pattern.length = stop := by
  obtain ⟨hle, before, hbefore⟩ := h
  refine ⟨before, bytes.drop stop, ?_, ?_⟩
  · rw [hbefore, List.take_append_drop]
  · have hlength := congrArg List.length hbefore
    rw [List.length_append, List.length_take, Nat.min_eq_left hle] at hlength
    exact hlength

/-- The search finds the first occurrence. -/
theorem windowPosition_eq_some_iff {pattern bytes : Bytes} {n : Nat} :
    windowPosition pattern bytes = some n ↔
      OccursEnding pattern bytes (n + pattern.length) ∧
        ∀ stop, OccursEnding pattern bytes stop → n + pattern.length ≤ stop := by
  unfold windowPosition
  rw [Option.map_eq_some_iff]
  constructor
  · intro hfound
    obtain ⟨⟨before, behind⟩, hfound, rfl⟩ := hfound
    obtain ⟨rfl, hfirst⟩ := Redaction.dropInfix_eq_some_iff.mp hfound
    refine ⟨occursEnding_of_eq, ?_⟩
    intro stop hstop
    obtain ⟨before', behind', heq, rfl⟩ := eq_of_occursEnding hstop
    exact Nat.add_le_add_right (hfirst before' behind' heq) _
  · intro hleast
    obtain ⟨before, behind, heq, hlength⟩ := eq_of_occursEnding hleast.1
    have hn : before.length = n := Nat.add_right_cancel hlength
    refine ⟨(before, behind), Redaction.dropInfix_eq_some_iff.mpr ⟨heq, ?_⟩, hn⟩
    intro before' behind' heq'
    have hle := hleast.2 (before'.length + pattern.length) (heq' ▸ occursEnding_of_eq)
    omega

theorem windowPosition_eq_none_iff {pattern bytes : Bytes} :
    windowPosition pattern bytes = none ↔ ∀ stop, ¬ OccursEnding pattern bytes stop := by
  unfold windowPosition
  rw [Option.map_eq_none_iff, Redaction.dropInfix_eq_none_iff]
  constructor
  · intro hnone stop hstop
    obtain ⟨before, behind, heq, -⟩ := eq_of_occursEnding hstop
    exact hnone ⟨before, behind, heq.symm⟩
  · intro hnone hinfix
    obtain ⟨before, behind, heq⟩ := hinfix
    exact hnone _ (heq ▸ occursEnding_of_eq)

/-- What the search answers: the boundary that ends first, or that there is none. -/
def FirstBoundary (bytes : Bytes) : Option Nat → Prop
  | some stop => EventBoundary bytes stop ∧ ∀ stop', EventBoundary bytes stop' → stop ≤ stop'
  | none => ∀ stop, ¬ EventBoundary bytes stop

theorem firstBoundary_sseEventEnd (bytes : Bytes) :
    FirstBoundary bytes (sseEventEnd bytes) := by
  unfold sseEventEnd
  cases hl : windowPosition [lf, lf] bytes with
  | none =>
      have hlf := windowPosition_eq_none_iff.mp hl
      cases hc : windowPosition [cr, lf, cr, lf] bytes with
      | none =>
          have hcrlf := windowPosition_eq_none_iff.mp hc
          intro stop hstop
          exact hstop.elim (hlf stop) (hcrlf stop)
      | some n =>
          obtain ⟨hoccurs, hfirst⟩ := windowPosition_eq_some_iff.mp hc
          refine ⟨Or.inr hoccurs, ?_⟩
          intro stop hstop
          exact hstop.elim (fun h => absurd h (hlf stop)) (hfirst stop)
  | some m =>
      obtain ⟨hlf, hlfFirst⟩ := windowPosition_eq_some_iff.mp hl
      cases hc : windowPosition [cr, lf, cr, lf] bytes with
      | none =>
          have hcrlf := windowPosition_eq_none_iff.mp hc
          refine ⟨Or.inl hlf, ?_⟩
          intro stop hstop
          exact hstop.elim (hlfFirst stop) fun h => absurd h (hcrlf stop)
      | some n =>
          obtain ⟨hcrlf, hcrlfFirst⟩ := windowPosition_eq_some_iff.mp hc
          -- both kinds of boundary occur: the earlier end counts, not the earlier start
          show EventBoundary bytes (min (m + 2) (n + 4)) ∧ _
          constructor
          · rcases Nat.le_total (m + 2) (n + 4) with hle | hle
            · rw [Nat.min_eq_left hle]
              exact Or.inl hlf
            · rw [Nat.min_eq_right hle]
              exact Or.inr hcrlf
          · intro stop hstop
            rcases hstop with hstop | hstop
            · exact Nat.le_trans (Nat.min_le_left _ _) (hlfFirst stop hstop)
            · exact Nat.le_trans (Nat.min_le_right _ _) (hcrlfFirst stop hstop)

/-- The search finds the boundary that ends first. -/
theorem sseEventEnd_eq_some_iff {bytes : Bytes} {stop : Nat} :
    sseEventEnd bytes = some stop ↔
      EventBoundary bytes stop ∧ ∀ stop', EventBoundary bytes stop' → stop ≤ stop' := by
  have hspec := firstBoundary_sseEventEnd bytes
  constructor
  · intro h
    rw [h] at hspec
    exact hspec
  · intro h
    cases hfound : sseEventEnd bytes with
    | none =>
        rw [hfound] at hspec
        exact absurd h.1 (hspec stop)
    | some found =>
        rw [hfound] at hspec
        have hle := hspec.2 stop h.1
        have hge := h.2 found hspec.1
        rw [Nat.le_antisymm hle hge]

theorem not_eventBoundary_of_none {bytes : Bytes} (h : sseEventEnd bytes = none) (stop : Nat) :
    ¬ EventBoundary bytes stop := by
  have hspec := firstBoundary_sseEventEnd bytes
  rw [h] at hspec
  exact hspec stop

/-- A boundary that is found stays the first one when more bytes arrive. -/
theorem sseEventEnd_append {bytes : Bytes} {stop : Nat} (h : sseEventEnd bytes = some stop)
    (more : Bytes) : sseEventEnd (bytes ++ more) = some stop := by
  obtain ⟨hboundary, hfirst⟩ := sseEventEnd_eq_some_iff.mp h
  have hle := (sseEventEnd_some h).1
  refine sseEventEnd_eq_some_iff.mpr ⟨(eventBoundary_append hle).mpr hboundary, ?_⟩
  intro stop' hstop'
  by_cases hin : stop' ≤ bytes.length
  · exact hfirst stop' ((eventBoundary_append hin).mp hstop')
  · omega

/-- A boundary that is found only with more bytes ends among them. -/
theorem lt_of_sseEventEnd_append {bytes more : Bytes} (hnone : sseEventEnd bytes = none)
    {stop : Nat} (h : sseEventEnd (bytes ++ more) = some stop) : bytes.length < stop := by
  by_contra hle
  have hboundary := (sseEventEnd_eq_some_iff.mp h).1
  exact not_eventBoundary_of_none hnone stop
    ((eventBoundary_append (Nat.le_of_not_lt hle)).mp hboundary)

/-! ## §2. Segments. -/

theorem length_drop_lt_of_event {bytes : Bytes} {stop : Nat}
    (h : sseEventEnd bytes = some stop) : (bytes.drop stop).length < bytes.length := by
  obtain ⟨hle, before, hbefore⟩ := sseEventEnd_some h
  have hpos : 0 < stop := by
    by_contra hzero
    rw [Nat.eq_zero_of_not_pos hzero, List.take_zero] at hbefore
    simp at hbefore
  rw [List.length_drop]
  omega

/-- The stretches of a body up to an event boundary, and what remains. -/
def segments (body : Bytes) : List Bytes :=
  match _h : sseEventEnd body with
  | some stop => body.take stop :: segments (body.drop stop)
  | none => if body.isEmpty then [] else [body]
termination_by body.length
decreasing_by exact length_drop_lt_of_event (by assumption)

theorem segments_of_some {body : Bytes} {stop : Nat} (h : sseEventEnd body = some stop) :
    segments body = body.take stop :: segments (body.drop stop) := by
  rw [segments]
  split
  · next stop' hstop' =>
      rw [h] at hstop'
      cases hstop'
      rfl
  · next hnone =>
      rw [h] at hnone
      cases hnone

theorem segments_of_none {body : Bytes} (h : sseEventEnd body = none) :
    segments body = if body.isEmpty then [] else [body] := by
  rw [segments]
  split
  · next stop' hstop' =>
      rw [h] at hstop'
      cases hstop'
  · rfl

/-- What is written of some units: those before the first that makes the filter fail. -/
def writtenUnits (filter : StreamFilter) : List Bytes → Bytes
  | [] => []
  | unit :: units =>
      match filter.filterResponseBytes unit with
      | .ok out => out.bytes ++ writtenUnits filter units
      | .error _ => []

/-! ## §3. The units of a stream are the segments. -/

section Turns

variable {filter : StreamFilter} {state : FilterStreamState}

theorem turn_of_event {stop : Nat} (h : sseEventEnd state.pending = some stop) :
    state.turn = state.cut .event stop := by
  unfold FilterStreamState.turn
  rw [h]

theorem turn_of_short (hevent : sseEventEnd state.pending = none)
    (hshort : ¬ state.pending.length > maxFilterPendingBytes) :
    state.turn =
      if state.finished then
        if state.pending.isEmpty then .ended else state.cut .remaining state.pending.length
      else
        match state.stream with
        | .ok chunk :: stream =>
            .polled { state with stream, pending := state.pending ++ chunk }
        | .error err :: stream => .failed err { state with stream }
        | [] => .polled { state with finished := true } := by
  unfold FilterStreamState.turn
  rw [hevent]
  exact if_neg hshort

/-- While bytes may come and none are too many, the stream polls for more. -/
theorem polled_of_short (hevent : sseEventEnd state.pending = none)
    (hshort : ¬ state.pending.length > maxFilterPendingBytes)
    (hfinished : state.finished = false)
    (hstream : ∀ item ∈ state.stream, ∃ chunk, item = .ok chunk) :
    ∃ state', state.turn = .polled state' ∧ state'.unread = state.unread ∧
      ∀ item ∈ state'.stream, ∃ chunk, item = .ok chunk := by
  have hturn := turn_of_short hevent hshort
  rw [if_neg (by rw [hfinished]; exact Bool.false_ne_true)] at hturn
  cases hitems : state.stream with
  | nil =>
      rw [hitems] at hturn
      refine ⟨_, hturn, unread_of_finish hfinished hitems, ?_⟩
      intro item hmem
      exact hstream item (hitems ▸ hmem)
  | cons item stream =>
      obtain ⟨chunk, rfl⟩ := hstream item (by rw [hitems]; exact List.mem_cons_self)
      rw [hitems] at hturn
      refine ⟨_, hturn, unread_of_chunk hfinished hitems, ?_⟩
      intro other hmem
      exact hstream other (by rw [hitems]; exact List.mem_cons_of_mem _ hmem)

/-- A unit is written, and then the rest. -/
theorem writtenBytes_filterFrom_cut {unit : FilterUnit} {state' : FilterStreamState}
    (h : state.turn = .cut unit state') {units : List Bytes}
    (hrest : writtenBytes (filterFrom filter state') = writtenUnits filter units) :
    writtenBytes (filterFrom filter state) = writtenUnits filter (unit.bytes :: units) := by
  unfold writtenUnits
  cases hout : filter.filterResponseBytes unit.bytes with
  | ok out =>
      rw [filterFrom_cut_ok h hout]
      show out.bytes ++ writtenBytes (filterFrom filter state') = out.bytes ++ _
      rw [hrest]
  | error fault =>
      rw [filterFrom_cut_error h hout]
      rfl

/-- A stream without errors writes the segments of what it has not cut off yet, if none of
them is longer than what may be pending. -/
theorem writtenBytes_filterFrom (hstream : ∀ item ∈ state.stream, ∃ chunk, item = .ok chunk)
    (hsegments : ∀ segment ∈ segments state.unread, segment.length ≤ maxFilterPendingBytes) :
    writtenBytes (filterFrom filter state) = writtenUnits filter (segments state.unread) := by
  induction hslack : state.slack using Nat.strong_induction_on generalizing state with
  | _ slack ih =>
      have hnext : ∀ state' : FilterStreamState, state'.slack < state.slack →
          (∀ item ∈ state'.stream, ∃ chunk, item = .ok chunk) →
          (∀ segment ∈ segments state'.unread, segment.length ≤ maxFilterPendingBytes) →
          writtenBytes (filterFrom filter state') =
            writtenUnits filter (segments state'.unread) := by
        intro state' hless hstream' hsegments'
        exact ih state'.slack (hslack ▸ hless) hstream' hsegments' rfl
      cases hevent : sseEventEnd state.pending with
      | some stop =>
          -- the boundary among the pending bytes is the first of the unread ones
          have hturn := turn_of_event hevent
          have hunread : sseEventEnd state.unread = some stop := sseEventEnd_append hevent _
          have hle := (sseEventEnd_some hevent).1
          have hrest : ({ state with pending := state.pending.drop stop } :
              FilterStreamState).unread = state.unread.drop stop := by
            unfold FilterStreamState.unread
            rw [List.drop_append_of_le_length hle]
          have htake : state.unread.take stop = state.pending.take stop :=
            List.take_append_of_le_length hle
          rw [segments_of_some hunread] at hsegments ⊢
          rw [htake, ← hrest]
          rw [← hrest] at hsegments
          refine writtenBytes_filterFrom_cut hturn (hnext _ ?_ hstream ?_)
          · exact slack_lt_of_turn (.inl ⟨_, hturn⟩)
          · intro segment hmem
            exact hsegments segment (List.mem_cons_of_mem _ hmem)
      | none =>
          have hshort : ¬ state.pending.length > maxFilterPendingBytes := by
            intro hlong
            have hle : ∃ segment ∈ segments state.unread,
                state.pending.length ≤ segment.length := by
              cases hunread : sseEventEnd state.unread with
              | some stop =>
                  rw [segments_of_some hunread]
                  refine ⟨_, List.mem_cons_self, ?_⟩
                  have hlt := lt_of_sseEventEnd_append hevent hunread
                  have hstop := (sseEventEnd_some hunread).1
                  rw [List.length_take]
                  omega
              | none =>
                  have hlength : state.pending.length ≤ state.unread.length := by
                    unfold FilterStreamState.unread
                    rw [List.length_append]
                    exact Nat.le_add_right _ _
                  have hne : ¬ state.unread.isEmpty = true := by
                    rw [List.isEmpty_iff_length_eq_zero]
                    omega
                  rw [segments_of_none hunread, if_neg hne]
                  exact ⟨_, List.mem_cons_self, hlength⟩
            obtain ⟨segment, hmem, hlength⟩ := hle
            have hmax := hsegments segment hmem
            omega
          cases hfinished : state.finished with
          | true =>
              have hunread : state.unread = state.pending := by
                unfold FilterStreamState.unread
                rw [hfinished]
                exact List.append_nil _
              rw [hunread, segments_of_none hevent]
              have hturn := turn_of_short hevent hshort
              rw [if_pos hfinished] at hturn
              by_cases hpending : state.pending.isEmpty = true
              · rw [if_pos hpending] at hturn ⊢
                rw [filterFrom_ended hturn]
                rfl
              · rw [if_neg hpending] at hturn ⊢
                let rest : FilterStreamState :=
                  { state with pending := state.pending.drop state.pending.length }
                have hended : rest.turn = .ended := by
                  have hempty : rest = ⟨state.stream, [], true⟩ := by
                    show FilterStreamState.mk _ _ _ = _
                    rw [List.drop_length, hfinished]
                  rw [hempty]
                  rfl
                have hrest : writtenBytes (filterFrom filter rest) = writtenUnits filter [] := by
                  rw [filterFrom_ended hended]
                  rfl
                rw [writtenBytes_filterFrom_cut hturn hrest, FilterUnit.bytes_mk,
                  List.take_length]
          | false =>
              have hpolled := polled_of_short hevent hshort hfinished hstream
              obtain ⟨state', hturn, hunread, hstream'⟩ := hpolled
              rw [filterFrom_polled hturn, ← hunread]
              rw [← hunread] at hsegments
              exact hnext state' (slack_lt_of_turn (.inr (.inr hturn))) hstream' hsegments

end Turns

/-! ## §4. Chunks. -/

section Streams

variable {filter : StreamFilter}

/-- What a filter that changes no unit makes of it. -/
theorem filterResponseBytes_of_unchanged {unit : Bytes}
    (h : ∀ text, Utf8.decode unit = some text →
      filter.policy.inspectText filter.tables text = .ok .unchanged) :
    filter.filterResponseBytes unit = .ok ⟨unit, []⟩ := by
  unfold StreamFilter.filterResponseBytes
  cases hdecode : Utf8.decode unit with
  | none => rfl
  | some text => simp only [h text hdecode]

/-- A stream whose units are all unchanged writes what it reads. -/
theorem writtenBytes_of_unchanged (state : FilterStreamState) :
    (∀ unit ∈ unitsOf (filterFrom filter state), ∀ text,
      Utf8.decode unit.bytes = some text →
        filter.policy.inspectText filter.tables text = .ok .unchanged) →
      writtenBytes (filterFrom filter state) = state.unread := by
  refine filterFrom_induction
    (motive := fun state items => (∀ unit ∈ unitsOf items, ∀ text,
      Utf8.decode unit.bytes = some text →
        filter.policy.inspectText filter.tables text = .ok .unchanged) →
      writtenBytes items = state.unread) ?_ ?_ ?_ ?_ ?_
  -- a unit is written as it came, and the rest by the hypothesis
  · intro state kind size out _ _ ih hout hunchanged
    have hbytes := filterResponseBytes_of_unchanged (hunchanged _ List.mem_cons_self)
    rw [FilterUnit.bytes_mk, hout] at hbytes
    have hrest := ih fun unit hmem => hunchanged unit (List.mem_cons_of_mem _ hmem)
    have hcut : state.unread = (⟨kind, state.pending, size⟩ : FilterUnit).bytes ++
        ({ state with pending := state.pending.drop size } : FilterStreamState).unread :=
      unread_of_cut
    show out.bytes ++ writtenBytes _ = state.unread
    rw [hrest, Except.ok.inj hbytes, hcut, FilterUnit.bytes_mk]
  -- no unit makes the filter fail
  · intro state kind size fault _ _ hfault hunchanged
    have hbytes := filterResponseBytes_of_unchanged (hunchanged _ List.mem_cons_self)
    rw [FilterUnit.bytes_mk, hfault] at hbytes
    cases hbytes
  · intro state state' err items hunread ih hunchanged
    rw [← hunread]
    exact ih hunchanged
  · intro state state' items hunread ih hunchanged
    rw [← hunread]
    exact ih hunchanged
  · intro state hunread _
    exact hunread.symm

/-- The bytes that the client gets of a body in some chunks. -/
def filteredBody (filter : StreamFilter) (chunks : List Bytes) : Bytes :=
  writtenBytes (filterResponseStream filter (chunks.map .ok))

theorem unread_start (chunks : List Bytes) :
    (⟨chunks.map .ok, [], false⟩ : FilterStreamState).unread = chunks.flatten :=
  streamBytes_ok chunks

/-- A body without long segments is written segment by segment, whatever its chunks. -/
theorem filteredBody_eq {chunks : List Bytes}
    (h : ∀ segment ∈ segments chunks.flatten, segment.length ≤ maxFilterPendingBytes) :
    filteredBody filter chunks = writtenUnits filter (segments chunks.flatten) := by
  have hstream : ∀ item ∈ chunks.map (Except.ok (ε := IoError)), ∃ chunk, item = .ok chunk := by
    intro item hmem
    obtain ⟨chunk, -, rfl⟩ := List.mem_map.mp hmem
    exact ⟨chunk, rfl⟩
  rw [← unread_start] at h ⊢
  exact writtenBytes_filterFrom hstream h

/-- Two ways to cut a body without long segments into chunks are written alike; and where
no unit is changed, whatever the body and its chunks, the body itself is written. -/
theorem filtered_independent_of_chunking (filter : StreamFilter) :
    (∀ body chunks chunks', chunks.flatten = body → chunks'.flatten = body →
      (∀ segment ∈ segments body, segment.length ≤ maxFilterPendingBytes) →
      filteredBody filter chunks = filteredBody filter chunks') ∧
    ∀ chunks, (∀ unit ∈ unitsOf (filterResponseStream filter (chunks.map .ok)), ∀ text,
        Utf8.decode unit.bytes = some text →
          filter.policy.inspectText filter.tables text = .ok .unchanged) →
      filteredBody filter chunks = chunks.flatten := by
  constructor
  · intro body chunks chunks' hchunks hchunks' hsegments
    rw [filteredBody_eq (by rw [hchunks]; exact hsegments),
      filteredBody_eq (by rw [hchunks']; exact hsegments), hchunks, hchunks']
  · intro chunks hunchanged
    rw [← unread_start]
    exact writtenBytes_of_unchanged _ hunchanged

end Streams

/-- A filter that redacts `key`. -/
def keyFilter : StreamFilter :=
  ⟨⟨fun ch => [ch], fun _ => false, fun _ => false⟩,
    ⟨true, "[filtered]".toList, [⟨"key", .redact, .literal "key".toList "key".toList true⟩]⟩,
    .json, none⟩

/-- A body of two segments, in one chunk and with a cut through its boundary; and a chunk
without the literal. -/
theorem filtered_independent_of_chunking_keyFilter :
    filteredBody keyFilter [[0x61, lf, lf, 0x62]] =
        filteredBody keyFilter [[0x61, lf], [lf, 0x62]] ∧
      filteredBody keyFilter [[0x6f, 0x6b]] = [[0x6f, 0x6b]].flatten := by
  constructor
  · refine (filtered_independent_of_chunking keyFilter).1 [0x61, lf, lf, 0x62] _ _ rfl rfl ?_
    intro segment hmem
    -- the body has two segments, both of them short
    have hfirst : sseEventEnd [0x61, lf, lf, 0x62] = some 3 := rfl
    rw [segments_of_some hfirst, segments_of_none rfl] at hmem
    have hcases : segment = [0x61, lf, lf] ∨ segment = [0x62] := by
      simpa using hmem
    rcases hcases with rfl | rfl
    · decide
    · decide
  · refine (filtered_independent_of_chunking keyFilter).2 _ ?_
    have hunits : unitsOf (filterResponseStream keyFilter ([[0x6f, 0x6b]].map .ok)) =
        [⟨.remaining, [0x6f, 0x6b], 2⟩] := by
      unfold filterResponseStream
      rw [filterFrom_polled rfl, filterFrom_polled rfl, filterFrom_cut_ok rfl rfl,
        filterFrom_ended rfl]
      rfl
    rw [hunits]
    intro unit hunit text htext
    rw [List.mem_singleton.mp hunit] at htext
    have hdecode : Utf8.decode [0x6f, 0x6b] = some ['o', 'k'] := rfl
    rw [← Option.some.inj (hdecode.symm.trans htext)]
    rfl

end OneAiKey
