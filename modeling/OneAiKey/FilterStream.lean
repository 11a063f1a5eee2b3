/-
  OneAiKey.FilterStream — the filtered body stream (`filter_response_stream` and
  `filter_response_bytes` of `src/upstream_response.rs`).

  One turn of the stream's loop looks at the pending bytes and cuts a unit off
  their front, at an event boundary, at a length or at the end of the body, or
  it polls the upstream.  Every unit is filtered by itself.  Where a unit is cut
  does not depend on the filter.

  Main results:
    * `filterTurn_spec` — what a turn does, with the guards of each branch;
    * `filterFrom` — the whole stream, polled to its end: it always ends;
    * `units_flatten` — the units are the body, cut in pieces.
-/
import OneAiKey.ByteStream
import OneAiKey.ResponseFilter
import OneAiKey.SuccessGuard

namespace OneAiKey

/-! ## §1. Cutting units. -/

/-- More pending bytes than this are not held back for the end of an event. -/
def maxFilterPendingBytes : Nat := 8192

/-- How much of a long segment stays pending. -/
def filterOverlapBytes : Nat := 1024

/-- `bytes.windows(n).position(|window| window == pattern)`. -/
def windowPosition (pattern bytes : Bytes) : Option Nat :=
  (bytes.dropInfix? pattern).map fun found => found.1.length

/-- Where the first event of the bytes ends, behind its blank line. -/
def sseEventEnd (bytes : Bytes) : Option Nat :=
  let lfEnd := (windowPosition [lf, lf] bytes).map (· + 2)
  let crlfEnd := (windowPosition [cr, lf, cr, lf] bytes).map (· + 4)
  match lfEnd, crlfEnd with
  | some lf, some crlf => some (min lf crlf)
  | some lf, none => some lf
  | none, some crlf => some crlf
  | none, none => none

/-- Why a unit is cut off. -/
inductive CutKind where
  | event
  /-- The pending bytes are too many. -/
  | release
  /-- The body has ended. -/
  | remaining
  deriving DecidableEq, Repr

/-- A unit: the first `size` of the pending bytes. -/
structure FilterUnit where
  kind : CutKind
  pending : Bytes
  size : Nat
  deriving DecidableEq, Repr

/-- The bytes that the unit releases. -/
def FilterUnit.bytes (unit : FilterUnit) : Bytes := unit.pending.take unit.size

theorem FilterUnit.bytes_mk (kind : CutKind) (pending : Bytes) (size : Nat) :
    (⟨kind, pending, size⟩ : FilterUnit).bytes = pending.take size := rfl

/-- The filter between two turns: what is still to come, and what it holds back. -/
structure FilterStreamState where
  /-- The items that the upstream still delivers. -/
  stream : List StreamItem
  pending : Bytes
  finished : Bool

/-- What one turn of the loop does. -/
inductive FilterTurn where
  /-- A unit is filtered and returned. -/
  | cut (unit : FilterUnit) (state : FilterStreamState)
  | failed (err : IoError) (state : FilterStreamState)
  /-- The loop goes round. -/
  | polled (state : FilterStreamState)
  | ended

/-- `state.pending.split_to(size)`. -/
def FilterStreamState.cut (state : FilterStreamState) (kind : CutKind) (size : Nat) : FilterTurn :=
  .cut ⟨kind, state.pending, size⟩ { state with pending := state.pending.drop size }

/-- One turn of the loop: release an event, release a long segment but for the overlap, or read
on. -/
def FilterStreamState.turn (state : FilterStreamState) : FilterTurn :=
  match sseEventEnd state.pending with
  | some eventEnd => state.cut .event eventEnd
  | none =>
      if state.pending.length > maxFilterPendingBytes then
        state.cut .release (state.pending.length - filterOverlapBytes)
      else if state.finished then
        if state.pending.isEmpty then .ended else state.cut .remaining state.pending.length
      else
        match state.stream with
        | .ok chunk :: stream =>
            .polled { state with stream, pending := state.pending ++ chunk }
        | .error err :: stream => .failed err { state with stream }
        | [] => .polled { state with finished := true }

/-! ## §2. Filtering units. -/

/-- The kinds of bodies that the filter tells apart. -/
inductive ResponseContentKind where
  | json
  | sse
  | unknown
  deriving DecidableEq, Repr

/-- The kinds as filter events spell them. -/
def ResponseContentKind.eventName : ResponseContentKind → String
  | json => "json"
  | sse => "sse"
  | unknown => "unknown"

/-- What a client gets of a rejected JSON body. -/
def responseFilterRejectionJson : Bytes :=
  Utf8.encode ("\x7b\"error\":\x7b\"type\":\"response_filter_rejected\",\"message\":" ++
    "\"upstream response content was blocked by response filter\"\x7d\x7d").toList

/-- What a client gets of a rejected event stream. -/
def responseFilterRejectionSse : Bytes :=
  Utf8.encode ("event: error\ndata: \x7b\"error\":\x7b\"type\":\"response_filter_rejected\"," ++
    "\"message\":\"upstream response content was blocked by response filter\"\x7d\x7d\n\n").toList

/-- What the events of a response have in common. -/
structure ResponseFilterEventContext where
  requestId : String
  channelId : String
  publicModel : String
  deriving DecidableEq, Repr

/-- An event of the filter before it is recorded. -/
structure ResponseFilterEventInput where
  requestId : String
  channelId : String
  publicModel : String
  ruleId : String
  action : String
  contentKind : String
  reasonCode : String
  outcome : String
  bodyCommitted : Bool
  deriving DecidableEq, Repr

/-- What a filtered stream keeps beside its state. -/
structure StreamFilter where
  tables : CaseTables
  policy : ResponseFilterPolicy
  contentKind : ResponseContentKind
  /-- The context of the events, if there is a sink for them. -/
  eventContext : Option ResponseFilterEventContext

/-- `emit_response_filter_events`: what the sink is called with. -/
def StreamFilter.emitResponseFilterEvents (filter : StreamFilter)
    (matched : List ResponseFilterMatch) (outcome : String) : List ResponseFilterEventInput :=
  match filter.eventContext with
  | none => []
  | some context => matched.map fun matchedRule =>
      { requestId := context.requestId
        channelId := context.channelId
        publicModel := context.publicModel
        ruleId := matchedRule.ruleId
        action := matchedRule.action.asStr
        contentKind := filter.contentKind.eventName
        reasonCode := matchedRule.reasonCode
        outcome
        bodyCommitted := true }

/-- A filtered unit and the events of its filtering. -/
structure FilteredBytes where
  bytes : Bytes
  events : List ResponseFilterEventInput
  deriving DecidableEq, Repr

/-- The filter on a piece of the body; a piece that is not UTF-8 passes unseen. -/
def StreamFilter.filterResponseBytes (filter : StreamFilter) (chunk : Bytes) :
    Except Fault FilteredBytes :=
  match Utf8.decode chunk with
  | none => .ok ⟨chunk, []⟩
  | some text =>
      match filter.policy.inspectText filter.tables text with
      | .error fault => .error fault
      | .ok .unchanged => .ok ⟨chunk, []⟩
      | .ok (.redacted text matched) =>
          .ok ⟨Utf8.encode text, filter.emitResponseFilterEvents matched "redacted"⟩
      | .ok (.rejected matched) =>
          let events := filter.emitResponseFilterEvents matched "rejected"
          match filter.contentKind with
          | .sse => .ok ⟨responseFilterRejectionSse, events⟩
          | .json | .unknown => .ok ⟨responseFilterRejectionJson, events⟩

/-! ## §3. One turn. -/

/-- The bytes of the items. -/
def streamBytes (stream : List StreamItem) : Bytes :=
  stream.flatMap fun
    | .ok chunk => chunk
    | .error _ => []

/-- The bytes that are not cut off yet. -/
def FilterStreamState.unread (state : FilterStreamState) : Bytes :=
  state.pending ++ if state.finished then [] else streamBytes state.stream

/-- What bounds the turns that are left. -/
def FilterStreamState.slack (state : FilterStreamState) : Nat :=
  state.stream.length + (streamBytes state.stream).length + state.pending.length +
    if state.finished then 0 else 1

/-- The cuts that a turn can make. -/
inductive CutSpec (pending : Bytes) : CutKind → Nat → Prop where
  /-- An event ends with a line feed. -/
  | event {before : Bytes} {size : Nat} :
      size ≤ pending.length → pending.take size = before ++ [lf] →
      CutSpec pending .event size
  | release :
      maxFilterPendingBytes < pending.length →
      CutSpec pending .release (pending.length - filterOverlapBytes)
  | remaining : pending ≠ [] → CutSpec pending .remaining pending.length

/-- What a turn from `state` does. -/
inductive FilterTurnSpec (state : FilterStreamState) : FilterTurn → Prop where
  | cut {kind : CutKind} {size : Nat} :
      CutSpec state.pending kind size → (kind = .remaining → state.finished = true) →
      FilterTurnSpec state (state.cut kind size)
  | failed {err : IoError} {stream : List StreamItem} :
      state.finished = false → state.stream = .error err :: stream →
      FilterTurnSpec state (.failed err { state with stream })
  | chunk {chunk : Bytes} {stream : List StreamItem} :
      state.finished = false → state.stream = .ok chunk :: stream →
      FilterTurnSpec state (.polled { state with stream, pending := state.pending ++ chunk })
  | finish :
      state.finished = false → state.stream = [] →
      FilterTurnSpec state (.polled { state with finished := true })
  | ended : state.finished = true → state.pending = [] → FilterTurnSpec state .ended

theorem windowPosition_some {pattern bytes : Bytes} {n : Nat}
    (h : windowPosition pattern bytes = some n) :
    n + pattern.length ≤ bytes.length ∧
      bytes.take (n + pattern.length) = bytes.take n ++ pattern := by
  unfold windowPosition at h
  obtain ⟨⟨before, behind⟩, hfound, rfl⟩ := Option.map_eq_some_iff.mp h
  obtain ⟨rfl, -⟩ := Redaction.dropInfix_eq_some_iff.mp hfound
  constructor
  · simp only [List.length_append]
    omega
  · rw [← List.length_append, List.take_left, List.append_assoc, List.take_left]

/-- An event boundary is behind a line feed. -/
theorem sseEventEnd_some {bytes : Bytes} {size : Nat} (h : sseEventEnd bytes = some size) :
    size ≤ bytes.length ∧ ∃ before, bytes.take size = before ++ [lf] := by
  have hlf {n : Nat} (hn : windowPosition [lf, lf] bytes = some n) :
      n + 2 ≤ bytes.length ∧ ∃ before, bytes.take (n + 2) = before ++ [lf] := by
    obtain ⟨hle, htake⟩ := windowPosition_some hn
    refine ⟨hle, bytes.take n ++ [lf], ?_⟩
    rw [List.append_assoc]
    exact htake
  have hcrlf {n : Nat} (hn : windowPosition [cr, lf, cr, lf] bytes = some n) :
      n + 4 ≤ bytes.length ∧ ∃ before, bytes.take (n + 4) = before ++ [lf] := by
    obtain ⟨hle, htake⟩ := windowPosition_some hn
    refine ⟨hle, bytes.take n ++ [cr, lf, cr], ?_⟩
    rw [List.append_assoc]
    exact htake
  unfold sseEventEnd at h
  cases hl : windowPosition [lf, lf] bytes with
  | none =>
      cases hc : windowPosition [cr, lf, cr, lf] bytes with
      | none => simp [hl, hc] at h
      | some n =>
          simp only [hl, hc, Option.map_none, Option.map_some, Option.some.injEq] at h
          exact h ▸ hcrlf hc
  | some m =>
      cases hc : windowPosition [cr, lf, cr, lf] bytes with
      | none =>
          simp only [hl, hc, Option.map_none, Option.map_some, Option.some.injEq] at h
          exact h ▸ hlf hl
      | some n =>
          simp only [hl, hc, Option.map_some, Option.some.injEq] at h
          subst h
          -- whichever boundary ends first, a line feed ends it
          by_cases hle : m + 2 ≤ n + 4
          · rw [Nat.min_eq_left hle]
            exact hlf hl
          · rw [Nat.min_eq_right (by omega)]
            exact hcrlf hc

/-- No event boundary without a line feed. -/
theorem sseEventEnd_of_not_mem {bytes : Bytes} (h : lf ∉ bytes) : sseEventEnd bytes = none := by
  have hnone {pattern : Bytes} (hmem : lf ∈ pattern) : windowPosition pattern bytes = none := by
    unfold windowPosition
    rw [Option.map_eq_none_iff, Redaction.dropInfix_eq_none_iff]
    exact fun hin => h (hin.subset hmem)
  unfold sseEventEnd
  rw [hnone (by decide), hnone (by decide)]
  rfl

theorem filterTurn_spec (state : FilterStreamState) : FilterTurnSpec state state.turn := by
  unfold FilterStreamState.turn
  cases hevent : sseEventEnd state.pending with
  | some size =>
      obtain ⟨hle, before, htake⟩ := sseEventEnd_some hevent
      exact .cut (.event hle htake) nofun
  | none =>
      -- no event is whole: only a long tail is cut
      by_cases hlong : state.pending.length > maxFilterPendingBytes
      · show FilterTurnSpec state (if _ then _ else _)
        rw [if_pos hlong]
        exact .cut (.release hlong) nofun
      · show FilterTurnSpec state (if _ then _ else _)
        rw [if_neg hlong]
        cases hfinished : state.finished with
        | true =>
            rw [if_pos rfl]
            by_cases hpending : state.pending = []
            · rw [if_pos (by rw [hpending]; rfl)]
              exact .ended hfinished hpending
            · rw [if_neg (by rw [List.isEmpty_iff]; exact hpending)]
              exact .cut (.remaining hpending) fun _ => hfinished
        | false =>
            cases hstream : state.stream with
            | nil =>
                have hturn := FilterTurnSpec.finish hfinished hstream
                rwa [hstream] at hturn
            | cons item stream =>
                cases item with
                | ok chunk =>
                    have hturn := FilterTurnSpec.chunk hfinished hstream
                    rwa [hfinished] at hturn
                | error err =>
                    have hturn := FilterTurnSpec.failed hfinished hstream
                    rwa [hfinished] at hturn

theorem CutSpec.size_le {pending : Bytes} {kind : CutKind} {size : Nat}
    (h : CutSpec pending kind size) : size ≤ pending.length := by
  cases h with
  | event hle _ => exact hle
  | release _ => exact Nat.sub_le _ _
  | remaining _ => exact Nat.le_refl _

theorem CutSpec.size_pos {pending : Bytes} {kind : CutKind} {size : Nat}
    (h : CutSpec pending kind size) : 0 < size := by
  cases h with
  | event _ htake =>
      by_contra hzero
      rw [Nat.eq_zero_of_not_pos hzero, List.take_zero] at htake
      simp at htake
  | release hlong =>
      unfold maxFilterPendingBytes at hlong
      unfold filterOverlapBytes
      omega
  | remaining hne => exact List.length_pos_iff.mpr hne

theorem streamBytes_cons_ok (chunk : Bytes) (stream : List StreamItem) :
    streamBytes (.ok chunk :: stream) = chunk ++ streamBytes stream := rfl

theorem streamBytes_cons_error (err : IoError) (stream : List StreamItem) :
    streamBytes (.error err :: stream) = streamBytes stream := rfl

theorem streamBytes_ok (chunks : List Bytes) :
    streamBytes (chunks.map .ok) = chunks.flatten := by
  induction chunks with
  | nil => rfl
  | cons chunk chunks ih =>
      rw [List.map_cons, streamBytes_cons_ok, ih]
      rfl

/-- Every turn but the last uses up slack. -/
theorem slack_lt_of_turn {state state' : FilterStreamState}
    (h : (∃ unit, state.turn = .cut unit state') ∨ (∃ err, state.turn = .failed err state') ∨
      state.turn = .polled state') : state'.slack < state.slack := by
  have hspec := filterTurn_spec state
  generalize state.turn = turn at h hspec
  unfold FilterStreamState.slack
  cases hspec with
  | cut hcut hlast =>
      unfold FilterStreamState.cut at h
      have hpos := hcut.size_pos
      have hle := hcut.size_le
      simp only [FilterTurn.cut.injEq, reduceCtorEq, exists_false, or_false, exists_and_right,
        exists_eq', true_and] at h
      subst h
      dsimp only
      rw [List.length_drop]
      omega
  | failed hfinished hstream =>
      simp only [reduceCtorEq, exists_false, FilterTurn.failed.injEq, exists_and_right, exists_eq',
        true_and, or_false, false_or] at h
      subst h
      dsimp only
      rw [hstream, streamBytes_cons_error, List.length_cons]
      omega
  -- a chunk moves from the stream to the pending bytes, one item less
  | chunk hfinished hstream =>
      simp only [reduceCtorEq, exists_false, FilterTurn.polled.injEq, false_or] at h
      subst h
      dsimp only
      rw [hstream, streamBytes_cons_ok, List.length_cons, List.length_append, List.length_append]
      omega
  | finish hfinished hstream =>
      simp only [reduceCtorEq, exists_false, FilterTurn.polled.injEq, false_or] at h
      subst h
      rw [hfinished]
      simp
  | ended hfinished hpending =>
      simp only [reduceCtorEq, exists_false, or_false] at h

/-! ## §4. The whole stream. -/

/-- An item of the filtered stream. -/
inductive Yielded where
  /-- A unit, with what filtering it gives; a fault ends the stream. -/
  | filtered (unit : FilterUnit) (result : Except Fault FilteredBytes)
  | failed (err : IoError)

/-- The items that polling the stream gives, until it ends. -/
def filterFrom (filter : StreamFilter) (state : FilterStreamState) : List Yielded :=
  match h : state.turn with
  | .cut unit state' =>
      have := slack_lt_of_turn (.inl ⟨unit, h⟩)
      match filter.filterResponseBytes unit.bytes with
      | .ok out => .filtered unit (.ok out) :: filterFrom filter state'
      | .error fault => [.filtered unit (.error fault)]
  | .failed err state' =>
      have := slack_lt_of_turn (.inr (.inl ⟨err, h⟩))
      .failed err :: filterFrom filter state'
  | .polled state' =>
      have := slack_lt_of_turn (.inr (.inr h))
      filterFrom filter state'
  | .ended => []
termination_by state.slack

/-- The filtered stream of a body. -/
def filterResponseStream (filter : StreamFilter) (stream : List StreamItem) : List Yielded :=
  filterFrom filter { stream, pending := [], finished := false }

/-- The units that were filtered. -/
def unitsOf (items : List Yielded) : List FilterUnit :=
  items.filterMap fun
    | .filtered unit _ => some unit
    | .failed _ => none

/-- The bytes that are written to the client. -/
def writtenBytes (items : List Yielded) : Bytes :=
  items.flatMap fun
    | .filtered _ (.ok out) => out.bytes
    | .filtered _ (.error _) => []
    | .failed _ => []

/-- No unit made the filter fail. -/
def NoFault (items : List Yielded) : Prop :=
  ∀ unit fault, Yielded.filtered unit (.error fault) ∉ items

section Equations

variable {filter : StreamFilter} {state state' : FilterStreamState}

theorem filterFrom_cut {unit : FilterUnit} (h : state.turn = .cut unit state') :
    filterFrom filter state =
      match filter.filterResponseBytes unit.bytes with
      | .ok out => .filtered unit (.ok out) :: filterFrom filter state'
      | .error fault => [.filtered unit (.error fault)] := by
  conv_lhs => unfold filterFrom
  split
  · next h' =>
      rw [h] at h'
      cases h'
      rfl
  all_goals next h' => rw [h] at h'; cases h'

theorem filterFrom_cut_ok {unit : FilterUnit} {out : FilteredBytes}
    (h : state.turn = .cut unit state')
    (hout : filter.filterResponseBytes unit.bytes = .ok out) :
    filterFrom filter state = .filtered unit (.ok out) :: filterFrom filter state' := by
  rw [filterFrom_cut h, hout]

theorem filterFrom_cut_error {unit : FilterUnit} {fault : Fault}
    (h : state.turn = .cut unit state')
    (hout : filter.filterResponseBytes unit.bytes = .error fault) :
    filterFrom filter state = [.filtered unit (.error fault)] := by
  rw [filterFrom_cut h, hout]

theorem filterFrom_failed {err : IoError} (h : state.turn = .failed err state') :
    filterFrom filter state = .failed err :: filterFrom filter state' := by
  conv_lhs => unfold filterFrom
  split
  case h_2 h' => rw [h] at h'; cases h'; rfl
  all_goals next h' => rw [h] at h'; cases h'

theorem filterFrom_polled (h : state.turn = .polled state') :
    filterFrom filter state = filterFrom filter state' := by
  conv_lhs => unfold filterFrom
  split
  case h_3 h' => rw [h] at h'; cases h'; rfl
  all_goals next h' => rw [h] at h'; cases h'

theorem filterFrom_ended (h : state.turn = .ended) : filterFrom filter state = [] := by
  conv_lhs => unfold filterFrom
  split
  case h_4 => rfl
  all_goals next h' => rw [h] at h'; cases h'

end Equations

/-! ## §5. The units of a stream. -/

section Units

variable {filter : StreamFilter} {state : FilterStreamState}

/-- The bytes that a cut leaves. -/
theorem unread_of_cut {kind : CutKind} {size : Nat} :
    state.unread = (⟨kind, state.pending, size⟩ : FilterUnit).bytes ++
      ({ state with pending := state.pending.drop size } : FilterStreamState).unread := by
  unfold FilterStreamState.unread FilterUnit.bytes
  rw [← List.append_assoc, List.take_append_drop]

theorem unread_of_failed {err : IoError} {stream : List StreamItem}
    (hstream : state.stream = .error err :: stream) :
    ({ state with stream } : FilterStreamState).unread = state.unread := by
  unfold FilterStreamState.unread
  rw [hstream, streamBytes_cons_error]

theorem unread_of_chunk {chunk : Bytes} {stream : List StreamItem}
    (hfinished : state.finished = false) (hstream : state.stream = .ok chunk :: stream) :
    ({ state with stream, pending := state.pending ++ chunk } : FilterStreamState).unread =
      state.unread := by
  unfold FilterStreamState.unread
  dsimp only
  rw [hstream, hfinished, streamBytes_cons_ok, List.append_assoc]
  rfl

theorem unread_of_finish (hfinished : state.finished = false) (hstream : state.stream = []) :
    ({ state with finished := true } : FilterStreamState).unread = state.unread := by
  unfold FilterStreamState.unread
  rw [hstream, hfinished]
  rfl

/-- An induction over the turns of a stream: what holds of the items behind a cut, an error or a
poll holds with the item in front.  A poll and an error leave the unread bytes as they are. -/
theorem filterFrom_induction {motive : FilterStreamState → List Yielded → Prop}
    (hcut : ∀ state kind size out, CutSpec state.pending kind size →
      (kind = .remaining → state.finished = true) →
      motive { state with pending := state.pending.drop size }
        (filterFrom filter { state with pending := state.pending.drop size }) →
      filter.filterResponseBytes (state.pending.take size) = .ok out →
      motive state (.filtered ⟨kind, state.pending, size⟩ (.ok out) ::
        filterFrom filter { state with pending := state.pending.drop size }))
    (hfault : ∀ state kind size fault, CutSpec state.pending kind size →
      (kind = .remaining → state.finished = true) →
      filter.filterResponseBytes (state.pending.take size) = .error fault →
      motive state [.filtered ⟨kind, state.pending, size⟩ (.error fault)])
    (hfailed : ∀ state state' err items, state'.unread = state.unread →
      motive state' items → motive state (.failed err :: items))
    (hpolled : ∀ state state' items, state'.unread = state.unread →
      motive state' items → motive state items)
    (hended : ∀ state, state.unread = [] → motive state []) :
    motive state (filterFrom filter state) := by
  -- every turn but the last has less slack left
  induction hslack : state.slack using Nat.strong_induction_on generalizing state with
  | _ slack ih =>
      have hspec := filterTurn_spec state
      cases hturn : state.turn with
      | cut unit state' =>
          have hless := slack_lt_of_turn (.inl ⟨unit, hturn⟩)
          have hnext := ih _ (hslack ▸ hless) rfl
          rw [hturn] at hspec
          generalize hstep : FilterTurn.cut unit state' = step at hspec
          cases hspec with
          | cut hspec hlast =>
              obtain ⟨rfl, rfl⟩ := FilterTurn.cut.inj hstep
              cases hout : filter.filterResponseBytes (state.pending.take _) with
              | ok out =>
                  rw [filterFrom_cut_ok hturn hout]
                  exact hcut state _ _ out hspec hlast hnext hout
              | error fault =>
                  rw [filterFrom_cut_error hturn hout]
                  exact hfault state _ _ fault hspec hlast hout
          | _ => cases hstep
      | failed err state' =>
          have hless := slack_lt_of_turn (.inr (.inl ⟨err, hturn⟩))
          have hnext := ih _ (hslack ▸ hless) rfl
          rw [filterFrom_failed hturn]
          rw [hturn] at hspec
          generalize hstep : FilterTurn.failed err state' = step at hspec
          cases hspec with
          | failed hfinished hstream =>
              obtain ⟨rfl, rfl⟩ := FilterTurn.failed.inj hstep
              exact hfailed state _ _ _ (unread_of_failed hstream) hnext
          | _ => cases hstep
      | polled state' =>
          have hless := slack_lt_of_turn (.inr (.inr hturn))
          have hnext := ih _ (hslack ▸ hless) rfl
          rw [filterFrom_polled hturn]
          rw [hturn] at hspec
          generalize hstep : FilterTurn.polled state' = step at hspec
          cases hspec with
          | chunk hfinished hstream =>
              obtain rfl := FilterTurn.polled.inj hstep
              exact hpolled state _ _ (unread_of_chunk hfinished hstream) hnext
          | finish hfinished hstream =>
              obtain rfl := FilterTurn.polled.inj hstep
              exact hpolled state _ _ (unread_of_finish hfinished hstream) hnext
          | _ => cases hstep
      | ended =>
          rw [filterFrom_ended hturn]
          rw [hturn] at hspec
          generalize hstep : FilterTurn.ended = step at hspec
          cases hspec with
          | ended hfinished hpending =>
              apply hended
              unfold FilterStreamState.unread
              rw [hpending, hfinished]
              rfl
          | _ => cases hstep

theorem unitsOf_cons_filtered (unit : FilterUnit) (result : Except Fault FilteredBytes)
    (items : List Yielded) :
    unitsOf (.filtered unit result :: items) = unit :: unitsOf items := rfl

/-- Every unit is cut by one of the three rules. -/
theorem units_cutSpec (filter : StreamFilter) (state : FilterStreamState) :
    ∀ unit ∈ unitsOf (filterFrom filter state), CutSpec unit.pending unit.kind unit.size := by
  refine filterFrom_induction
    (motive := fun _ items => ∀ unit ∈ unitsOf items, CutSpec unit.pending unit.kind unit.size)
    ?_ ?_ ?_ ?_ ?_
  · intro state kind size out hspec _ ih _
    exact List.forall_mem_cons.mpr ⟨hspec, ih⟩
  · intro state kind size fault hspec _ _
    exact List.forall_mem_singleton.mpr hspec
  · intro state state' err items _ ih
    exact ih
  · intro state state' items _ ih
    exact ih
  · intro state _ unit hunit
    cases hunit

/-- Without a fault the units are the unread bytes, cut in pieces. -/
theorem units_flatten :
    NoFault (filterFrom filter state) →
      ((unitsOf (filterFrom filter state)).map FilterUnit.bytes).flatten = state.unread := by
  refine filterFrom_induction
    (motive := fun state items => NoFault items →
      ((unitsOf items).map FilterUnit.bytes).flatten = state.unread) ?_ ?_ ?_ ?_ ?_
  · intro state kind size out _ _ ih _ hnoFault
    have hrest := ih fun unit fault hmem => hnoFault unit fault (List.mem_cons_of_mem _ hmem)
    rw [unitsOf_cons_filtered, List.map_cons, List.flatten_cons, hrest]
    exact unread_of_cut.symm
  · intro state kind size fault _ _ _ hnoFault
    exact absurd List.mem_cons_self (hnoFault _ fault)
  · intro state state' err items hunread ih hnoFault
    rw [← hunread]
    exact ih fun unit fault hmem => hnoFault unit fault (List.mem_cons_of_mem _ hmem)
  · intro state state' items hunread ih hnoFault
    rw [← hunread]
    exact ih hnoFault
  · intro state hunread _
    exact hunread.symm

/-- Nothing follows the remaining bytes. -/
theorem units_chain (filter : StreamFilter) (state : FilterStreamState) :
    (unitsOf (filterFrom filter state)).IsChain fun unit _ => unit.kind ≠ .remaining := by
  refine filterFrom_induction
    (motive := fun _ items => (unitsOf items).IsChain fun unit _ => unit.kind ≠ .remaining)
    ?_ ?_ ?_ ?_ ?_
  · intro state kind size out hspec hlast ih _
    rw [unitsOf_cons_filtered]
    -- the remaining bytes are cut off at the end of the stream, and nothing comes behind them
    by_cases hkind : kind = .remaining
    · subst hkind
      have hended : filterFrom filter
          { state with pending := state.pending.drop size } = [] := by
        cases hspec with
        | remaining hne =>
            apply filterFrom_ended
            rw [List.drop_length, hlast rfl]
            rfl
      rw [hended]
      exact List.IsChain.singleton _
    · exact List.IsChain.cons ih fun _ _ => hkind
  · intro state kind size fault _ _ _
    exact List.IsChain.singleton _
  · intro state state' err items _ ih
    exact ih
  · intro state state' items _ ih
    exact ih
  · intro state _
    exact List.IsChain.nil

/-- A long chunk without line feeds is released in part. -/
theorem turn_of_long_chunk (stream : List StreamItem) (body : Bytes) (finished : Bool)
    (hlong : maxFilterPendingBytes < body.length) (hlf : lf ∉ body) :
    (⟨stream, body, finished⟩ : FilterStreamState).turn =
      .cut ⟨.release, body, body.length - filterOverlapBytes⟩
        ⟨stream, body.drop (body.length - filterOverlapBytes), finished⟩ := by
  unfold FilterStreamState.turn
  dsimp only
  rw [sseEventEnd_of_not_mem hlf]
  show (if _ then _ else _) = _
  rw [if_pos hlong]
  rfl

theorem turn_of_first_chunk (body : Bytes) :
    (⟨[.ok body], [], false⟩ : FilterStreamState).turn = .polled ⟨[], body, false⟩ := rfl

/-- The first unit of a long chunk without line feeds. -/
theorem release_mem_units {body : Bytes} (hlong : maxFilterPendingBytes < body.length)
    (hlf : lf ∉ body) :
    ⟨.release, body, body.length - filterOverlapBytes⟩ ∈
      unitsOf (filterResponseStream filter [.ok body]) := by
  have hturn := turn_of_long_chunk [] body false hlong hlf
  unfold filterResponseStream
  rw [filterFrom_polled (turn_of_first_chunk body)]
  cases hout : filter.filterResponseBytes
      (⟨.release, body, body.length - filterOverlapBytes⟩ : FilterUnit).bytes with
  | ok out =>
      rw [filterFrom_cut_ok hturn hout]
      exact List.mem_cons_self
  | error fault =>
      rw [filterFrom_cut_error hturn hout]
      exact List.mem_cons_self

/-- The units of a long chunk without line feeds: a release, and what it keeps. -/
theorem units_of_long_chunk {body : Bytes}
    (hok : ∀ unit : FilterUnit, ∃ out, filter.filterResponseBytes unit.bytes = .ok out)
    (hlong : maxFilterPendingBytes < body.length) (hlf : lf ∉ body) :
    unitsOf (filterResponseStream filter [.ok body]) =
      [⟨.release, body, body.length - filterOverlapBytes⟩,
        ⟨.remaining, body.drop (body.length - filterOverlapBytes),
          (body.drop (body.length - filterOverlapBytes)).length⟩] := by
  have hturn := turn_of_long_chunk [] body false hlong hlf
  have hrest : (body.drop (body.length - filterOverlapBytes)).length = filterOverlapBytes := by
    unfold maxFilterPendingBytes at hlong
    unfold filterOverlapBytes
    rw [List.length_drop]
    omega
  have hlf' : lf ∉ body.drop (body.length - filterOverlapBytes) :=
    fun hmem => hlf (List.mem_of_mem_drop hmem)
  generalize body.drop (body.length - filterOverlapBytes) = rest at *
  have hshort : ¬ rest.length > maxFilterPendingBytes := by
    rw [hrest]
    decide
  have hne : rest.isEmpty = false := by
    cases rest with
    | nil => cases hrest
    | cons b rest => rfl
  -- the rest is short enough to wait for more, which does not come
  have hpoll : (⟨[], rest, false⟩ : FilterStreamState).turn = .polled ⟨[], rest, true⟩ := by
    unfold FilterStreamState.turn
    dsimp only
    rw [sseEventEnd_of_not_mem hlf']
    show (if _ then _ else _) = _
    rw [if_neg hshort]
    rfl
  -- at the end of the body it is cut off whole
  have hcut : (⟨[], rest, true⟩ : FilterStreamState).turn =
      .cut ⟨.remaining, rest, rest.length⟩ ⟨[], [], true⟩ := by
    unfold FilterStreamState.turn
    dsimp only
    rw [sseEventEnd_of_not_mem hlf']
    show (if _ then _ else _) = _
    rw [if_neg hshort, hne]
    unfold FilterStreamState.cut
    dsimp only
    rw [List.drop_length]
    rfl
  obtain ⟨out, hout⟩ := hok ⟨.release, body, body.length - filterOverlapBytes⟩
  obtain ⟨out', hout'⟩ := hok ⟨.remaining, rest, rest.length⟩
  unfold filterResponseStream
  rw [filterFrom_polled (turn_of_first_chunk body), filterFrom_cut_ok hturn hout,
    filterFrom_polled hpoll, filterFrom_cut_ok hcut hout', filterFrom_ended rfl]
  rfl

end Units

end OneAiKey
