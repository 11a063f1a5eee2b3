/-
  OneAiKey.Events.Rings — the two event rings in memory (`src/events.rs`).

  `ResponseFilterEventBuffer` gives its events an id and a time, `RoutingTelemetryBuffer`
  takes them as they are; apart from that the two work alike, and both may be given a
  new capacity at any time.  Each is shown to be a `BoundedRing`, and the account of a run
  is then that of the ring.  What `VecDeque` allocates, and fails to, is left out.

  The counters stop at 2^64 - 1.  The ids are the number of the accepted event as long as
  that fits, and repeat the last one from there on.

  Main results:
    * `IdsFollow` — the ids of a filter ring, kept by every operation;
    * `event_rings_account_for_every_event` — both rings, over every sequence of operations.
-/
import OneAiKey.FilterStream
import OneAiKey.Lib.BoundedRing

namespace OneAiKey

/-! ## §1. The buffers. -/

/-- `u64::MAX`, where the counters stop. -/
def u64Max : Nat := 2 ^ 64 - 1

/-- An event of the filter as it is kept. -/
structure ResponseFilterEvent where
  eventId : Nat
  createdAtUnixSeconds : Nat
  requestId : String
  channelId : String
  publicModel : String
  ruleId : String
  action : String
  contentKind : String
  reasonCode : String
  outcome : String
  bodyCommitted : Bool
  deriving DecidableEq, Repr

/-- The newest events of the filter, and a count of those that are gone. -/
structure ResponseFilterEventBuffer where
  capacity : Nat
  droppedEvents : Nat
  nextId : Nat
  events : List ResponseFilterEvent
  deriving DecidableEq, Repr

/-- The event that a push makes of its input. -/
def ResponseFilterEventInput.event (input : ResponseFilterEventInput)
    (eventId createdAtUnixSeconds : Nat) : ResponseFilterEvent where
  eventId := eventId
  createdAtUnixSeconds := createdAtUnixSeconds
  requestId := input.requestId
  channelId := input.channelId
  publicModel := input.publicModel
  ruleId := input.ruleId
  action := input.action
  contentKind := input.contentKind
  reasonCode := input.reasonCode
  outcome := input.outcome
  bodyCommitted := input.bodyCommitted

namespace ResponseFilterEventBuffer

def new (capacity : Nat) : ResponseFilterEventBuffer where
  capacity := capacity
  droppedEvents := 0
  nextId := 0
  events := []

/-- Count dropped events; the count stays at the greatest number. -/
def recordDroppedEvents (b : ResponseFilterEventBuffer) (dropped : Nat) :
    ResponseFilterEventBuffer :=
  { b with droppedEvents := saturatingAdd b.droppedEvents dropped }

/-- Count a dropped event. -/
def recordDroppedEvent (b : ResponseFilterEventBuffer) : ResponseFilterEventBuffer :=
  b.recordDroppedEvents 1

/-- Keep an event; the oldest makes room for it. -/
def pushAtUnixSeconds (b : ResponseFilterEventBuffer) (input : ResponseFilterEventInput)
    (createdAtUnixSeconds : Nat) : ResponseFilterEventBuffer × Option ResponseFilterEvent :=
  if b.capacity = 0 then (b.recordDroppedEvent, none)
  else
    let b := { b with nextId := saturatingAdd b.nextId 1 }
    let event := input.event b.nextId createdAtUnixSeconds
    let b :=
      if b.events.length = b.capacity then
        ({ b with events := b.events.tail } : ResponseFilterEventBuffer).recordDroppedEvent
      else b
    ({ b with events := b.events ++ [event] }, some event)

/-- A length that does not fit 64 bits is reported as the largest number that does. -/
def replaceCapacity (b : ResponseFilterEventBuffer) (capacity : Nat) :
    ResponseFilterEventBuffer :=
  let dropped := b.events.length - capacity
  let b := b.recordDroppedEvents (min dropped u64Max)
  { b with
    capacity := capacity
    events := BoundedRing.popFrontTo capacity b.events }

def ring (b : ResponseFilterEventBuffer) : BoundedRing ResponseFilterEvent :=
  ⟨b.capacity, b.droppedEvents, b.events⟩

end ResponseFilterEventBuffer

/-- The buffer never looks into its events. -/
structure RoutingTelemetryBuffer (Telemetry : Type) where
  capacity : Nat
  droppedEvents : Nat
  events : List Telemetry
  deriving DecidableEq, Repr

namespace RoutingTelemetryBuffer

variable {Telemetry : Type}

def new (capacity : Nat) : RoutingTelemetryBuffer Telemetry where
  capacity := capacity
  droppedEvents := 0
  events := []

def recordDroppedEvents (b : RoutingTelemetryBuffer Telemetry) (dropped : Nat) :
    RoutingTelemetryBuffer Telemetry :=
  { b with droppedEvents := saturatingAdd b.droppedEvents dropped }

def recordDroppedEvent (b : RoutingTelemetryBuffer Telemetry) :
    RoutingTelemetryBuffer Telemetry := b.recordDroppedEvents 1

/-- Keep an entry; the oldest makes room for it. -/
def push (b : RoutingTelemetryBuffer Telemetry) (event : Telemetry) :
    RoutingTelemetryBuffer Telemetry :=
  if b.capacity = 0 then b.recordDroppedEvent
  else
    let b :=
      if b.events.length = b.capacity then
        ({ b with events := b.events.tail } : RoutingTelemetryBuffer Telemetry).recordDroppedEvent
      else b
    { b with events := b.events ++ [event] }

def replaceCapacity (b : RoutingTelemetryBuffer Telemetry) (capacity : Nat) :
    RoutingTelemetryBuffer Telemetry :=
  let dropped := b.events.length - capacity
  let b := b.recordDroppedEvents (min dropped u64Max)
  { b with
    capacity := capacity
    events := BoundedRing.popFrontTo capacity b.events }

def ring (b : RoutingTelemetryBuffer Telemetry) : BoundedRing Telemetry :=
  ⟨b.capacity, b.droppedEvents, b.events⟩

end RoutingTelemetryBuffer

/-! ## §2. Both are rings. -/

/-- The length that a counter takes up is cut off at the ceiling anyway. -/
theorem saturatingAdd_min (count dropped : Nat) :
    saturatingAdd count (min dropped u64Max) = min (count + dropped) u64Max := by
  unfold saturatingAdd u64Max
  omega

namespace ResponseFilterEventBuffer

theorem ring_replaceCapacity (b : ResponseFilterEventBuffer) (capacity : Nat) :
    (b.replaceCapacity capacity).ring = b.ring.setCapacity u64Max capacity := by
  unfold replaceCapacity recordDroppedEvents ring BoundedRing.setCapacity BoundedRing.lose
  dsimp only
  rw [saturatingAdd_min, BoundedRing.popFrontTo_eq]

theorem ring_push (b : ResponseFilterEventBuffer) (input : ResponseFilterEventInput)
    (now : Nat) :
    (b.pushAtUnixSeconds input now).1.ring =
      b.ring.push u64Max (input.event (saturatingAdd b.nextId 1) now) := by
  unfold pushAtUnixSeconds
  by_cases hzero : b.capacity = 0
  · rw [if_pos hzero]
    exact (BoundedRing.push_of_zero (r := b.ring) hzero _).symm
  · rw [if_neg hzero]
    by_cases hfull : b.events.length = b.capacity
    · dsimp only
      rw [if_pos hfull]
      exact (BoundedRing.push_of_full (r := b.ring) hzero hfull _).symm
    · dsimp only
      rw [if_neg hfull]
      exact (BoundedRing.push_of_room (r := b.ring) hzero hfull _).symm

theorem push_returns (b : ResponseFilterEventBuffer) (input : ResponseFilterEventInput)
    (now : Nat) :
    (b.pushAtUnixSeconds input now).2 =
      if b.capacity = 0 then none else some (input.event (saturatingAdd b.nextId 1) now) := by
  unfold pushAtUnixSeconds
  split <;> rfl

end ResponseFilterEventBuffer

/-- The filter ring, with the time of each push as part of its input. -/
def responseFilterRing : BoundedRing.Implementation ResponseFilterEventBuffer
    (ResponseFilterEventInput × Nat) ResponseFilterEvent u64Max where
  ring := ResponseFilterEventBuffer.ring
  event b input := input.1.event (saturatingAdd b.nextId 1) input.2
  push b input := b.pushAtUnixSeconds input.1 input.2
  replaceCapacity := ResponseFilterEventBuffer.replaceCapacity
  recordDroppedEvents := ResponseFilterEventBuffer.recordDroppedEvents
  ring_push b input := b.ring_push input.1 input.2
  push_returns b input := b.push_returns input.1 input.2
  ring_replaceCapacity b capacity := b.ring_replaceCapacity capacity
  ring_recordDroppedEvents _ _ := rfl

namespace RoutingTelemetryBuffer

variable {Telemetry : Type}

theorem ring_replaceCapacity (b : RoutingTelemetryBuffer Telemetry) (capacity : Nat) :
    (b.replaceCapacity capacity).ring = b.ring.setCapacity u64Max capacity := by
  unfold replaceCapacity recordDroppedEvents ring BoundedRing.setCapacity BoundedRing.lose
  dsimp only
  rw [saturatingAdd_min, BoundedRing.popFrontTo_eq]

theorem ring_push (b : RoutingTelemetryBuffer Telemetry) (event : Telemetry) :
    (b.push event).ring = b.ring.push u64Max event := by
  unfold push
  by_cases hzero : b.capacity = 0
  · rw [if_pos hzero]
    exact (BoundedRing.push_of_zero (r := b.ring) hzero _).symm
  · rw [if_neg hzero]
    by_cases hfull : b.events.length = b.capacity
    · rw [if_pos hfull]
      exact (BoundedRing.push_of_full (r := b.ring) hzero hfull _).symm
    · rw [if_neg hfull]
      exact (BoundedRing.push_of_room (r := b.ring) hzero hfull _).symm

end RoutingTelemetryBuffer

/-- The telemetry ring.  A push returns nothing; it accepts its event at a capacity
above 0. -/
def routingTelemetryRing (Telemetry : Type) : BoundedRing.Implementation
    (RoutingTelemetryBuffer Telemetry) Telemetry Telemetry u64Max where
  ring := RoutingTelemetryBuffer.ring
  event _ event := event
  push b event := (b.push event, if b.capacity = 0 then none else some event)
  replaceCapacity := RoutingTelemetryBuffer.replaceCapacity
  recordDroppedEvents := RoutingTelemetryBuffer.recordDroppedEvents
  ring_push b event := b.ring_push event
  push_returns _ _ := rfl
  ring_replaceCapacity b capacity := b.ring_replaceCapacity capacity
  ring_recordDroppedEvents _ _ := rfl

/-! ## §3. The ids of the filter ring. -/

/-- The ids that a filter ring gives to its first events. -/
def idsUpTo (count : Nat) : List Nat := (List.range count).map fun i => min (i + 1) u64Max

theorem pairwise_idsUpTo_iff (count : Nat) :
    (idsUpTo count).Pairwise (· < ·) ↔ count ≤ u64Max := by
  unfold idsUpTo
  rw [List.pairwise_map]
  constructor
  · intro h
    by_contra hover
    -- the last id that fits is given twice
    rw [List.pairwise_iff_getElem] at h
    have hmax : 0 < u64Max := by decide
    have hlt := h (u64Max - 1) u64Max (by rw [List.length_range]; omega)
      (by rw [List.length_range]; omega) (by omega)
    rw [List.getElem_range, List.getElem_range] at hlt
    omega
  · intro hfits
    -- none of these ids reaches the ceiling before the last one
    refine List.pairwise_lt_range.imp_of_mem ?_
    intro i j _ hj hij
    rw [List.mem_range] at hj
    omega

/-- The ids given so far, and the one given last. -/
def IdsFollow (s : ResponseFilterEventBuffer × List ResponseFilterEvent) : Prop :=
  s.2.map (·.eventId) = idsUpTo s.2.length ∧ s.1.nextId = min s.2.length u64Max

theorem IdsFollow.step {s : ResponseFilterEventBuffer × List ResponseFilterEvent}
    (op : BoundedRing.Op (ResponseFilterEventInput × Nat)) (h : IdsFollow s) :
    IdsFollow (responseFilterRing.step s op) := by
  obtain ⟨hids, hnext⟩ := h
  cases op with
  | push input =>
      show IdsFollow ((s.1.pushAtUnixSeconds input.1 input.2).1,
        s.2 ++ (s.1.pushAtUnixSeconds input.1 input.2).2.toList)
      rw [ResponseFilterEventBuffer.push_returns]
      unfold ResponseFilterEventBuffer.pushAtUnixSeconds
      by_cases hzero : s.1.capacity = 0
      · rw [if_pos hzero, if_pos hzero, Option.toList_none, List.append_nil]
        exact ⟨hids, hnext⟩
      · rw [if_neg hzero, if_neg hzero, Option.toList_some]
        -- the next id is the number of the event, until the counter stops
        have hid : saturatingAdd s.1.nextId 1 = min (s.2.length + 1) u64Max := by
          rw [hnext]
          exact BoundedRing.min_add_min s.2.length 1 u64Max
        refine ⟨?_, ?_⟩
        · show (s.2 ++ [_]).map _ = idsUpTo (s.2 ++ [_]).length
          rw [List.map_append, hids, List.length_append, List.length_singleton]
          unfold idsUpTo
          rw [List.range_succ, List.map_append, List.map_singleton, List.map_singleton, ← hid]
          rfl
        · rw [List.length_append, List.length_singleton, ← hid]
          dsimp only
          split <;> rfl
  | replaceCapacity capacity => exact ⟨hids, hnext⟩
  | recordDroppedEvents dropped => exact ⟨hids, hnext⟩

/-! ## §4. Runs. -/

/-- What both rings promise after a sequence of operations. -/
structure RingAccounts {ι α : Type} (initial : Nat) (ops : List (BoundedRing.Op ι))
    (r : BoundedRing α) (accepted : List α) : Prop where
  /-- The retained events are the last accepted ones, in order. -/
  retained_suffix : r.events <:+ accepted
  capacity_eq : r.capacity = BoundedRing.Op.capacityAfter initial ops
  length_le : r.events.length ≤ r.capacity
  retained_le : r.events.length ≤ BoundedRing.Op.pushes ops
  dropped_eq : r.dropped =
    min (BoundedRing.Op.pushes ops - r.events.length + BoundedRing.Op.reported ops) u64Max
  /-- Without losses from outside, and below the ceiling, nothing is missing. -/
  conserved : BoundedRing.Op.reported ops = 0 → BoundedRing.Op.pushes ops ≤ u64Max →
    r.events.length + r.dropped = BoundedRing.Op.pushes ops

theorem ringAccounts_run {σ ι α : Type} (impl : BoundedRing.Implementation σ ι α u64Max) {s : σ}
    {initial : Nat} (hs : impl.ring s = ⟨initial, 0, []⟩) (ops : List (BoundedRing.Op ι)) :
    RingAccounts initial ops (impl.ring (impl.run s ops).1) (impl.run s ops).2 := by
  have h := impl.run_accounts hs ops
  have hcapacity := impl.capacity_foldl ops (s, [])
  rw [hs] at hcapacity
  refine ⟨h.suffix, hcapacity, h.bounded, h.retained_le, h.counted, ?_⟩
  intro hreported hpushes
  -- the counter has not stopped, so the subtraction is exact
  have hle := h.retained_le
  rw [h.counted, hreported]
  omega

/-- Both rings, over every sequence of pushes, capacity changes and reported losses, account
for every event; the ids of the filter ring increase as long as they fit, and a push that
returns an event retains it as the last one. -/
theorem event_rings_account_for_every_event (initial : Nat) :
    (∀ ops : List (BoundedRing.Op (ResponseFilterEventInput × Nat)),
      let run := responseFilterRing.run (.new initial) ops
      RingAccounts initial ops run.1.ring run.2 ∧
      ((run.2.map (·.eventId)).Pairwise (· < ·) ↔ run.2.length ≤ u64Max) ∧
      (run.2.length ≤ u64Max → (run.1.events.map (·.eventId)).Pairwise (· < ·)) ∧
      ∀ input now event, (run.1.pushAtUnixSeconds input now).2 = some event →
        (run.1.pushAtUnixSeconds input now).1.events.getLast? = some event) ∧
    ∀ (Telemetry : Type) (ops : List (BoundedRing.Op Telemetry)),
      let run := (routingTelemetryRing Telemetry).run (.new initial) ops
      RingAccounts initial ops run.1.ring run.2 := by
  refine ⟨?_, fun Telemetry ops => ringAccounts_run (routingTelemetryRing Telemetry) rfl ops⟩
  intro ops run
  have haccounts := ringAccounts_run responseFilterRing (s := .new initial) rfl ops
  have hids : IdsFollow run := responseFilterRing.foldl_invariant
    (fun s op h => h.step op) ops (s := (.new initial, [])) ⟨rfl, rfl⟩
  have hincreasing : (run.2.map (·.eventId)).Pairwise (· < ·) ↔ run.2.length ≤ u64Max := by
    rw [hids.1]
    exact pairwise_idsUpTo_iff run.2.length
  refine ⟨haccounts, hincreasing, ?_, ?_⟩
  · intro hfits
    exact (hincreasing.mpr hfits).sublist (haccounts.retained_suffix.sublist.map _)
  · intro input now event hevent
    rw [ResponseFilterEventBuffer.push_returns] at hevent
    by_cases hzero : run.1.capacity = 0
    · rw [if_pos hzero] at hevent
      cases hevent
    · rw [if_neg hzero] at hevent
      unfold ResponseFilterEventBuffer.pushAtUnixSeconds
      rw [if_neg hzero, ← hevent]
      exact List.getLast?_concat

/-- A full ring that shrinks and is pushed to again: five pushes, one retained. -/
theorem event_rings_account_for_every_event_shrunk :
    let input : ResponseFilterEventInput :=
      ⟨"req-1", "main", "gpt", "rule", "redact", "json", "matched", "redacted", false⟩
    let ops := [.push (input, 1), .push (input, 2), .push (input, 3), .replaceCapacity 1,
      .push (input, 4)]
    let run := responseFilterRing.run (.new 2) ops
    run.1.events = [input.event 4 4] ∧ run.1.droppedEvents = 3 ∧
      run.1.events.length + run.1.droppedEvents = BoundedRing.Op.pushes ops ∧
      (run.2.map (·.eventId)).Pairwise (· < ·) ∧
      (run.1.pushAtUnixSeconds input 5).1.events.getLast? = some (input.event 5 5) := by
  intro input ops run
  obtain ⟨haccounts, hids, -, hretained⟩ := (event_rings_account_for_every_event 2).1 ops
  exact ⟨by decide, by decide, haccounts.conserved rfl (by decide), hids.mpr (by decide),
    hretained input 5 _ (by decide)⟩

end OneAiKey
