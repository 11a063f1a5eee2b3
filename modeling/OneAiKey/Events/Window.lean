/-
  OneAiKey.Events.Window — the recent events that the log keeps in memory (`src/events.rs`).

  The log counts every event and retains the last ones.  A page of them is asked for by its
  position in the whole history; an offset before the retained part is moved to its
  beginning, and the page then keeps its full size:

    history      0  1  …  evicted  …  total - 1
    asked for       ├─────────┤
    returned              ├─────────┤

  Main results:
    * `eventWindow_retains` — the window is the end of the history, in every run;
    * `event_pages_exact_iff` — which pages hold the events of their positions, and when the
      pages together hold every retained event once.
-/
import OneAiKey.Events
import OneAiKey.Lib.SlidingWindow
import OneAiKey.Lib.TransitionSystem

namespace OneAiKey

/-! ## §1. The window. -/

structure EventLogInner where
  nextId : Nat
  totalEvents : Nat
  events : List ManagementEvent
  deriving DecidableEq, Repr

def boundedEventWindow (events : List ManagementEvent) (windowCapacity : Nat) :
    List ManagementEvent :=
  let retainFrom := events.length - windowCapacity
  events.drop retainFrom

def pushEventWindow (events : List ManagementEvent) (capacity : Nat) (event : ManagementEvent) :
    List ManagementEvent :=
  if capacity = 0 then events
  else
    let events := if events.length = capacity then events.tail else events
    events ++ [event]

namespace EventLogInner

/-- `open_with_window_capacity`, with the events that it has read. -/
def openWithWindowCapacity (events : List ManagementEvent) (windowCapacity : Nat) :
    EventLogInner where
  nextId := events.foldl (fun nextId event => max nextId event.id) 0
  totalEvents := events.length
  events := boundedEventWindow events windowCapacity

/-- `record_audit_event_now`; with a fault the event is not written to the file. -/
def recordAuditEventNow (windowCapacity : Nat) (inner : EventLogInner)
    (audit : ManagementAuditEvent) (createdAtUnixSeconds : Nat) (fault : Option String) :
    EventLogInner × Except String Unit :=
  let inner := { inner with nextId := inner.nextId + 1 }
  let event := audit.toEvent inner.nextId createdAtUnixSeconds
  match fault with
  | some message => (inner, .error message)
  | none =>
      ({ inner with
          totalEvents := inner.totalEvents + 1
          events := pushEventWindow inner.events windowCapacity event }, .ok ())

def windowBlocking (inner : EventLogInner) (offset limit : Nat) : Nat × List ManagementEvent :=
  let total := inner.totalEvents
  let retainedOffset := total - inner.events.length
  let localOffset := offset - retainedOffset
  (total, (inner.events.drop localOffset).take limit)

end EventLogInner

/-! ## §2. Runs. -/

/-- The log in memory beside the whole history that a replay reads. -/
structure WindowedLog where
  inner : EventLogInner
  log : EventLog
  deriving DecidableEq, Repr

/-- One attempt to record. -/
structure EventRecording where
  audit : ManagementAuditEvent
  createdAtUnixSeconds : Nat
  fault : Option String
  deriving DecidableEq, Repr

/-- The log is opened with any events, and records from then on. -/
def eventWindowSystem (windowCapacity : Nat) : TransitionSystem WindowedLog EventRecording where
  Init s := ∃ events,
    s.inner = .openWithWindowCapacity events windowCapacity ∧
      s.log = ⟨events.foldl (fun nextId event => max nextId event.id) 0, events⟩
  Step s recording s' :=
    s'.inner = (s.inner.recordAuditEventNow windowCapacity recording.audit
      recording.createdAtUnixSeconds recording.fault).1 ∧
    s'.log = (s.log.recordAuditEventNow recording.audit recording.createdAtUnixSeconds
      recording.fault).1

theorem pushEventWindow_eq (events : List ManagementEvent) (capacity : Nat)
    (event : ManagementEvent) :
    pushEventWindow events capacity event = SlidingWindow.push capacity events event := by
  unfold pushEventWindow SlidingWindow.push
  by_cases hzero : capacity = 0
  · rw [if_pos hzero, if_pos hzero]
  · rw [if_neg hzero, if_neg hzero]
    by_cases hfull : events.length = capacity
    · rw [if_pos hfull, if_pos hfull]
    · rw [if_neg hfull, if_neg hfull]

/-- The window is the end of the history. -/
structure WindowedLog.Retains (windowCapacity : Nat) (s : WindowedLog) : Prop where
  nextId : s.inner.nextId = s.log.nextId
  total : s.inner.totalEvents = s.log.recorded.length
  events : s.inner.events = s.log.recorded.rtake windowCapacity

theorem WindowedLog.Retains.step {windowCapacity : Nat} {s s' : WindowedLog}
    {recording : EventRecording} (h : s.Retains windowCapacity)
    (hstep : (eventWindowSystem windowCapacity).Step s recording s') :
    s'.Retains windowCapacity := by
  obtain ⟨hinner, hlog⟩ := hstep
  have hevent : recording.audit.toEvent (s.inner.nextId + 1) recording.createdAtUnixSeconds =
      recording.audit.toEvent (s.log.nextId + 1) recording.createdAtUnixSeconds := by
    rw [h.nextId]
  unfold EventLogInner.recordAuditEventNow at hinner
  unfold EventLog.recordAuditEventNow at hlog
  cases hfault : recording.fault with
  | some message =>
      -- only the id is taken
      rw [hfault] at hinner hlog
      constructor
      · rw [hinner, hlog]
        exact congrArg (· + 1) h.nextId
      · rw [hinner, hlog]
        exact h.total
      · rw [hinner, hlog]
        exact h.events
  | none =>
      rw [hfault] at hinner hlog
      constructor
      · rw [hinner, hlog]
        exact congrArg (· + 1) h.nextId
      · rw [hinner, hlog]
        show s.inner.totalEvents + 1 = (s.log.recorded ++ [_]).length
        rw [h.total, List.length_append, List.length_singleton]
      · rw [hinner, hlog]
        show pushEventWindow s.inner.events windowCapacity _ = (s.log.recorded ++ [_]).rtake _
        rw [pushEventWindow_eq, h.events, SlidingWindow.push_rtake, hevent]

theorem eventWindow_retains {windowCapacity : Nat} {s : WindowedLog}
    (h : (eventWindowSystem windowCapacity).Reachable s) : s.Retains windowCapacity := by
  refine h.invariant ?_ ?_
  · rintro s ⟨events, hinner, hlog⟩
    constructor
    · rw [hinner, hlog]
      rfl
    · rw [hinner, hlog]
      rfl
    · rw [hinner, hlog]
      rfl
  · exact fun s recording s' hs hstep => hs.step hstep

/-! ## §3. Pages. -/

namespace WindowedLog

/-- How many events of the history are not retained any more. -/
def evicted (s : WindowedLog) : Nat := s.log.recorded.length - s.inner.events.length

/-- The retained events whose position in the whole history lies from `offset` on and before
`stop`. -/
def retainedBetween (s : WindowedLog) (offset stop : Nat) : List ManagementEvent :=
  ((s.log.recorded.zipIdx.drop s.evicted).filter fun entry =>
    decide (offset ≤ entry.2) && decide (entry.2 < stop)).map (·.1)

variable {windowCapacity : Nat} {s : WindowedLog}

/-- What is behind the evicted events is retained. -/
theorem Retains.drop_evicted (h : s.Retains windowCapacity) :
    s.log.recorded.drop s.evicted = s.inner.events := by
  unfold evicted
  rw [h.events]
  unfold List.rtake
  rw [List.length_drop]
  refine congrArg (List.drop · s.log.recorded) ?_
  omega

theorem Retains.retainedBetween_eq (h : s.Retains windowCapacity) (offset stop : Nat) :
    s.retainedBetween offset stop =
      SlidingWindow.between s.evicted offset stop s.inner.events := by
  unfold retainedBetween SlidingWindow.between
  rw [← h.drop_evicted, SlidingWindow.drop_zipIdx, Nat.zero_add]

theorem Retains.length_retained (h : s.Retains windowCapacity) :
    s.evicted + s.inner.events.length = s.log.recorded.length := by
  have hlength := congrArg List.length h.drop_evicted
  rw [List.length_drop] at hlength
  unfold evicted at hlength ⊢
  omega

theorem Retains.windowBlocking_eq (h : s.Retains windowCapacity) (offset limit : Nat) :
    s.inner.windowBlocking offset limit =
      (s.log.recorded.length, SlidingWindow.page s.evicted offset limit s.inner.events) := by
  unfold EventLogInner.windowBlocking SlidingWindow.page evicted
  rw [h.total]

end WindowedLog

/-- **A page** holds the retained events of its positions exactly if it does not begin before
them, is empty, nothing is retained, or it reaches to the end; **the pages together** hold every
retained event once exactly if nothing was evicted, nothing is retained, or the first page
reaches to the end. -/
theorem event_pages_exact_iff {windowCapacity : Nat} {s : WindowedLog}
    (h : (eventWindowSystem windowCapacity).Reachable s) :
    (∀ offset limit,
      s.inner.windowBlocking offset limit =
          (s.log.recorded.length, s.retainedBetween offset (offset + limit)) ↔
        s.evicted ≤ offset ∨ limit = 0 ∨ s.inner.events = [] ∨
          s.log.recorded.length ≤ offset + limit) ∧
    ∀ limit, 1 ≤ limit → ∀ pages, s.log.recorded.length ≤ pages * limit →
      (((List.range pages).flatMap fun i =>
          (s.inner.windowBlocking (i * limit) limit).2).Perm s.inner.events ↔
        s.evicted = 0 ∨ s.inner.events = [] ∨ s.log.recorded.length ≤ limit) := by
  have hretains := eventWindow_retains h
  have hlength := hretains.length_retained
  constructor
  · intro offset limit
    rw [hretains.windowBlocking_eq, hretains.retainedBetween_eq, Prod.mk_right_inj,
      SlidingWindow.page_eq_between_iff, hlength]
  · intro limit hlimit pages hpages
    rw [← hlength] at hpages ⊢
    have hpage : ∀ i, (s.inner.windowBlocking (i * limit) limit).2 =
        SlidingWindow.page s.evicted (i * limit) limit s.inner.events := by
      intro i
      rw [hretains.windowBlocking_eq]
    simp only [hpage]
    exact SlidingWindow.flatMap_page_perm_iff hlimit hpages

/-! Three events in a window of two. -/

def expiry (credentialId : String) : EventRecording :=
  ⟨eventAudit "credential_expired" "channel-a" credentialId none, 0, none⟩

def recordAll (windowCapacity : Nat) (recordings : List EventRecording) : WindowedLog :=
  recordings.foldl (fun s recording =>
    ⟨(s.inner.recordAuditEventNow windowCapacity recording.audit recording.createdAtUnixSeconds
        recording.fault).1,
      (s.log.recordAuditEventNow recording.audit recording.createdAtUnixSeconds
        recording.fault).1⟩) ⟨.openWithWindowCapacity [] windowCapacity, ⟨0, []⟩⟩

theorem recordAll_reachable (windowCapacity : Nat) (recordings : List EventRecording) :
    (eventWindowSystem windowCapacity).Reachable (recordAll windowCapacity recordings) := by
  -- from any reachable state on
  have hfold : ∀ (recordings : List EventRecording) (s : WindowedLog),
      (eventWindowSystem windowCapacity).Reachable s →
      (eventWindowSystem windowCapacity).Reachable (recordings.foldl (fun s recording =>
        ⟨(s.inner.recordAuditEventNow windowCapacity recording.audit
            recording.createdAtUnixSeconds recording.fault).1,
          (s.log.recordAuditEventNow recording.audit recording.createdAtUnixSeconds
            recording.fault).1⟩) s) := by
    intro recordings
    induction recordings with
    | nil => exact fun s hs => hs
    | cons recording recordings ih =>
        intro s hs
        have hstep : (eventWindowSystem windowCapacity).Step s recording
            ⟨(s.inner.recordAuditEventNow windowCapacity recording.audit
                recording.createdAtUnixSeconds recording.fault).1,
              (s.log.recordAuditEventNow recording.audit recording.createdAtUnixSeconds
                recording.fault).1⟩ := ⟨rfl, rfl⟩
        exact ih _ (hs.step hstep)
  exact hfold recordings _ (.init ⟨[], rfl, rfl⟩)

def threeExpiries : List EventRecording := [expiry "one", expiry "two", expiry "three"]

/-- Two of three events are retained. The page behind the dropped one is exact, but pages of one
event each do not make up the retained events: the one at offset 0 begins with the oldest retained
event, and so does the one at offset 1. -/
theorem event_pages_exact_iff_three :
    (recordAll 2 threeExpiries).inner.windowBlocking 1 1 =
        (3, (recordAll 2 threeExpiries).retainedBetween 1 2) ∧
      ¬ ((List.range 3).flatMap fun i =>
        ((recordAll 2 threeExpiries).inner.windowBlocking (i * 1) 1).2).Perm
          (recordAll 2 threeExpiries).inner.events := by
  obtain ⟨hpage, hpages⟩ := event_pages_exact_iff (recordAll_reachable 2 threeExpiries)
  constructor
  · exact (hpage 1 1).mpr (Or.inl (by decide))
  · intro hperm
    have hexact := (hpages 1 (Nat.le_refl 1) 3 (by decide)).mp hperm
    exact absurd hexact (by decide)

/-- The page at offset 0 holds the event at position 1, and so does the page at offset 1. -/
theorem page_before_window_holds_later_event :
    (eventWindowSystem 2).Reachable (recordAll 2 threeExpiries) ∧
      (recordAll 2 threeExpiries).retainedBetween 0 1 = [] ∧
      ((recordAll 2 threeExpiries).inner.windowBlocking 0 1).2.map (·.credentialId) = ["two"] ∧
      ((recordAll 2 threeExpiries).inner.windowBlocking 1 1).2.map (·.credentialId) =
        ["two"] ∧
      ¬ (recordAll 2 threeExpiries).inner.windowBlocking 0 1 =
        ((recordAll 2 threeExpiries).log.recorded.length,
          (recordAll 2 threeExpiries).retainedBetween 0 1) := by
  refine ⟨recordAll_reachable 2 threeExpiries, ?_, ?_, ?_, ?_⟩
  · decide
  · decide
  · decide
  · decide

end OneAiKey
