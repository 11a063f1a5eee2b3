/-
  OneAiKey.ChannelHealth.Generations — one channel, its requests in flight, and
  the operator (`src/state.rs`, `src/failure_state_executor.rs`,
  `src/management_resources.rs`).

  A selection records the generation of the channel's health.  A report of a
  failure changes the health under the mutation gate, and only while the
  generation is still that one.  A success asks for neither: it makes the channel
  available whatever has happened since its request was selected.  An operator
  command writes the health and then counts the generation; it holds the mutation
  gate meanwhile, so only a success can come between.

  Main results:
    * `health_applyStateMutation` — all that a report can do to the health;
    * `respects_iff` — one step keeps the rules of the generations just when it
      does not lift a cooldown;
    * `generations_respected_iff` — and so for a whole run.
-/
import OneAiKey.ChannelHealth.Soft

namespace OneAiKey

/-! ## §1. The system. -/

/-- The operator's commands on the health of a channel. -/
inductive HealthCommand where
  | disable (reason : String)
  | enable
  | reset
  deriving DecidableEq, Repr

/-- A reset of a disabled channel is refused. -/
def HealthCommand.accepted (channel : ChannelRuntime) : HealthCommand → Bool
  | disable _ => true
  | enable => true
  | reset => !channel.health.isDisabled

def HealthCommand.write (channel : ChannelRuntime) : HealthCommand → ChannelRuntime
  | disable reason => { channel with health := .disabled reason }
  | enable => { channel with health := .available }
  | reset => { channel with health := .available, relaySuppressionCount := 0 }

structure GuardedChannel where
  channel : ChannelRuntime
  /-- The generation at which each request was selected. -/
  selectedAt : Nat → Option Nat
  /-- A command has written the health, and not yet counted the generation. -/
  counting : Bool
  /-- The generation at which the last cooldown was installed. -/
  installedAt : Nat
  /-- The last clock value anyone has read. -/
  clock : Instant

inductive GuardedEvent where
  | select (request : Nat) (now : Instant)
  | report (request : Nat) (state : MutationState) (snapshot : RequestSelectionSnapshot)
      (mutation : StateMutation) (r : Readings)
  | success (request : Nat) (now : Instant)
  | writeHealth (command : HealthCommand) (now : Instant)
  | countGeneration (now : Instant)

namespace GuardedEvent

/-- The clock when the event changes the channel. -/
def time : GuardedEvent → Instant
  | select _ now | success _ now | writeHealth _ now | countGeneration now => now
  | report _ _ _ _ r => r.first

def IsOperator : GuardedEvent → Prop
  | writeHealth _ _ | countGeneration _ => True
  | select _ _ | report _ _ _ _ _ | success _ _ => False

end GuardedEvent

/-- The generation that a cooldown that a report has installed belongs to. -/
def installedAfter (before after : ChannelRuntime) (installedAt : Nat) : Nat :=
  if before.channelHealthGeneration < after.channelHealthGeneration then
    before.channelHealthGeneration
  else installedAt

/-- What an event needs, and what it does.  Between the write of a command's health and the
count of its generation there is no selection, no report and no other command, as all of these
take the gate; a success does not, and may come in between. -/
def GuardedChannel.Step (s : GuardedChannel) (event : GuardedEvent) (s' : GuardedChannel) :
    Prop :=
  s.clock ≤ event.time ∧
  match event with
  | .select request now =>
      s.counting = false ∧
      s' = { s with
        selectedAt := Function.update s.selectedAt request
          (some s.channel.channelHealthGeneration)
        clock := now }
  | .report request state snapshot mutation r =>
      s.counting = false ∧ state.channel = s.channel ∧
      s.selectedAt request = some snapshot.channelHealthGeneration ∧
      s' = { s with
        channel := (applyStateMutation state snapshot r mutation).channel
        installedAt := installedAfter s.channel
          (applyStateMutation state snapshot r mutation).channel s.installedAt
        clock := r.third }
  | .success request now =>
      (s.selectedAt request).isSome ∧
      s' = { s with channel := s.channel.recordSelectedChannelSuccess, clock := now }
  | .writeHealth command now =>
      s.counting = false ∧ command.accepted s.channel = true ∧
      s' = { s with channel := command.write s.channel, counting := true, clock := now }
  | .countGeneration now =>
      s.counting = true ∧
      s' = { s with
        channel := { s.channel with
          channelHealthGeneration := s.channel.channelHealthGeneration + 1 }
        counting := false
        clock := now }

/-- A new channel without requests, and then any events. -/
def guardedSystem : TransitionSystem GuardedChannel GuardedEvent where
  Init s := ∃ poolState configuredEnabled accountEnabled,
    s.channel = .fromPoolState poolState configuredEnabled accountEnabled ∧
    s.selectedAt = (fun _ => none) ∧ s.counting = false ∧ s.installedAt = 0
  Step s event s' := s.Step event s'

/-! ## §2. The rules. -/

/-- A cooldown that lasts at least until `untilInstant`. -/
def CoolsUntil (health : ChannelHealth) (untilInstant : Instant) : Prop :=
  ∃ later reason, health = .coolingDown later reason ∧ untilInstant ≤ later

/-- The event finds a cooldown that lasts, and leaves one that ends earlier, or none. -/
def Lifts (s : GuardedChannel) (event : GuardedEvent) (s' : GuardedChannel) : Prop :=
  ∃ untilInstant reason, s.channel.health = .coolingDown untilInstant reason ∧
    event.time < untilInstant ∧ ¬ CoolsUntil s'.channel.health untilInstant

structure Respects (s : GuardedChannel) (event : GuardedEvent) (s' : GuardedChannel) : Prop where
  /-- A report of an older generation changes nothing. -/
  stale : ∀ request state snapshot mutation r,
    event = .report request state snapshot mutation r →
    snapshot.channelHealthGeneration < s.channel.channelHealthGeneration →
    s'.channel = s.channel
  /-- Only the operator changes a disabled channel. -/
  disabled : s.channel.health.isDisabled = true → s'.channel.health ≠ s.channel.health →
    event.IsOperator
  /-- A cooldown is lifted by the operator, or by the success of a request that was
  selected after it was installed. -/
  window : Lifts s event s' →
    event.IsOperator ∨ ∃ request now generation, event = .success request now ∧
      s.selectedAt request = some generation ∧ s.installedAt < generation

/-! ## §3. What a report does. -/

/-- The health that an automatic transition of this mutation installs.  A relay
suppression is not one: it looks at the health first. -/
def StateMutation.transitionHealth : StateMutation → Option ChannelHealth
  | .markProviderAccountChannelCoolingDownOrDegraded _ _ _ (some untilInstant) reason =>
      some (.coolingDown untilInstant (reasonText reason))
  | .markProviderAccountChannelCoolingDownOrDegraded _ _ _ none reason =>
      some (.degraded (reasonText reason))
  | .markChannelCoolingDown _ untilInstant reason =>
      some (.coolingDown untilInstant (reasonText reason))
  | _ => none

theorem applyCredentialMutation_channel (s : MutationState) (credentialId : CredentialId)
    (r : Readings) (op : Instant → KeyPool → KeyPool) :
    (applyCredentialMutation s credentialId r op).1.channel = s.channel := by
  unfold applyCredentialMutation
  dsimp only
  split <;> rfl

theorem enqueueAutomaticLifecyclePersistence_channel (result : MutationState × Bool)
    (request : AutomaticLifecyclePersistenceRequest) :
    (enqueueAutomaticLifecyclePersistence result request).channel = result.1.channel := by
  unfold enqueueAutomaticLifecyclePersistence
  split <;> rfl

/-- All that a report can do to the channel: nothing, an automatic transition, or a
suppression that finds no cooldown that lasts. -/
theorem health_applyStateMutation (s : MutationState) (snapshot : RequestSelectionSnapshot)
    (r : Readings) (mutation : StateMutation) :
    (applyStateMutation s snapshot r mutation).channel = s.channel ∧
        (∀ health, mutation.transitionHealth = some health →
          s.channel.health.isDisabled = true ∨
            s.channel.channelHealthGeneration ≠ snapshot.channelHealthGeneration) ∨
      s.channel.health.isDisabled = false ∧
        s.channel.channelHealthGeneration = snapshot.channelHealthGeneration ∧
        ((∃ health, mutation.transitionHealth = some health ∧
            (applyStateMutation s snapshot r mutation).channel.health = health) ∨
          mutation.transitionHealth = none ∧
            ∀ later text, s.channel.health = .coolingDown later text → later ≤ r.first) := by
  have hcredential : ∀ channel : ChannelRuntime, mutation.transitionHealth = none →
      channel = s.channel → channel = s.channel ∧
        ∀ health, mutation.transitionHealth = some health →
          s.channel.health.isDisabled = true ∨
            s.channel.channelHealthGeneration ≠ snapshot.channelHealthGeneration := by
    intro channel hnone heq
    refine ⟨heq, ?_⟩
    intro health hsome
    rw [hnone] at hsome
    cases hsome
  -- an automatic transition, whichever health it brings
  have htransition : ∀ (health : ChannelHealth) (channel : ChannelRuntime),
      mutation.transitionHealth = some health →
      channel = (s.channel.applyAutomaticChannelHealthTransition
        snapshot.channelHealthGeneration health).1 →
      channel = s.channel ∧ (∀ health, mutation.transitionHealth = some health →
          s.channel.health.isDisabled = true ∨
            s.channel.channelHealthGeneration ≠ snapshot.channelHealthGeneration) ∨
        s.channel.health.isDisabled = false ∧
          s.channel.channelHealthGeneration = snapshot.channelHealthGeneration ∧
          ((∃ health, mutation.transitionHealth = some health ∧ channel.health = health) ∨
            mutation.transitionHealth = none ∧
              ∀ later text, s.channel.health = .coolingDown later text → later ≤ r.first) := by
    intro health channel hhealth hchannel
    rcases s.channel.applyAutomaticChannelHealthTransition_cases
      snapshot.channelHealthGeneration health with ⟨hsame, hwhy⟩ | ⟨hdisabled, hgen, hnew⟩
    · exact Or.inl ⟨hchannel.trans hsame, fun _ _ => hwhy⟩
    · refine Or.inr ⟨hdisabled, hgen, Or.inl ⟨health, hhealth, ?_⟩⟩
      rw [hchannel, hnew]
  cases mutation with
  | noop reason => exact Or.inl (hcredential _ rfl rfl)
  | markCredentialCoolingDown channelId credentialId untilInstant reason =>
      exact Or.inl (hcredential _ rfl (applyCredentialMutation_channel _ _ _ _))
  | expireCredential channelId credentialId reason
  | markCredentialQuotaExhausted channelId credentialId reason =>
      refine Or.inl (hcredential _ rfl ?_)
      exact (enqueueAutomaticLifecyclePersistence_channel _ _).trans
        (applyCredentialMutation_channel _ _ _ _)
  | markRelayBalanceChannelCoolingDown channelId untilInstant reason =>
      rcases s.channel.applyAutomaticRelayBalanceSuppression_cases
        snapshot.channelHealthGeneration untilInstant (reasonText reason) r.first with
        hsame | ⟨hdisabled, hgen, hpassed, -⟩
      · exact Or.inl (hcredential _ rfl hsame)
      · exact Or.inr ⟨hdisabled, hgen, Or.inr ⟨rfl, hpassed⟩⟩
  | markProviderAccountChannelCoolingDownOrDegraded channelId providerId accountId untilInstant
      reason =>
      cases untilInstant with
      | none => exact htransition _ _ rfl rfl
      | some untilInstant => exact htransition _ _ rfl rfl
  | markChannelCoolingDown channelId untilInstant reason => exact htransition _ _ rfl rfl

/-! ## §4. When a step respects the generations. -/

/-- While a cooldown lasts: a success comes from a request that was selected after it was
installed, and a report that is applied leaves a cooldown that lasts as long. -/
def KeepsCooldown (s : GuardedChannel) (event : GuardedEvent) : Prop :=
  ∀ untilInstant reason, s.channel.health = .coolingDown untilInstant reason →
    event.time < untilInstant →
    match event with
    | .success request _ =>
        ∃ generation, s.selectedAt request = some generation ∧ s.installedAt < generation
    | .report _ _ snapshot mutation _ =>
        snapshot.channelHealthGeneration = s.channel.channelHealthGeneration →
        ∀ health, mutation.transitionHealth = some health → CoolsUntil health untilInstant
    | _ => True

theorem coolsUntil_self {untilInstant : Instant} {reason : String} :
    CoolsUntil (.coolingDown untilInstant reason) untilInstant :=
  ⟨untilInstant, reason, rfl, Nat.le_refl _⟩

theorem not_coolsUntil_available {untilInstant : Instant} :
    ¬ CoolsUntil .available untilInstant := by
  rintro ⟨later, reason, h, -⟩
  cases h

/-- A success makes a channel available that is not disabled, and leaves one that is. -/
theorem ChannelRuntime.health_recordSelectedChannelSuccess (channel : ChannelRuntime) :
    channel.recordSelectedChannelSuccess.health =
      if channel.health.isDisabled then channel.health else .available := by
  rcases channel.recordSelectedChannelSuccess_cases with ⟨hdisabled, hsame⟩ | ⟨henabled, hnew⟩
  · rw [hsame, if_pos hdisabled]
  · rw [hnew, if_neg (ne_true_of_eq_false henabled)]

variable {s s' : GuardedChannel} {event : GuardedEvent}

theorem GuardedChannel.Step.stale (h : s.Step event s') :
    ∀ request state snapshot mutation r, event = .report request state snapshot mutation r →
    snapshot.channelHealthGeneration < s.channel.channelHealthGeneration →
    s'.channel = s.channel := by
  intro request state snapshot mutation r hevent hlt
  subst hevent
  obtain ⟨-, -, hstate, -, rfl⟩ := h
  show (applyStateMutation state snapshot r mutation).channel = s.channel
  rw [← hstate] at hlt ⊢
  rcases health_applyStateMutation state snapshot r mutation with ⟨hsame, -⟩ | ⟨-, hgen, -⟩
  · exact hsame
  · omega

theorem GuardedChannel.Step.disabled (h : s.Step event s')
    (hdisabled : s.channel.health.isDisabled = true)
    (hne : s'.channel.health ≠ s.channel.health) : event.IsOperator := by
  -- a report and a success leave a disabled channel as it is
  cases event with
  | select request now =>
      obtain ⟨-, -, rfl⟩ := h
      exact absurd rfl hne
  | report request state snapshot mutation r =>
      obtain ⟨-, -, hstate, -, rfl⟩ := h
      rw [← hstate] at hdisabled hne
      rcases health_applyStateMutation state snapshot r mutation with
        ⟨hsame, -⟩ | ⟨henabled, -⟩
      · exact absurd (congrArg ChannelRuntime.health hsame) hne
      · rw [henabled] at hdisabled
        cases hdisabled
  | success request now =>
      obtain ⟨-, -, rfl⟩ := h
      apply absurd _ hne
      show s.channel.recordSelectedChannelSuccess.health = _
      rw [ChannelRuntime.health_recordSelectedChannelSuccess, if_pos hdisabled]
  | writeHealth command now => trivial
  | countGeneration now => trivial

/-- A step that is no report of a transition and no success lifts no cooldown, except for
the operator. -/
theorem GuardedChannel.Step.lifts (h : s.Step event s') (hlifts : Lifts s event s') :
    event.IsOperator ∨ (∃ request now, event = .success request now) ∨
      ∃ request state snapshot mutation r health,
        event = .report request state snapshot mutation r ∧
        snapshot.channelHealthGeneration = s.channel.channelHealthGeneration ∧
        mutation.transitionHealth = some health ∧ s'.channel.health = health := by
  obtain ⟨untilInstant, reason, hhealth, htime, hnot⟩ := hlifts
  cases event with
  | select request now =>
      obtain ⟨-, -, rfl⟩ := h
      apply absurd _ hnot
      show CoolsUntil s.channel.health untilInstant
      rw [hhealth]
      exact coolsUntil_self
  | report request state snapshot mutation r =>
      obtain ⟨-, -, hstate, -, rfl⟩ := h
      rw [← hstate] at hhealth
      rcases health_applyStateMutation state snapshot r mutation with
        ⟨hsame, -⟩ | ⟨-, hgen, ⟨health, htransition, hnew⟩ | ⟨-, hpassed⟩⟩
      -- a report that was refused leaves the cooldown
      · apply absurd _ hnot
        show CoolsUntil (applyStateMutation state snapshot r mutation).channel.health
          untilInstant
        rw [hsame, hhealth]
        exact coolsUntil_self
      · refine Or.inr (Or.inr ⟨request, state, snapshot, mutation, r, health, rfl, ?_,
          htransition, hnew⟩)
        rw [← hstate]
        exact hgen.symm
      -- a suppression is only put over a cooldown that has passed
      · exact absurd (hpassed untilInstant reason hhealth) (Nat.not_le_of_lt htime)
  | success request now => exact Or.inr (Or.inl ⟨request, now, rfl⟩)
  | writeHealth command now => exact Or.inl trivial
  | countGeneration now => exact Or.inl trivial

theorem respects_iff (h : s.Step event s') : Respects s event s' ↔ KeepsCooldown s event := by
  constructor
  · intro hrespects untilInstant reason hhealth htime
    cases event with
    | select request now => trivial
    | writeHealth command now => trivial
    | countGeneration now => trivial
    | success request now =>
        obtain ⟨-, -, rfl⟩ := h
        have hlifts : Lifts s (.success request now)
            { s with channel := s.channel.recordSelectedChannelSuccess, clock := now } := by
          refine ⟨untilInstant, reason, hhealth, htime, ?_⟩
          show ¬ CoolsUntil s.channel.recordSelectedChannelSuccess.health untilInstant
          rw [ChannelRuntime.health_recordSelectedChannelSuccess, hhealth]
          exact not_coolsUntil_available
        rcases hrespects.window hlifts with hop | ⟨request', now', generation, heq, hsel, hlt⟩
        · exact absurd hop id
        · cases heq
          exact ⟨generation, hsel, hlt⟩
    | report request state snapshot mutation r =>
        obtain ⟨-, -, hstate, -, rfl⟩ := h
        intro hgen health htransition
        by_contra hnot
        -- the report is applied, so its health is what the step leaves
        have hnew : (applyStateMutation state snapshot r mutation).channel.health = health := by
          rcases health_applyStateMutation state snapshot r mutation with
            ⟨-, hwhy⟩ | ⟨-, -, ⟨health', htransition', hnew⟩ | ⟨hnone, -⟩⟩
          · rw [hstate] at hwhy
            rcases hwhy health htransition with hdisabled | hne
            · rw [hhealth] at hdisabled
              cases hdisabled
            · exact absurd hgen.symm hne
          · rw [htransition] at htransition'
            cases htransition'
            exact hnew
          · rw [htransition] at hnone
            cases hnone
        have hlifts : Lifts s (.report request state snapshot mutation r) { s with
            channel := (applyStateMutation state snapshot r mutation).channel
            installedAt := installedAfter s.channel
              (applyStateMutation state snapshot r mutation).channel s.installedAt
            clock := r.third } := by
          refine ⟨untilInstant, reason, hhealth, htime, ?_⟩
          show ¬ CoolsUntil (applyStateMutation state snapshot r mutation).channel.health
            untilInstant
          rw [hnew]
          exact hnot
        rcases hrespects.window hlifts with hop | ⟨request', now', generation, heq, -, -⟩
        · exact absurd hop id
        · cases heq
  · intro hkeeps
    refine ⟨h.stale, h.disabled, ?_⟩
    intro hlifts
    rcases h.lifts hlifts with hop | ⟨request, now, rfl⟩ |
      ⟨request, state, snapshot, mutation, r, health, rfl, hgen, htransition, hnew⟩
    · exact Or.inl hop
    · obtain ⟨untilInstant, reason, hhealth, htime, -⟩ := hlifts
      obtain ⟨generation, hsel, hlt⟩ := hkeeps untilInstant reason hhealth htime
      exact Or.inr ⟨request, now, generation, rfl, hsel, hlt⟩
    · obtain ⟨untilInstant, reason, hhealth, htime, hnot⟩ := hlifts
      have hcools := hkeeps untilInstant reason hhealth htime hgen health htransition
      rw [hnew] at hnot
      exact absurd hcools hnot

/-! ## §5. Whole runs. -/

/-- Whatever the step leads to, it respects the generations. -/
def Respectful (s : GuardedChannel) (event : GuardedEvent) : Prop :=
  ∀ s', guardedSystem.Step s event s' → Respects s event s'

/-- Every step of a run respects the generations just when every step keeps the cooldown it
finds.  The two conditions are about the same steps, so the run itself is the same on both
sides: what is compared is which steps it may take, and `respects_iff` decides this step by
step. -/
theorem generations_respected_iff (s₀ s : GuardedChannel) (events : List GuardedEvent) :
    (guardedSystem.restrict Respectful).Run s₀ events s ↔
      (guardedSystem.restrict KeepsCooldown).Run s₀ events s := by
  constructor
  · intro hrun
    apply hrun.restrict_mono
    intro s event s' hstep hrespectful
    exact (respects_iff hstep).mp (hrespectful s' hstep)
  · intro hrun
    apply hrun.restrict_mono
    intro s event s' _ hkeeps s'' hstep
    exact (respects_iff hstep).mpr hkeeps

/-! ## §6. A success that was already in flight. -/

def newChannel : GuardedChannel where
  channel := .fromPoolState sharedAccountChannel true true
  selectedAt _ := none
  counting := false
  installedAt := 0
  clock := 0

/-- Requests 0 and 1 are selected. -/
def twoInFlight : GuardedChannel where
  channel := newChannel.channel
  selectedAt := Function.update (Function.update (fun _ => none) 0 (some 1)) 1 (some 1)
  counting := false
  installedAt := 0
  clock := 0

/-- Request 0 reports a 503 with `Retry-After: 60`. -/
def firstReported : GuardedChannel where
  channel := coolingChannel
  selectedAt := twoInFlight.selectedAt
  counting := false
  installedAt := 1
  clock := 0

/-- Request 1 succeeds one nanosecond later. -/
def secondSucceeded : GuardedChannel where
  channel := coolingChannel.recordSelectedChannelSuccess
  selectedAt := twoInFlight.selectedAt
  counting := false
  installedAt := 1
  clock := 1

def firstReport : GuardedEvent :=
  .report 0 (mutationStateOf (.fromPoolState sharedAccountChannel true true)
      siblingsStart.failureDomains)
    retryAfterReport.snapshot
    (.markProviderAccountChannelCoolingDownOrDegraded "a" "provider" "account"
      (some (Duration.fromSecs 60)) .upstreamProviderUnavailable)
    (.at' 0)

/-- The report and the success are a run, and the success lifts a cooldown of 60 seconds
that was installed after its request was selected. -/
theorem success_in_flight_lifts_cooldown :
    guardedSystem.Init newChannel ∧
      guardedSystem.Run newChannel [.select 0 0, .select 1 0, firstReport, .success 1 1]
        secondSucceeded ∧
      guardedSystem.Step firstReported (.success 1 1) secondSucceeded ∧
      firstReported.selectedAt 1 = some 1 ∧ firstReported.installedAt = 1 ∧
      firstReported.channel.health =
        .coolingDown (Duration.fromSecs 60) "upstream provider unavailable" ∧
      secondSucceeded.channel.health = .available ∧
      ¬ Respectful firstReported (.success 1 1) := by
  have hreport : guardedSystem.Step twoInFlight firstReport firstReported :=
    ⟨Nat.le_refl _, rfl, rfl, rfl, rfl⟩
  have hsuccess : guardedSystem.Step firstReported (.success 1 1) secondSucceeded :=
    ⟨Nat.zero_le _, rfl, rfl⟩
  have hrun : guardedSystem.Run newChannel [.select 0 0, .select 1 0, firstReport, .success 1 1]
      secondSucceeded :=
    .cons ⟨Nat.le_refl _, rfl, rfl⟩
      (.cons ⟨Nat.le_refl _, rfl, rfl⟩ (.cons hreport (.cons hsuccess (.nil _))))
  refine ⟨⟨sharedAccountChannel, true, true, rfl, rfl, rfl, rfl⟩, hrun, hsuccess, rfl, rfl,
    rfl, rfl, ?_⟩
  intro hrespectful
  have hkeeps := (respects_iff hsuccess).mp (hrespectful _ hsuccess)
  obtain ⟨generation, hselected, hlt⟩ := hkeeps _ _ rfl (by decide)
  cases hselected
  exact absurd hlt (Nat.lt_irrefl 1)

end OneAiKey
