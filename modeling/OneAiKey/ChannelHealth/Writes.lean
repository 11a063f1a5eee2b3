/-
  OneAiKey.ChannelHealth.Writes — the writes of a report and of a success, one by one
  (`apply_state_mutation` of `src/failure_state_executor.rs`, `record_success` and
  `route_state_for_pool` of `src/state.rs`).

  The health of a channel, the domain of its account and the domain of its provider
  are behind three locks.  A report and a success write each of them once:

      report     health ── provider ── account
      success    account ── provider ── health

  A report holds the gate of its credential set over its writes, a success holds
  nothing.  A route state is read in three parts, the health, the account and the
  provider, and takes neither the gate nor two locks at once.  So a step of the
  system is one write, or one part of a reading.

  Main results:
    * `perform_mutationWrites`, `perform_successWrites` — the writes in a row are the
      mutation and the success;
    * `HealthState.wf_of_step` — what holds of every channel and every reading.
-/
import OneAiKey.FailureState

namespace OneAiKey

open Std

/-! ## §1. The writes. -/

/-- What is written under one lock. -/
inductive HealthWrite where
  /-- The health of a channel and its generation, if the generation is the expected one. -/
  | transition (channelId : String) (expectedGeneration : Nat) (health : ChannelHealth)
  | provider (providerId : String) (state : FailureDomainState)
  | account (accountId : String) (state : FailureDomainState)
  | selectedSuccess (channelId : String)
  deriving DecidableEq, Repr

/-- The writes of the mutation on a provider failure, in their order. -/
def mutationWrites (channelId : String) (snapshot : RequestSelectionSnapshot) :
    StateMutation → List HealthWrite
  | .markProviderAccountChannelCoolingDownOrDegraded _ providerId accountId untilInstant
      reason =>
      let health := match untilInstant with
        | some untilInstant => ChannelHealth.coolingDown untilInstant (reasonText reason)
        | none => .degraded (reasonText reason)
      let state := FailureDomainRegistry.unavailableState untilInstant (reasonText reason)
      [.transition channelId snapshot.channelHealthGeneration health,
        .provider providerId state, .account accountId state]
  | _ => []

/-- `record_success`, and then `record_selected_channel_success`. -/
def successWrites (channelId : String) (poolState : PoolState) : List HealthWrite :=
  [.account poolState.accountId .closed, .provider poolState.providerId .closed,
    .selectedSuccess channelId]

/-! ## §2. The system. -/

/-- What a report or a success has still to write. -/
structure HealthOperation where
  /-- A report holds the gate of its credential set until its last write. -/
  gate : Option CredentialSetId
  writes : List HealthWrite
  deriving DecidableEq, Repr

/-- A route state that is being read. -/
structure RouteRead where
  /-- The channel, with the health that was read first. -/
  channel : ChannelRuntime
  /-- Whether the domain of the account was open, once it has been looked at. -/
  accountOpen : Option Bool
  deriving DecidableEq, Repr

structure HealthState where
  channels : TreeMap String ChannelRuntime
  failureDomains : FailureDomainRegistry
  /-- The last clock value anyone has read. -/
  clock : Instant
  operations : List HealthOperation
  reads : List RouteRead

/-- One write.  The domains of ids that nobody has are not written. -/
def HealthWrite.perform (s : HealthState) : HealthWrite → HealthState
  | transition channelId expectedGeneration health =>
      { s with channels := s.channels.modify channelId fun channel =>
          (channel.applyAutomaticChannelHealthTransition expectedGeneration health).1 }
  | provider providerId state =>
      { s with failureDomains := { s.failureDomains with
          providers := setDomainState s.failureDomains.providers providerId state } }
  | account accountId state =>
      { s with failureDomains := { s.failureDomains with
          accounts := setDomainState s.failureDomains.accounts accountId state } }
  | selectedSuccess channelId =>
      { s with channels := s.channels.modify channelId (·.recordSelectedChannelSuccess) }

/-- The next write of an operation. -/
def HealthState.nextWrite (s : HealthState) (index : Nat) : Option HealthWrite :=
  (s.operations[index]?).bind (·.writes.head?)

/-- The write is made, and the operation goes on behind it. -/
def HealthState.performWrite (s : HealthState) (index : Nat) (write : HealthWrite) :
    HealthState :=
  { write.perform s with
    operations := s.operations.modify index fun operation =>
      { operation with writes := operation.writes.tail } }

inductive HealthEvent where
  /-- A request of the channel ends with a provider failure. -/
  | report (channelId : String) (input : TransitionInput)
  /-- A request of the channel ends with a success. -/
  | success (channelId : String) (now : Instant)
  /-- The operation makes its next write. -/
  | write (index : Nat) (now : Instant)
  /-- A route state is asked for, and the health of the channel read. -/
  | readHealth (channelId : String) (now : Instant)
  /-- The reading looks at the account of its channel. -/
  | readAccount (index : Nat) (now : Instant)
  /-- The reading looks at the provider, and is done. -/
  | endRead (index : Nat) (now : Instant)

def HealthEvent.time : HealthEvent → Instant
  | report _ input => input.now
  | success _ now | write _ now | readHealth _ now | readAccount _ now | endRead _ now => now

/-- A report of a provider failure by a request that was selected for `channel`. -/
structure ReportsUnavailable (channelId : String) (channel : ChannelRuntime)
    (input : TransitionInput) : Prop where
  kind : input.failure.kind = .providerUnavailable
  primaryScope : input.failure.primaryScope = .channel
  snapshotChannel : input.snapshot.channelId = channelId
  snapshotProvider : input.snapshot.providerId = channel.poolState.providerId
  snapshotAccount : input.snapshot.accountId = channel.poolState.accountId
  /-- The selection may be older than the channel's health. -/
  snapshotGeneration :
    input.snapshot.channelHealthGeneration ≤ channel.channelHealthGeneration

/-- No report of the credential set is in the middle of its writes. -/
def HealthState.GateFree (s : HealthState) (credentialSetId : CredentialSetId) : Prop :=
  ∀ operation ∈ s.operations, operation.gate = some credentialSetId → operation.writes = []

instance (s : HealthState) (credentialSetId : CredentialSetId) :
    Decidable (s.GateFree credentialSetId) :=
  inferInstanceAs (Decidable (∀ operation ∈ s.operations,
    operation.gate = some credentialSetId → operation.writes = []))

def HealthState.Step (s : HealthState) (event : HealthEvent) (s' : HealthState) : Prop :=
  s.clock ≤ event.time ∧
  match event with
  | .report channelId input => ∃ channel mutation,
      s.channels[channelId]? = some channel ∧ ReportsUnavailable channelId channel input ∧
      mutationAfterFailure input = some mutation ∧
      s.GateFree channel.poolState.credentialSetId ∧
      s' = { s with
        clock := input.now
        operations := s.operations ++ [⟨some channel.poolState.credentialSetId,
          mutationWrites channelId input.snapshot mutation⟩] }
  | .success channelId now => ∃ channel,
      s.channels[channelId]? = some channel ∧
      s' = { s with
        clock := now
        operations := s.operations ++ [⟨none, successWrites channelId channel.poolState⟩] }
  | .write index now => ∃ write,
      s.nextWrite index = some write ∧ s' = { s.performWrite index write with clock := now }
  | .readHealth channelId now => ∃ channel,
      s.channels[channelId]? = some channel ∧
      s' = { s with clock := now, reads := s.reads ++ [⟨channel, none⟩] }
  | .readAccount index now => ∃ read,
      s.reads[index]? = some read ∧ read.accountOpen = none ∧
      s' = { s with
        clock := now
        reads := s.reads.set index { read with
          accountOpen := some (failureDomainStateIsOpen now
            s.failureDomains.accounts[read.channel.poolState.accountId]?) } }
  | .endRead index now =>
      index < s.reads.length ∧ s' = { s with clock := now, reads := s.reads.eraseIdx index }

/-- From a new runtime of enabled channels, any reports, successes and readings. -/
def healthSystem : TransitionSystem HealthState HealthEvent where
  Init s := ∃ pools : List (String × PoolState),
    (∀ (channelId : String) (channel : ChannelRuntime), s.channels[channelId]? = some channel →
      ∃ poolState, (channelId, poolState) ∈ pools ∧
        channel = .fromPoolState poolState true true) ∧
    s.failureDomains = .new (pools.map fun entry => (entry.2.providerId, entry.2.accountId)) ∧
    s.operations = [] ∧ s.reads = []
  Step s event s' := s.Step event s'

/-! ## §3. The writes in a row. -/

theorem getElem?_modifyChannel {channels : TreeMap String ChannelRuntime} {id id' : String}
    {f : ChannelRuntime → ChannelRuntime} :
    (channels.modify id f)[id']? =
      if id' = id then channels[id']?.map f else channels[id']? := by
  rw [TreeMap.getElem?_modify]
  by_cases heq : id' = id
  · rw [if_pos heq, heq, if_pos ReflCmp.compare_self]
  · rw [if_neg heq, if_neg fun hcmp => heq (LawfulEqCmp.eq_of_compare hcmp).symm]

/-- The mutation of a provider failure on a channel.  Whether it has a deadline depends on the
response, and nothing else of it is left open. -/
theorem mutation_of_unavailable {channelId : String} {channel : ChannelRuntime}
    {input : TransitionInput} {mutation : StateMutation}
    (hreport : ReportsUnavailable channelId channel input)
    (h : mutationAfterFailure input = some mutation) :
    ∃ untilInstant, mutation = .markProviderAccountChannelCoolingDownOrDegraded channelId
      channel.poolState.providerId channel.poolState.accountId untilInstant
      .upstreamProviderUnavailable := by
  unfold mutationAfterFailure at h
  rw [hreport.kind, hreport.primaryScope] at h
  dsimp only at h
  cases hcooldown : input.failure.cooldown with
  | none =>
      rw [hcooldown] at h
      simp only [Option.bind_eq_bind, Option.bind_some, Option.some.injEq] at h
      rw [← h, hreport.snapshotChannel, hreport.snapshotProvider, hreport.snapshotAccount]
      exact ⟨_, rfl⟩
  -- a cooldown past the end of the clock leaves no mutation
  | some cooldown =>
      rw [hcooldown] at h
      dsimp only at h
      cases hadd : input.now.add cooldown with
      | none =>
          rw [hadd] at h
          cases h
      | some deadline =>
          rw [hadd] at h
          simp only [Option.map_some, Option.bind_eq_bind, Option.bind_some,
            Option.some.injEq] at h
          rw [← h, hreport.snapshotChannel, hreport.snapshotProvider, hreport.snapshotAccount]
          exact ⟨_, rfl⟩

/-- The writes of a report that nobody comes between are the mutation.  So the system of single
writes and the executor, which makes them in one call, speak of the same three writes; no other
channel changes. -/
theorem perform_mutationWrites {s : HealthState} {before : MutationState} {channelId : String}
    {input : TransitionInput} {mutation : StateMutation} (r : Readings)
    (hchannel : s.channels[channelId]? = some before.channel)
    (hdomains : s.failureDomains = before.failureDomains)
    (hreport : ReportsUnavailable channelId before.channel input)
    (hmutation : mutationAfterFailure input = some mutation) :
    let after := (mutationWrites channelId input.snapshot mutation).foldl HealthWrite.perform s
    after.channels[channelId]? =
        some (applyStateMutation before input.snapshot r mutation).channel ∧
      after.failureDomains =
        (applyStateMutation before input.snapshot r mutation).failureDomains ∧
      ∀ other, other ≠ channelId → after.channels[other]? = s.channels[other]? := by
  obtain ⟨untilInstant, rfl⟩ := mutation_of_unavailable hreport hmutation
  refine ⟨?_, ?_, ?_⟩
  · show (s.channels.modify channelId _)[channelId]? = _
    rw [getElem?_modifyChannel, if_pos rfl, hchannel]
    rfl
  · show FailureDomainRegistry.mk (setDomainState s.failureDomains.providers _ _)
      (setDomainState s.failureDomains.accounts _ _) = _
    rw [hdomains]
    rfl
  · intro other hother
    show (s.channels.modify channelId _)[other]? = _
    rw [getElem?_modifyChannel, if_neg hother]

/-- The writes of a success that nobody comes between are the success. -/
theorem perform_successWrites {s : HealthState} {channelId : String} {channel : ChannelRuntime}
    (hchannel : s.channels[channelId]? = some channel) :
    let after := (successWrites channelId channel.poolState).foldl HealthWrite.perform s
    after.channels[channelId]? = some channel.recordSelectedChannelSuccess ∧
      after.failureDomains = s.failureDomains.recordSuccess channel.poolState.providerId
        channel.poolState.accountId ∧
      ∀ other, other ≠ channelId → after.channels[other]? = s.channels[other]? := by
  refine ⟨?_, rfl, ?_⟩
  · show (s.channels.modify channelId _)[channelId]? = _
    rw [getElem?_modifyChannel, if_pos rfl, hchannel]
    rfl
  · intro other hother
    show (s.channels.modify channelId _)[other]? = _
    rw [getElem?_modifyChannel, if_neg hother]

/-! ## §4. What holds in every run. -/

/-- The readings that there are, and those that could begin now. -/
def HealthState.Watches (s : HealthState) (read : RouteRead) : Prop :=
  (∃ channelId : String, s.channels[channelId]? = some read.channel) ∧ read.accountOpen = none ∨
    read ∈ s.reads

/-- What holds of every channel, as it is and as a reading has found it. -/
structure ProviderHealth (domains : FailureDomainRegistry) (channel : ChannelRuntime) : Prop where
  configured : channel.configuredEnabled = true
  account : channel.accountEnabled = true
  not_disabled : channel.health.isDisabled = false
  reason : ∀ untilInstant reason, channel.health = .coolingDown untilInstant reason →
    reason = "upstream provider unavailable"
  account_mem : channel.poolState.accountId ∈ domains.accounts
  provider_mem : channel.poolState.providerId ∈ domains.providers

/-- The health that a report writes is that of a provider failure. -/
def HealthWrite.OfProviderFailure : HealthWrite → Prop
  | transition _ _ health =>
      (∃ untilInstant, health = .coolingDown untilInstant "upstream provider unavailable") ∨
        ∃ reason, health = .degraded reason
  | _ => True

structure HealthState.Wf (s : HealthState) : Prop where
  watched : ∀ read, s.Watches read → ProviderHealth s.failureDomains read.channel
  pending : ∀ operation ∈ s.operations, ∀ write ∈ operation.writes, write.OfProviderFailure

theorem mutationWrites_ofProviderFailure {channelId : String} {channel : ChannelRuntime}
    {input : TransitionInput} {mutation : StateMutation}
    (hreport : ReportsUnavailable channelId channel input)
    (h : mutationAfterFailure input = some mutation) :
    ∀ write ∈ mutationWrites channelId input.snapshot mutation, write.OfProviderFailure := by
  obtain ⟨untilInstant, rfl⟩ := mutation_of_unavailable hreport h
  intro write hwrite
  simp only [mutationWrites, List.mem_cons, List.not_mem_nil, or_false] at hwrite
  rcases hwrite with rfl | rfl | rfl
  · cases untilInstant with
    | none => exact .inr ⟨_, rfl⟩
    | some untilInstant => exact .inl ⟨untilInstant, rfl⟩
  · trivial
  · trivial

theorem successWrites_ofProviderFailure (channelId : String) (poolState : PoolState) :
    ∀ write ∈ successWrites channelId poolState, write.OfProviderFailure := by
  intro write hwrite
  simp only [successWrites, List.mem_cons, List.not_mem_nil, or_false] at hwrite
  rcases hwrite with rfl | rfl | rfl <;> trivial

theorem getElem?_setDomainState {domains : TreeMap String FailureDomainState} {id id' : String}
    {state : FailureDomainState} (hmem : id ∈ domains) :
    (setDomainState domains id state)[id']? = if id' = id then some state else domains[id']? := by
  unfold setDomainState
  rw [if_pos hmem, TreeMap.getElem?_insert]
  by_cases heq : id' = id
  · rw [if_pos heq, heq, if_pos (ReflCmp.compare_self)]
  · rw [if_neg heq, if_neg fun hcmp => heq (LawfulEqCmp.eq_of_compare hcmp).symm]

theorem getElem?_setDomainState_other {domains : TreeMap String FailureDomainState}
    {id id' : String} {state : FailureDomainState} (hne : id' ≠ id) :
    (setDomainState domains id state)[id']? = domains[id']? := by
  unfold setDomainState
  split
  · rw [TreeMap.getElem?_insert, if_neg fun hcmp => hne (LawfulEqCmp.eq_of_compare hcmp).symm]
  · rfl

theorem mem_setDomainState {domains : TreeMap String FailureDomainState} {id id' : String}
    {state : FailureDomainState} (hmem : id' ∈ domains) : id' ∈ setDomainState domains id state := by
  unfold setDomainState
  split
  · exact TreeMap.mem_insert.mpr (Or.inr hmem)
  · exact hmem

/-- A domain stays a domain whatever is written. -/
theorem HealthWrite.mem_perform {s : HealthState} (write : HealthWrite) {id : String} :
    (id ∈ s.failureDomains.accounts → id ∈ (write.perform s).failureDomains.accounts) ∧
      (id ∈ s.failureDomains.providers → id ∈ (write.perform s).failureDomains.providers) := by
  cases write with
  | transition channelId generation health => exact ⟨fun h => h, fun h => h⟩
  | selectedSuccess channelId => exact ⟨fun h => h, fun h => h⟩
  | provider providerId state => exact ⟨fun h => h, mem_setDomainState⟩
  | account accountId state => exact ⟨mem_setDomainState, fun h => h⟩

/-- What a write leaves of a channel.  Everything but the health and its generation is as the
channel was built. -/
theorem HealthWrite.channel_perform {s : HealthState} (write : HealthWrite) {channelId : String}
    {channel' : ChannelRuntime} (h : (write.perform s).channels[channelId]? = some channel') :
    ∃ channel, s.channels[channelId]? = some channel ∧ channel'.poolState = channel.poolState ∧
      channel'.configuredEnabled = channel.configuredEnabled ∧
      channel'.accountEnabled = channel.accountEnabled ∧
      (channel'.health = channel.health ∨ channel'.health = .available ∨
        ∃ health, write = .transition channelId channel.channelHealthGeneration health ∧
          channel'.health = health) := by
  -- the domains are no part of a channel; a transition and a success change its health only
  cases write with
  | provider providerId state => exact ⟨channel', h, rfl, rfl, rfl, .inl rfl⟩
  | account accountId state => exact ⟨channel', h, rfl, rfl, rfl, .inl rfl⟩
  | transition id generation health =>
      have hmodify : (s.channels.modify id _)[channelId]? = some channel' := h
      rw [getElem?_modifyChannel] at hmodify
      split at hmodify
      · next heq =>
          obtain ⟨channel, hfound, rfl⟩ := Option.map_eq_some_iff.mp hmodify
          refine ⟨channel, hfound, ?_⟩
          rcases channel.applyAutomaticChannelHealthTransition_cases generation health with
            ⟨hsame, -⟩ | ⟨-, rfl, hnew⟩
          · rw [hsame]
            exact ⟨rfl, rfl, rfl, .inl rfl⟩
          · rw [hnew]
            exact ⟨rfl, rfl, rfl, .inr (.inr ⟨health, by rw [heq], rfl⟩)⟩
      · exact ⟨channel', hmodify, rfl, rfl, rfl, .inl rfl⟩
  | selectedSuccess id =>
      have hmodify : (s.channels.modify id _)[channelId]? = some channel' := h
      rw [getElem?_modifyChannel] at hmodify
      split at hmodify
      · obtain ⟨channel, hfound, rfl⟩ := Option.map_eq_some_iff.mp hmodify
        refine ⟨channel, hfound, ?_⟩
        rcases channel.recordSelectedChannelSuccess_cases with ⟨-, hsame⟩ | ⟨-, hnew⟩
        · rw [hsame]
          exact ⟨rfl, rfl, rfl, .inl rfl⟩
        · rw [hnew]
          exact ⟨rfl, rfl, rfl, .inr (.inl rfl)⟩
      · exact ⟨channel', hmodify, rfl, rfl, rfl, .inl rfl⟩

/-- No write has to do with the readings that are under way. -/
theorem HealthWrite.reads_perform {s : HealthState} (write : HealthWrite) :
    (write.perform s).reads = s.reads := by
  cases write <;> rfl

section Step

variable {s s' : HealthState} {event : HealthEvent}

/-- A step makes one write, or leaves the channels and the domains as they are.  The beginnings
of reports and successes and the parts of a reading are all of the second kind, which the
proofs about covered cooldowns treat as one. -/
theorem writes_or_leaves (h : s.Step event s') :
    (∃ index now write, event = .write index now ∧ s.nextWrite index = some write ∧
        s' = { s.performWrite index write with clock := now }) ∨
      (∀ index now, event ≠ .write index now) ∧ s'.channels = s.channels ∧
        s'.failureDomains = s.failureDomains := by
  obtain ⟨-, hbody⟩ := h
  -- only a write changes a health or a domain
  cases event with
  | write index now =>
      obtain ⟨write, hnext, rfl⟩ := hbody
      exact .inl ⟨index, now, write, rfl, hnext, rfl⟩
  | report channelId input =>
      obtain ⟨channel, mutation, -, -, -, -, rfl⟩ := hbody
      exact .inr ⟨nofun, rfl, rfl⟩
  | success channelId now =>
      obtain ⟨channel, -, rfl⟩ := hbody
      exact .inr ⟨nofun, rfl, rfl⟩
  | readHealth channelId now =>
      obtain ⟨channel, -, rfl⟩ := hbody
      exact .inr ⟨nofun, rfl, rfl⟩
  | readAccount index now =>
      obtain ⟨before, -, -, rfl⟩ := hbody
      exact .inr ⟨nofun, rfl, rfl⟩
  | endRead index now =>
      obtain ⟨-, rfl⟩ := hbody
      exact .inr ⟨nofun, rfl, rfl⟩

theorem clock_of_step (h : s.Step event s') : s.clock ≤ event.time ∧ s'.clock = event.time := by
  obtain ⟨hle, hbody⟩ := h
  refine ⟨hle, ?_⟩
  -- every step sets the clock to its own time
  cases event with
  | report channelId input =>
      obtain ⟨channel, mutation, -, -, -, -, rfl⟩ := hbody
      rfl
  | success channelId now =>
      obtain ⟨channel, -, rfl⟩ := hbody
      rfl
  | write index now =>
      obtain ⟨write, -, rfl⟩ := hbody
      rfl
  | readHealth channelId now =>
      obtain ⟨channel, -, rfl⟩ := hbody
      rfl
  | readAccount index now =>
      obtain ⟨before, -, -, rfl⟩ := hbody
      rfl
  | endRead index now =>
      obtain ⟨-, rfl⟩ := hbody
      rfl

/-- The readings after a step are those before, one that begins, or one that has looked at
the account of its channel. -/
theorem mem_reads_of_step (h : s.Step event s') {read : RouteRead} (hmem : read ∈ s'.reads) :
    read ∈ s.reads ∨ (∃ channelId : String, s.channels[channelId]? = some read.channel) ∧
        read.accountOpen = none ∨
      ∃ before ∈ s.reads, before.accountOpen = none ∧
        read = { before with accountOpen := some (failureDomainStateIsOpen event.time
          s.failureDomains.accounts[before.channel.poolState.accountId]?) } := by
  obtain ⟨-, hbody⟩ := h
  -- a reading is old, has just begun, or has just looked at the account
  cases event with
  | report channelId input =>
      obtain ⟨channel, mutation, -, -, -, -, rfl⟩ := hbody
      exact .inl hmem
  | success channelId now =>
      obtain ⟨channel, -, rfl⟩ := hbody
      exact .inl hmem
  | write index now =>
      obtain ⟨write, -, rfl⟩ := hbody
      have hreads : read ∈ (write.perform s).reads := hmem
      rw [write.reads_perform] at hreads
      exact .inl hreads
  | readHealth channelId now =>
      obtain ⟨channel, hfound, rfl⟩ := hbody
      rcases List.mem_append.mp hmem with hold | hnew
      · exact .inl hold
      · obtain rfl := List.mem_singleton.mp hnew
        exact .inr (.inl ⟨⟨channelId, hfound⟩, rfl⟩)
  | readAccount index now =>
      obtain ⟨before, hbefore, hnone, rfl⟩ := hbody
      rcases List.mem_or_eq_of_mem_set hmem with hold | rfl
      · exact .inl hold
      · exact .inr (.inr ⟨before, List.mem_of_getElem? hbefore, hnone, rfl⟩)
  | endRead index now =>
      obtain ⟨-, rfl⟩ := hbody
      exact .inl (List.mem_of_mem_eraseIdx hmem)

/-- A domain stays one in every step. -/
theorem mem_domains_of_step (h : s.Step event s') {id : String} :
    (id ∈ s.failureDomains.accounts → id ∈ s'.failureDomains.accounts) ∧
      (id ∈ s.failureDomains.providers → id ∈ s'.failureDomains.providers) := by
  rcases writes_or_leaves h with ⟨index, now, write, -, -, rfl⟩ | ⟨-, -, hdomains⟩
  · exact write.mem_perform
  · rw [hdomains]
    exact ⟨fun h => h, fun h => h⟩

theorem ProviderHealth.of_step (h : s.Step event s') {channel : ChannelRuntime}
    (hhealth : ProviderHealth s.failureDomains channel) :
    ProviderHealth s'.failureDomains channel :=
  { hhealth with
    account_mem := (mem_domains_of_step h).1 hhealth.account_mem
    provider_mem := (mem_domains_of_step h).2 hhealth.provider_mem }

theorem mem_of_nextWrite {index : Nat} {write : HealthWrite} (h : s.nextWrite index = some write) :
    ∃ operation ∈ s.operations, write ∈ operation.writes := by
  obtain ⟨operation, hoperation, hhead⟩ := Option.bind_eq_some_iff.mp h
  exact ⟨operation, List.mem_of_getElem? hoperation, List.mem_of_head? hhead⟩

/-- A channel after a step is one before it, but for its health.  A health that is new was
written by a report of a provider failure or by a success, so a cooldown has the reason of such
a failure. -/
theorem ProviderHealth.channel_of_step (h : s.Step event s') (hwf : s.Wf) {channelId : String}
    {channel' : ChannelRuntime} (hfound : s'.channels[channelId]? = some channel') :
    ProviderHealth s'.failureDomains channel' := by
  -- a step is one pending write, or it leaves the channels
  rcases writes_or_leaves h with ⟨index, now, write, -, hnext, rfl⟩ | ⟨-, hchannels, -⟩
  · obtain ⟨channel, hold, hpool, hconfigured, haccount, hhealth⟩ :=
      write.channel_perform (s := s) hfound
    have hbefore := (hwf.watched ⟨channel, none⟩ (.inl ⟨⟨channelId, hold⟩, rfl⟩)).of_step h
    obtain ⟨operation, hoperation, hwrite⟩ := mem_of_nextWrite hnext
    have hpending := hwf.pending operation hoperation write hwrite
    refine ⟨hconfigured.trans hbefore.configured, haccount.trans hbefore.account, ?_, ?_,
      by rw [hpool]; exact hbefore.account_mem, by rw [hpool]; exact hbefore.provider_mem⟩
    -- not disabled: kept, set available by a success, or written by a report
    · rcases hhealth with hkept | hnew | ⟨health, rfl, hnew⟩
      · rw [hkept]
        exact hbefore.not_disabled
      · rw [hnew]
        rfl
      · rw [hnew]
        rcases hpending with ⟨untilInstant, rfl⟩ | ⟨reason, rfl⟩ <;> rfl
    -- and a cooldown has the reason of a provider failure
    · intro untilInstant reason hcooling
      rcases hhealth with hkept | hnew | ⟨health, rfl, hnew⟩
      · exact hbefore.reason untilInstant reason (hkept.symm.trans hcooling)
      · rw [hnew] at hcooling
        cases hcooling
      · rw [hnew] at hcooling
        rcases hpending with ⟨untilInstant', rfl⟩ | ⟨text, rfl⟩
        · cases hcooling
          rfl
        · cases hcooling
  · rw [hchannels] at hfound
    exact (hwf.watched ⟨channel', none⟩ (.inl ⟨⟨channelId, hfound⟩, rfl⟩)).of_step h

/-- A step leaves the channels, the readings and what is still to be written well formed. -/
theorem HealthState.wf_of_step (h : s.Step event s') (hwf : s.Wf) : s'.Wf where
  watched := by
    rintro read (⟨⟨channelId, hfound⟩, -⟩ | hmem)
    · exact ProviderHealth.channel_of_step h hwf hfound
    · rcases mem_reads_of_step h hmem with hold | ⟨hchannel, hnone⟩ | ⟨before, hbefore, -, rfl⟩
      · exact (hwf.watched read (.inr hold)).of_step h
      · exact (hwf.watched read (.inl ⟨hchannel, hnone⟩)).of_step h
      · exact (hwf.watched before (.inr hbefore)).of_step h
  -- the writes that wait are those of a report or a success, or were waiting before
  pending := by
    obtain ⟨-, hbody⟩ := h
    cases event with
    | report channelId input =>
        obtain ⟨channel, mutation, -, hreport, hmutation, -, rfl⟩ := hbody
        intro operation hoperation
        rcases List.mem_append.mp hoperation with hold | hnew
        · exact hwf.pending operation hold
        · obtain rfl := List.mem_singleton.mp hnew
          exact mutationWrites_ofProviderFailure hreport hmutation
    | success channelId now =>
        obtain ⟨channel, -, rfl⟩ := hbody
        intro operation hoperation
        rcases List.mem_append.mp hoperation with hold | hnew
        · exact hwf.pending operation hold
        · obtain rfl := List.mem_singleton.mp hnew
          exact successWrites_ofProviderFailure channelId channel.poolState
    | write index now =>
        obtain ⟨write, -, rfl⟩ := hbody
        intro operation hoperation write' hwrite'
        obtain ⟨i, hi⟩ := List.mem_iff_getElem?.mp hoperation
        have hmodify : (s.operations.modify index _)[i]? = some operation := hi
        rw [List.getElem?_modify] at hmodify
        obtain ⟨before, hbefore, heq⟩ := Option.map_eq_some_iff.mp hmodify
        have hmem := List.mem_of_getElem? hbefore
        -- the operation that has written keeps the rest of its writes
        split at heq
        · subst heq
          exact hwf.pending before hmem write' (List.mem_of_mem_tail hwrite')
        · subst heq
          exact hwf.pending before hmem write' hwrite'
    | readHealth channelId now =>
        obtain ⟨channel, -, rfl⟩ := hbody
        exact hwf.pending
    | readAccount index now =>
        obtain ⟨before, -, -, rfl⟩ := hbody
        exact hwf.pending
    | endRead index now =>
        obtain ⟨-, rfl⟩ := hbody
        exact hwf.pending

end Step

theorem healthSystem_init {s : HealthState} (h : healthSystem.Init s) : s.Wf := by
  obtain ⟨pools, hchannels, hdomains, hoperations, hreads⟩ := h
  -- nothing is being read and nothing is pending
  refine ⟨?_, ?_⟩
  · rintro read (⟨⟨channelId, hfound⟩, -⟩ | hmem)
    · obtain ⟨poolState, hmem, heq⟩ := hchannels channelId read.channel hfound
      rw [heq]
      refine ⟨rfl, rfl, rfl, nofun, ?_, ?_⟩
      · rw [hdomains]
        refine TreeMap.mem_ofList.mpr (List.contains_iff_mem.mpr ?_)
        simp only [List.map_map, List.mem_map, Function.comp_apply]
        exact ⟨(channelId, poolState), hmem, rfl⟩
      · rw [hdomains]
        refine TreeMap.mem_ofList.mpr (List.contains_iff_mem.mpr ?_)
        simp only [List.map_map, List.mem_map, Function.comp_apply]
        exact ⟨(channelId, poolState), hmem, rfl⟩
    · rw [hreads] at hmem
      cases hmem
  · intro operation hoperation
    rw [hoperations] at hoperation
    cases hoperation

end OneAiKey
