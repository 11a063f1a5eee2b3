/-
  OneAiKey.ChannelHealth.Soft — does a provider failure stay a soft suppression?

  A channel that cools down after a provider failure is soft only as long as the
  domain of its account or its provider stays open.  The domains are shared, every
  report and every success of another channel overwrites them, and the health and
  the domains of one report are not written at once:

      health       ── cooling down ─────────────────▶
      domains          │ still closed │ ── open ──┤ closed by a sibling's success
      route state      │     hard     │ ── soft ──┤ hard

  A cooldown is covered while a domain of its channel is open to its end.  A route
  state that is being read counts with the health that it has found.

  Main results:
    * `covered_iff_soft` — every reading is soft, now and later, just when every
      cooldown that it may look at is covered;
    * `soft_unless_uncovered` — the runs in which the route states stay soft.
-/
import OneAiKey.ChannelHealth.Writes

namespace OneAiKey

open Std

/-! ## §1. What a reading comes to. -/

/-- The state of the domains, as far as a reading has still to look at them. -/
def RouteRead.failureDomainState (read : RouteRead) (domains : FailureDomainRegistry)
    (r : RouteReadings) : Option ChannelRouteState :=
  match read.accountOpen with
  | none => domains.routeState read.channel.poolState.providerId
      read.channel.poolState.accountId r.account r.provider
  | some true => some .providerCoolingDown
  | some false =>
      if failureDomainStateIsOpen r.provider
          domains.providers[read.channel.poolState.providerId]? then
        some .providerCoolingDown
      else none

/-- What the reading comes to when its rest finds these domains. -/
def RouteRead.routeState (read : RouteRead) (pool : Option KeyPool)
    (domains : FailureDomainRegistry) (r : RouteReadings) : ChannelRouteState :=
  routeStateFromDomain read.channel pool (read.failureDomainState domains r) r

/-- A reading that nobody comes between is the route state. -/
theorem RouteRead.routeState_at_once (channel : ChannelRuntime) (pool : Option KeyPool)
    (domains : FailureDomainRegistry) (r : RouteReadings) :
    (⟨channel, none⟩ : RouteRead).routeState pool domains r =
      routeStateForPool channel pool domains r := rfl

/-- The route states in which a channel is still tried. -/
def ChannelRouteState.IsSoft (state : ChannelRouteState) : Prop :=
  state = .available ∨ state = .degraded ∨ state = .providerCoolingDown

/-- Every route state of a channel with an available credential is soft, whether its reading
is under way or begins now, and whenever the rest of it happens to be read.  A pool that
somebody holds the lock of cannot be looked at. -/
def HealthState.Soft (s : HealthState) : Prop :=
  ∀ (read : RouteRead) (pool : Option KeyPool) (r : RouteReadings),
    s.Watches read → s.clock ≤ r.account →
    (∀ p ∈ pool, p.hasAvailableCredentialsReadOnly r.credentials = true) →
    (read.routeState pool s.failureDomains r).IsSoft ∨
      pool = none ∧ read.routeState pool s.failureDomains r = .runtimeUnavailable

/-! ## §2. Covered cooldowns. -/

/-- The domain is open at least until `untilInstant`. -/
def OpenAtLeast (untilInstant : Instant) (domain : Option FailureDomainState) : Prop :=
  ∃ deadline reason, domain = some (.openUntil deadline reason) ∧ untilInstant ≤ deadline

/-- A cooldown that ends at `untilInstant` ends no later than an open domain that the reading
has still to look at, or has found open. -/
def RouteRead.CoveredUntil (domains : FailureDomainRegistry) (read : RouteRead)
    (untilInstant : Instant) : Prop :=
  match read.accountOpen with
  | none =>
      OpenAtLeast untilInstant domains.accounts[read.channel.poolState.accountId]? ∨
        OpenAtLeast untilInstant domains.providers[read.channel.poolState.providerId]?
  | some true => True
  | some false => OpenAtLeast untilInstant domains.providers[read.channel.poolState.providerId]?

/-- Every cooldown that goes beyond the clock is covered, in the channels and in the readings. -/
def HealthState.AllCovered (s : HealthState) : Prop :=
  ∀ read untilInstant reason, s.Watches read →
    read.channel.health = .coolingDown untilInstant reason → s.clock < untilInstant →
    read.CoveredUntil s.failureDomains untilInstant

/-- A domain that is open for longer is open now. -/
theorem open_of_openAtLeast {untilInstant now : Instant} {domain : Option FailureDomainState}
    (h : OpenAtLeast untilInstant domain) (hnow : now < untilInstant) :
    failureDomainStateIsOpen now domain = true := by
  obtain ⟨deadline, reason, rfl, hle⟩ := h
  show decide (now < deadline) = true
  exact decide_eq_true (Nat.lt_of_lt_of_le hnow hle)

/-- From some time before `untilInstant` on, a domain that is not open so long is not
open. -/
theorem not_open_of_not_openAtLeast {untilInstant : Instant} {domain : Option FailureDomainState}
    (hpos : 0 < untilInstant) (h : ¬ OpenAtLeast untilInstant domain) :
    ∃ last, last < untilInstant ∧ ∀ now, last ≤ now → failureDomainStateIsOpen now domain = false := by
  match domain with
  | none => exact ⟨0, hpos, fun _ _ => rfl⟩
  | some .closed => exact ⟨0, hpos, fun _ _ => rfl⟩
  | some (.degraded _) => exact ⟨0, hpos, fun _ _ => rfl⟩
  | some (.openUntil deadline reason) =>
      have hlt : deadline < untilInstant :=
        Nat.lt_of_not_le fun hle => h ⟨deadline, reason, rfl, hle⟩
      refine ⟨deadline, hlt, ?_⟩
      intro now hnow
      show decide (now < deadline) = false
      exact decide_eq_false (Nat.not_lt_of_le hnow)

/-- A route state is soft when the domain is seen open during a cooldown.  The cooldown is over
by then or the domain stands for it, and a degraded health is soft by itself. -/
theorem routeStateFromDomain_soft {domains : FailureDomainRegistry} {channel : ChannelRuntime}
    {pool : Option KeyPool} {domain : Option ChannelRouteState} {r : RouteReadings}
    (hhealth : ProviderHealth domains channel)
    (hdomain : domain = none ∨ domain = some .providerCoolingDown)
    (hcooling : ∀ untilInstant reason, channel.health = .coolingDown untilInstant reason →
      r.channel < untilInstant → domain = some .providerCoolingDown)
    (havailable : ∀ p ∈ pool, p.hasAvailableCredentialsReadOnly r.credentials = true) :
    (routeStateFromDomain channel pool domain r).IsSoft ∨
      pool = none ∧ routeStateFromDomain channel pool domain r = .runtimeUnavailable := by
  have hdisabled := hhealth.not_disabled
  -- nothing hard: the cooldown is over, or the domain was open before
  have hhard : hardRouteState channel domain r.channel = none := by
    unfold hardRouteState
    rw [hhealth.configured, hhealth.account]
    simp only [Bool.not_true, Bool.false_eq_true, if_false]
    cases hstate : channel.health with
    | available => rfl
    | degraded reason => rfl
    | disabled reason =>
        rw [hstate] at hdisabled
        cases hdisabled
    | coolingDown untilInstant reason =>
        refine if_neg ?_
        intro ⟨hactive, hnotSoft⟩
        rw [hcooling untilInstant reason hstate hactive,
          hhealth.reason untilInstant reason hstate] at hnotSoft
        cases hnotSoft
  unfold routeStateFromDomain
  rw [hhard]
  dsimp only
  cases pool with
  | none =>
      rcases hdomain with rfl | rfl
      · exact .inr ⟨rfl, rfl⟩
      · exact .inl (.inr (.inr rfl))
  | some pool =>
      dsimp only
      rw [havailable pool rfl]
      simp only [Bool.not_true, Bool.false_eq_true, if_false]
      rcases hdomain with rfl | rfl
      · cases hstate : channel.health with
        | available => exact .inl (.inl rfl)
        | coolingDown untilInstant reason => exact .inl (.inl rfl)
        | degraded reason => exact .inl (.inr (.inl rfl))
        | disabled reason =>
            rw [hstate] at hdisabled
            cases hdisabled
      · exact .inl (.inr (.inr rfl))

/-- A cooldown with no open domain is hard. -/
theorem routeStateFromDomain_hard {domains : FailureDomainRegistry} {channel : ChannelRuntime}
    (hhealth : ProviderHealth domains channel) {untilInstant : Instant} {reason : String}
    (hcooling : channel.health = .coolingDown untilInstant reason) {r : RouteReadings}
    (hactive : r.channel < untilInstant) (pool : Option KeyPool) :
    routeStateFromDomain channel pool none r = .coolingDown := by
  have hhard : hardRouteState channel none r.channel = some .coolingDown := by
    unfold hardRouteState
    rw [hhealth.configured, hhealth.account, hcooling]
    simp only [Bool.not_true, Bool.false_eq_true, if_false]
    exact if_pos ⟨hactive, rfl⟩
  unfold routeStateFromDomain
  rw [hhard]

/-- The domains are seen open or not, nothing else. -/
theorem RouteRead.failureDomainState_cases (read : RouteRead) (domains : FailureDomainRegistry)
    (r : RouteReadings) :
    read.failureDomainState domains r = none ∨
      read.failureDomainState domains r = some .providerCoolingDown := by
  unfold RouteRead.failureDomainState FailureDomainRegistry.routeState
  split
  · split_ifs <;> simp
  · exact .inr rfl
  · split_ifs <;> simp

/-- A covered reading is soft: while the cooldown is active, so is the domain.  The domain was
read no later than the health is compared with the clock, so it was open when it was read. -/
theorem soft_of_covered {domains : FailureDomainRegistry} {clock : Instant} {read : RouteRead}
    {pool : Option KeyPool} {r : RouteReadings} (hhealth : ProviderHealth domains read.channel)
    (hcovered : ∀ untilInstant reason, read.channel.health = .coolingDown untilInstant reason →
      clock < untilInstant → read.CoveredUntil domains untilInstant)
    (hclock : clock ≤ r.account)
    (havailable : ∀ p ∈ pool, p.hasAvailableCredentialsReadOnly r.credentials = true) :
    (read.routeState pool domains r).IsSoft ∨
      pool = none ∧ read.routeState pool domains r = .runtimeUnavailable := by
  refine routeStateFromDomain_soft hhealth (read.failureDomainState_cases domains r) ?_ havailable
  intro untilInstant reason hcooling hactive
  have hprovider : r.provider < untilInstant := Nat.lt_of_le_of_lt r.provider_le hactive
  have haccount : r.account < untilInstant := Nat.lt_of_le_of_lt r.account_le hprovider
  have hopen := hcovered untilInstant reason hcooling (Nat.lt_of_le_of_lt hclock haccount)
  unfold RouteRead.CoveredUntil at hopen
  unfold RouteRead.failureDomainState
  -- by what the reading has still to look at
  cases hlooked : read.accountOpen with
  | none =>
      rw [hlooked] at hopen
      dsimp only at hopen ⊢
      unfold FailureDomainRegistry.routeState
      -- the account's domain is open, or the provider's is
      rcases hopen with hopen | hopen
      · rw [if_pos (open_of_openAtLeast hopen haccount)]
      · split
        · rfl
        · rw [if_pos (open_of_openAtLeast hopen hprovider)]
  | some found =>
      cases found with
      | true => rfl
      | false =>
          rw [hlooked] at hopen
          exact if_pos (open_of_openAtLeast hopen hprovider)

/-- Five readings of one clock value. -/
def RouteReadings.at' (now : Instant) : RouteReadings :=
  ⟨now, now, now, now, now, Nat.le_refl _, Nat.le_refl _, Nat.le_refl _, Nat.le_refl _⟩

/-- A cooldown that no open domain covers shows as a hard one, shortly before its end. -/
theorem hard_of_not_covered {domains : FailureDomainRegistry} {clock : Instant}
    {read : RouteRead} (hhealth : ProviderHealth domains read.channel) {untilInstant : Instant}
    {reason : String} (hcooling : read.channel.health = .coolingDown untilInstant reason)
    (hactive : clock < untilInstant) (h : ¬ read.CoveredUntil domains untilInstant) :
    ∃ now, clock ≤ now ∧ ∀ pool, read.routeState pool domains (.at' now) = .coolingDown := by
  have hpos : 0 < untilInstant := Nat.lt_of_le_of_lt (Nat.zero_le clock) hactive
  unfold RouteRead.CoveredUntil at h
  -- a moment when what is still looked at is closed, and the channel still cools down
  obtain ⟨now, hclock, hnow, hdomain⟩ : ∃ now, clock ≤ now ∧ now < untilInstant ∧
      read.failureDomainState domains (.at' now) = none := by
    unfold RouteRead.failureDomainState
    cases hlooked : read.accountOpen with
    | none =>
        rw [hlooked] at h
        obtain ⟨haccount, hprovider⟩ := not_or.mp h
        obtain ⟨lastAccount, haccountLt, haccountClosed⟩ :=
          not_open_of_not_openAtLeast hpos haccount
        obtain ⟨lastProvider, hproviderLt, hproviderClosed⟩ :=
          not_open_of_not_openAtLeast hpos hprovider
        refine ⟨max clock (max lastAccount lastProvider), Nat.le_max_left _ _,
          Nat.max_lt.mpr ⟨hactive, Nat.max_lt.mpr ⟨haccountLt, hproviderLt⟩⟩, ?_⟩
        dsimp only [RouteReadings.at']
        unfold FailureDomainRegistry.routeState
        rw [haccountClosed _ (Nat.le_trans (Nat.le_max_left _ _) (Nat.le_max_right _ _)),
          hproviderClosed _ (Nat.le_trans (Nat.le_max_right _ _) (Nat.le_max_right _ _))]
        rfl
    | some found =>
        rw [hlooked] at h
        cases found with
        | true => exact absurd trivial h
        | false =>
            obtain ⟨last, hlt, hclosed⟩ := not_open_of_not_openAtLeast hpos h
            refine ⟨max clock last, Nat.le_max_left _ _, Nat.max_lt.mpr ⟨hactive, hlt⟩, ?_⟩
            exact if_neg (Bool.eq_false_iff.mp (hclosed _ (Nat.le_max_right _ _)))
  refine ⟨now, hclock, ?_⟩
  intro pool
  unfold RouteRead.routeState
  rw [hdomain]
  exact routeStateFromDomain_hard hhealth hcooling hnow pool

/-- A pool with one new credential. -/
def freshPool : KeyPool := .ofConfig ⟨"a", "set", "https://a.example/v1", [⟨"k", .unknown⟩]⟩

/-- A pool that has never been used has an available credential. -/
theorem freshPool_available (now : Instant) :
    freshPool.hasAvailableCredentialsReadOnly now = true := by
  have hnonempty : freshPool.availableIndices.isEmpty = false := by decide
  unfold KeyPool.hasAvailableCredentialsReadOnly
  rw [hnonempty]
  rfl

/-- All cooldowns are covered exactly if every reading that is under way, or begins now, is
soft.  A cooldown that is not covered shows as a hard one, if only just before its end. -/
theorem covered_iff_soft {s : HealthState} (hwf : s.Wf) : s.AllCovered ↔ s.Soft := by
  constructor
  · intro hcovered read pool r hwatched hclock havailable
    exact soft_of_covered (hwf.watched read hwatched)
      (fun untilInstant reason => hcovered read untilInstant reason hwatched) hclock havailable
  · intro hsoft read untilInstant reason hwatched hcooling hactive
    by_contra huncovered
    obtain ⟨now, hnow, hhard⟩ :=
      hard_of_not_covered (hwf.watched read hwatched) hcooling hactive huncovered
    rcases hsoft read (some freshPool) (.at' now) hwatched hnow
      (fun p hp => Option.some.inj hp ▸ freshPool_available _) with hstate | ⟨hnone, -⟩
    · rw [hhard (some freshPool)] at hstate
      rcases hstate with h | h | h <;> cases h
    · cases hnone

/-! ## §3. What a write leaves covered. -/

/-- The condition on one write.  A cooldown is written only while a domain of the channel is
open to its end.  A domain is overwritten only if every cooldown that may be looked at behind
it, in a channel or in a reading, stays covered: by what is written, by the other domain, or
because the reading has already found the account open. -/
def HealthWrite.Keeps (s : HealthState) (now : Instant) : HealthWrite → Prop
  | transition channelId expectedGeneration health =>
      ∀ (channel : ChannelRuntime) (untilInstant : Instant) (reason : String),
        s.channels[channelId]? = some channel →
        channel.channelHealthGeneration = expectedGeneration →
        health = .coolingDown untilInstant reason → now < untilInstant →
        (⟨channel, none⟩ : RouteRead).CoveredUntil s.failureDomains untilInstant
  | account accountId state =>
      ∀ read untilInstant reason, s.Watches read →
        read.channel.poolState.accountId = accountId → read.accountOpen = none →
        read.channel.health = .coolingDown untilInstant reason → now < untilInstant →
        OpenAtLeast untilInstant (some state) ∨
          OpenAtLeast untilInstant
            s.failureDomains.providers[read.channel.poolState.providerId]?
  | provider providerId state =>
      ∀ read untilInstant reason, s.Watches read →
        read.channel.poolState.providerId = providerId →
        read.channel.health = .coolingDown untilInstant reason → now < untilInstant →
        OpenAtLeast untilInstant (some state) ∨ read.accountOpen = some true ∨
          read.accountOpen = none ∧ OpenAtLeast untilInstant
            s.failureDomains.accounts[read.channel.poolState.accountId]?
  | selectedSuccess _ => True

/-- The condition: the write that is made, if one is, keeps the cooldowns covered. -/
def KeepsCovered (s : HealthState) (event : HealthEvent) : Prop :=
  ∀ index now write, event = .write index now → s.nextWrite index = some write →
    write.Keeps s now

section Write

variable {s : HealthState} {now : Instant}

/-- What is covered stays covered while the domains stay as they are. -/
theorem HealthState.AllCovered.later (h : s.AllCovered) (hclock : s.clock ≤ now)
    {read : RouteRead} (hwatched : s.Watches read) {untilInstant : Instant} {reason : String}
    (hcooling : read.channel.health = .coolingDown untilInstant reason)
    (hactive : now < untilInstant) : read.CoveredUntil s.failureDomains untilInstant :=
  h read untilInstant reason hwatched hcooling (Nat.lt_of_le_of_lt hclock hactive)

/-- The readings behind a write that leaves the channels are those before it. -/
theorem watches_domain_write {index : Nat} {write : HealthWrite} {read : RouteRead}
    (hchannels : (write.perform s).channels = s.channels) :
    ({ s.performWrite index write with clock := now } : HealthState).Watches read ↔
      s.Watches read := by
  unfold HealthState.Watches
  show (∃ channelId : String, (write.perform s).channels[channelId]? = _) ∧ _ ∨
    read ∈ (write.perform s).reads ↔ _
  rw [hchannels, write.reads_perform]

/-- When the write of an account's domain keeps the healths covered.  The readings that have
looked at the account before are not affected; all others see what is written. -/
theorem allCovered_account_iff (hwf : s.Wf) (hcovered : s.AllCovered) (hclock : s.clock ≤ now)
    {index : Nat} {accountId : String} {state : FailureDomainState} :
    ({ s.performWrite index (.account accountId state) with clock := now } :
        HealthState).AllCovered ↔
      (HealthWrite.account accountId state).Keeps s now := by
  constructor
  -- a reading whose account is the written one, and who has not looked at it yet
  · intro hafter read untilInstant reason hwatched haccount hnone hcooling hactive
    have hopen := hafter read untilInstant reason ((watches_domain_write rfl).mpr hwatched)
      hcooling hactive
    unfold RouteRead.CoveredUntil at hopen
    rw [hnone] at hopen
    have hmem := (hwf.watched read hwatched).account_mem
    rw [haccount] at hmem
    have hlookup : (setDomainState s.failureDomains.accounts accountId
        state)[read.channel.poolState.accountId]? = some state := by
      rw [getElem?_setDomainState hmem, if_pos haccount]
    exact hopen.imp_left fun h => hlookup ▸ h
  -- what has been looked up stays covered; what has not sees the new domain
  · intro hkeeps read untilInstant reason hwatched hcooling hactive
    have hwatched := (watches_domain_write rfl).mp hwatched
    have hbefore := hcovered.later hclock hwatched hcooling hactive
    have hprovider : ∀ id : String, ({ s.performWrite index (.account accountId state) with
      clock := now } : HealthState).failureDomains.providers[id]? =
        s.failureDomains.providers[id]? := fun _ => rfl
    unfold RouteRead.CoveredUntil at hbefore ⊢
    cases hlooked : read.accountOpen with
    | some found =>
        rw [hlooked] at hbefore
        cases found <;> exact hbefore
    | none =>
        rw [hlooked] at hbefore
        dsimp only at hbefore ⊢
        rw [hprovider]
        show OpenAtLeast untilInstant (setDomainState s.failureDomains.accounts accountId
          state)[read.channel.poolState.accountId]? ∨ _
        by_cases haccount : read.channel.poolState.accountId = accountId
        · have hmem := (hwf.watched read hwatched).account_mem
          rw [haccount] at hmem
          rw [getElem?_setDomainState hmem, if_pos haccount]
          exact hkeeps read untilInstant reason hwatched haccount hlooked hcooling hactive
        · rw [getElem?_setDomainState_other haccount]
          exact hbefore

/-- When the write of a provider's domain keeps the healths covered.  Here a reading that has
found the account open is safe, and one that has found it closed depends on the provider alone. -/
theorem allCovered_provider_iff (hwf : s.Wf) (hcovered : s.AllCovered) (hclock : s.clock ≤ now)
    {index : Nat} {providerId : String} {state : FailureDomainState} :
    ({ s.performWrite index (.provider providerId state) with clock := now } :
        HealthState).AllCovered ↔
      (HealthWrite.provider providerId state).Keeps s now := by
  constructor
  · intro hafter read untilInstant reason hwatched hprovider hcooling hactive
    have hopen := hafter read untilInstant reason ((watches_domain_write rfl).mpr hwatched)
      hcooling hactive
    have hmem := (hwf.watched read hwatched).provider_mem
    rw [hprovider] at hmem
    have hlookup : (setDomainState s.failureDomains.providers providerId
        state)[read.channel.poolState.providerId]? = some state := by
      rw [getElem?_setDomainState hmem, if_pos hprovider]
    unfold RouteRead.CoveredUntil at hopen
    cases hlooked : read.accountOpen with
    | none =>
        rw [hlooked] at hopen
        rcases hopen with haccount | hwritten
        · exact .inr (.inr ⟨rfl, haccount⟩)
        · exact .inl (hlookup ▸ hwritten)
    | some found =>
        rw [hlooked] at hopen
        cases found with
        | true => exact .inr (.inl rfl)
        | false => exact .inl (hlookup ▸ hopen)
  · intro hkeeps read untilInstant reason hwatched hcooling hactive
    have hwatched := (watches_domain_write rfl).mp hwatched
    have hbefore := hcovered.later hclock hwatched hcooling hactive
    have haccounts : ∀ id : String, ({ s.performWrite index (.provider providerId state) with
      clock := now } : HealthState).failureDomains.accounts[id]? =
        s.failureDomains.accounts[id]? := fun _ => rfl
    -- the domain of the reading's provider is the written one, or as it was
    have hdomain : (setDomainState s.failureDomains.providers providerId
        state)[read.channel.poolState.providerId]? =
          if read.channel.poolState.providerId = providerId then some state
          else s.failureDomains.providers[read.channel.poolState.providerId]? := by
      by_cases hprovider : read.channel.poolState.providerId = providerId
      · have hmem := (hwf.watched read hwatched).provider_mem
        rw [hprovider] at hmem
        rw [getElem?_setDomainState hmem]
      · rw [getElem?_setDomainState_other hprovider, if_neg hprovider]
    have hkept := hkeeps read untilInstant reason hwatched
    unfold RouteRead.CoveredUntil at hbefore ⊢
    cases hlooked : read.accountOpen with
    | none =>
        rw [hlooked] at hbefore
        dsimp only at hbefore ⊢
        rw [haccounts]
        show _ ∨ OpenAtLeast untilInstant (setDomainState _ _ _)[_]?
        rw [hdomain]
        split
        · next hprovider =>
            rcases hkept hprovider hcooling hactive with hwritten | hfound | ⟨-, haccount⟩
            · exact .inr hwritten
            · rw [hlooked] at hfound
              cases hfound
            · exact .inl haccount
        · exact hbefore
    | some found =>
        rw [hlooked] at hbefore
        cases found with
        | true => trivial
        | false =>
            show OpenAtLeast untilInstant (setDomainState _ _ _)[_]?
            rw [hdomain]
            split
            · next hprovider =>
                rcases hkept hprovider hcooling hactive with hwritten | hfound | ⟨hnone, -⟩
                · exact hwritten
                · rw [hlooked] at hfound
                  cases hfound
                · rw [hlooked] at hnone
                  cases hnone
            · exact hbefore

/-- When the write of a health keeps the healths covered.  Only a cooldown that is really
written matters: a stale generation leaves the health as it is. -/
theorem allCovered_transition_iff (hwf : s.Wf) (hcovered : s.AllCovered)
    (hclock : s.clock ≤ now) {index : Nat} {channelId : String} {expectedGeneration : Nat}
    {health : ChannelHealth} :
    ({ s.performWrite index (.transition channelId expectedGeneration health) with
        clock := now } : HealthState).AllCovered ↔
      (HealthWrite.transition channelId expectedGeneration health).Keeps s now := by
  constructor
  · intro hafter channel untilInstant reason hfound hgeneration hhealth hactive
    -- no channel of the system is disabled, so the transition is made
    have henabled := (hwf.watched ⟨channel, none⟩ (.inl ⟨⟨channelId, hfound⟩, rfl⟩)).not_disabled
    have hlookup : (s.channels.modify channelId fun channel =>
        (channel.applyAutomaticChannelHealthTransition expectedGeneration health).1)[channelId]? =
          some { channel with
            health := health
            channelHealthGeneration := channel.channelHealthGeneration + 1 } := by
      rw [getElem?_modifyChannel, if_pos rfl, hfound]
      rcases channel.applyAutomaticChannelHealthTransition_cases expectedGeneration health with
        ⟨-, hdisabled | hstale⟩ | ⟨-, -, hnew⟩
      · rw [hdisabled] at henabled
        cases henabled
      · exact absurd hgeneration hstale
      · rw [Option.map_some, hnew]
    -- the health as it was written has to be covered
    have hwritten := hafter ⟨{ channel with
      health := health
      channelHealthGeneration := channel.channelHealthGeneration + 1 }, none⟩ untilInstant reason
      (.inl ⟨⟨channelId, hlookup⟩, rfl⟩) hhealth hactive
    exact hwritten
  · intro hkeeps read untilInstant reason hwatched hcooling hactive
    rcases hwatched with ⟨⟨id, hfound⟩, hnone⟩ | hread
    · -- a channel: as it was, or with the health that was written
      obtain ⟨channel, hold, hpool, -, -, hhealth⟩ :=
        (HealthWrite.transition channelId expectedGeneration health).channel_perform
          (s := s) hfound
      have hlive : s.Watches ⟨channel, none⟩ := .inl ⟨⟨id, hold⟩, rfl⟩
      have hbefore : (⟨channel, none⟩ : RouteRead).CoveredUntil s.failureDomains untilInstant := by
        rcases hhealth with hkept | hnew | ⟨written, hwrite, hnew⟩
        · exact hcovered.later hclock hlive (hkept.symm.trans hcooling) hactive
        · rw [hnew] at hcooling
          cases hcooling
        · cases hwrite
          exact hkeeps channel untilInstant reason hold rfl (hnew.symm.trans hcooling) hactive
      unfold RouteRead.CoveredUntil at hbefore ⊢
      rw [hnone]
      dsimp only at hbefore ⊢
      rw [hpool]
      exact hbefore
    · exact hcovered.later hclock (.inr hread) hcooling hactive

/-- A channel that is made available has no cooldown to cover.  A reading that has found the
cooldown before goes on with it, and is covered as before. -/
theorem allCovered_selectedSuccess (hcovered : s.AllCovered) (hclock : s.clock ≤ now)
    {index : Nat} {channelId : String} :
    ({ s.performWrite index (.selectedSuccess channelId) with clock := now } :
        HealthState).AllCovered := by
  intro read untilInstant reason hwatched hcooling hactive
  rcases hwatched with ⟨⟨id, hfound⟩, hnone⟩ | hread
  · obtain ⟨channel, hold, hpool, -, -, hhealth⟩ :=
      (HealthWrite.selectedSuccess channelId).channel_perform (s := s) hfound
    have hlive : s.Watches ⟨channel, none⟩ := .inl ⟨⟨id, hold⟩, rfl⟩
    have hbefore : (⟨channel, none⟩ : RouteRead).CoveredUntil s.failureDomains untilInstant := by
      rcases hhealth with hkept | hnew | ⟨written, hwrite, -⟩
      · exact hcovered.later hclock hlive (hkept.symm.trans hcooling) hactive
      · rw [hnew] at hcooling
        cases hcooling
      · cases hwrite
    unfold RouteRead.CoveredUntil at hbefore ⊢
    rw [hnone]
    dsimp only at hbefore ⊢
    rw [hpool]
    exact hbefore
  · exact hcovered.later hclock (.inr hread) hcooling hactive

end Write

/-! ## §4. The runs that stay soft. -/

section Step

variable {s s' : HealthState} {event : HealthEvent}

/-- A step of a reading keeps what is covered: an account that is found closed during a
cooldown leaves the provider to cover it. -/
theorem allCovered_of_leaves (h : s.Step event s') (hchannels : s'.channels = s.channels)
    (hdomains : s'.failureDomains = s.failureDomains) (hcovered : s.AllCovered) :
    s'.AllCovered := by
  obtain ⟨hle, hclock⟩ := clock_of_step h
  intro read untilInstant reason hwatched hcooling hactive
  rw [hclock] at hactive
  rw [hdomains]
  rcases hwatched with ⟨⟨id, hfound⟩, hnone⟩ | hread
  · rw [hchannels] at hfound
    exact hcovered.later hle (.inl ⟨⟨id, hfound⟩, hnone⟩) hcooling hactive
  -- a reading that was there, one that begins, or one that goes on to the provider
  · rcases mem_reads_of_step h hread with hold | ⟨hchannel, hnone⟩ | ⟨before, hbefore, hnone, rfl⟩
    · exact hcovered.later hle (.inr hold) hcooling hactive
    · exact hcovered.later hle (.inl ⟨hchannel, hnone⟩) hcooling hactive
    · have hcovers := hcovered.later hle (.inr hbefore) hcooling hactive
      unfold RouteRead.CoveredUntil at hcovers ⊢
      rw [hnone] at hcovers
      dsimp only
      cases hopen : failureDomainStateIsOpen event.time
          s.failureDomains.accounts[before.channel.poolState.accountId]? with
      | true => trivial
      | false =>
          refine hcovers.resolve_left fun haccount => ?_
          rw [open_of_openAtLeast haccount hactive] at hopen
          cases hopen

/-- From a covered state, the next one is covered just when the step meets the condition. -/
theorem allCovered_iff_of_step (h : s.Step event s') (hwf : s.Wf) (hcovered : s.AllCovered) :
    s'.AllCovered ↔ KeepsCovered s event := by
  rcases writes_or_leaves h with ⟨index, now, write, rfl, hnext, rfl⟩ |
    ⟨hquiet, hchannels, hdomains⟩
  · have hclock : s.clock ≤ now := h.1
    have hkeeps : KeepsCovered s (.write index now) ↔ write.Keeps s now := by
      constructor
      · exact fun hall => hall index now write rfl hnext
      · rintro hone index' now' write' heq hnext'
        cases heq
        obtain rfl := Option.some.inj (hnext.symm.trans hnext')
        exact hone
    rw [hkeeps]
    -- by the kind of the write
    cases write with
    | transition channelId generation health =>
        exact allCovered_transition_iff hwf hcovered hclock
    | account accountId state => exact allCovered_account_iff hwf hcovered hclock
    | provider providerId state => exact allCovered_provider_iff hwf hcovered hclock
    | selectedSuccess channelId =>
        exact iff_of_true (allCovered_selectedSuccess hcovered hclock) trivial
  · refine iff_of_true (allCovered_of_leaves h hchannels hdomains hcovered) ?_
    intro index now write heq
    exact absurd heq (hquiet index now)

end Step

/-- At the start no channel is cooling down. -/
theorem allCovered_of_init {s : HealthState} (h : healthSystem.Init s) : s.AllCovered := by
  obtain ⟨pools, hchannels, -, -, hreads⟩ := h
  rintro read untilInstant reason (⟨⟨channelId, hfound⟩, -⟩ | hmem) hcooling
  · obtain ⟨poolState, -, heq⟩ := hchannels channelId read.channel hfound
    rw [heq] at hcooling
    cases hcooling
  · rw [hreads] at hmem
    cases hmem

/-- In every run whose writes keep the cooldowns covered, every route state of a channel with
an available credential is soft in every state reached, however the parts of its reading and
the writes of others fall; and a write that breaks the condition leads to a state in which
some route state is not. -/
theorem soft_unless_uncovered (s : HealthState)
    (h : (healthSystem.restrict KeepsCovered).Reachable s) :
    s.Soft ∧ ∀ event s', healthSystem.Step s event s' → (s'.Soft ↔ KeepsCovered s event) := by
  have hinv : s.Wf ∧ s.AllCovered := by
    refine TransitionSystem.Reachable.invariant (S := healthSystem.restrict KeepsCovered)
      (I := fun s => s.Wf ∧ s.AllCovered)
      (fun s hs => ⟨healthSystem_init hs, allCovered_of_init hs⟩) ?_ h
    intro s event s' ⟨hwf, hcovered⟩ ⟨hstep, hkeeps⟩
    exact ⟨HealthState.wf_of_step hstep hwf,
      (allCovered_iff_of_step hstep hwf hcovered).mpr hkeeps⟩
  obtain ⟨hwf, hcovered⟩ := hinv
  refine ⟨(covered_iff_soft hwf).mp hcovered, ?_⟩
  intro event s' hstep
  rw [← covered_iff_soft (HealthState.wf_of_step hstep hwf)]
  exact allCovered_iff_of_step hstep hwf hcovered

/-! ## §5. A success that turns a sibling hard. -/

/-- A channel with the account that both channels below share. -/
def sharedAccountChannel : PoolState where
  configGeneration := 1
  providerId := "provider"
  accountId := "account"
  credentialSetId := "set"
  providerKind := .openAiCompatible
  apiBase := "https://a.example/v1"
  authHeader := "authorization"
  authPrefix := "Bearer "
  retrySwitchedKeyInSameRequest := false
  maxSameRequestRetries := 0
  routeTargetRetryEnabled := true
  defaultCredentialCooldown := 20
  pool := "set"

/-- Two channels with one account, in a new runtime. -/
def siblingsStart : HealthState where
  channels := TreeMap.ofList
    [("a", ChannelRuntime.fromPoolState sharedAccountChannel true true),
      ("b", ChannelRuntime.fromPoolState sharedAccountChannel true true)]
  failureDomains := .new [("provider", "account"), ("provider", "account")]
  clock := 0
  operations := []
  reads := []

/-- Channel `a` gets a 503 with `Retry-After: 60` at time 0.  Its selection is of the first
generation, and the answer counts as one of the upstream's own. -/
def retryAfterReport : TransitionInput where
  snapshot := {
    requestId := "r"
    configGeneration := 1
    channelHealthGeneration := 1
    clientTokenId := "client"
    requestedModel := none
    endpoint := .chatCompletions
    routeTargetIndex := none
    channelId := "a"
    providerId := "provider"
    accountId := "account"
    providerKind := .openAiCompatible
    credentialId := "cred"
    credentialFingerprint := "print"
    classifierId := "classifier"
    classifierVersion := "1"
    retryCandidates := []
    bodyReplayable := true
    streaming := false
    partialOutputStarted := false
    routeTargetAvailable := false
    effectiveDeadline := none
    attempt := 0
    selectionReason := .modelMapping }
  failure := { classifyTransportFailure with
    cooldown := some (Duration.fromSecs 60)
    retryAfterSource := some .deltaSeconds
    upstreamStatus := some 503 }
  failureSource := .upstreamTransaction
  now := 0
  nextAttemptBudget := none
  policy := ⟨false, 0, true, 20⟩

theorem siblingsStart_init : healthSystem.Init siblingsStart := by
  refine ⟨[("a", sharedAccountChannel), ("b", sharedAccountChannel)], ?_, rfl, rfl, rfl⟩
  intro channelId channel hfound
  have hmem : channelId ∈ siblingsStart.channels :=
    TreeMap.mem_iff_isSome_getElem?.mpr (by rw [hfound]; rfl)
  have hname : channelId = "a" ∨ channelId = "b" := by
    have hkeys := List.contains_iff_mem.mp (TreeMap.mem_ofList.mp hmem)
    simpa using hkeys
  rcases hname with rfl | rfl
  · exact ⟨sharedAccountChannel, List.mem_cons_self, Option.some.inj (hfound.symm.trans rfl)⟩
  · exact ⟨sharedAccountChannel, List.mem_cons_of_mem _ List.mem_cons_self,
      Option.some.inj (hfound.symm.trans rfl)⟩

/-- What a mutation finds beside the channel and the domains. -/
def mutationStateOf (channel : ChannelRuntime) (domains : FailureDomainRegistry) :
    MutationState where
  channel := channel
  failureDomains := domains
  pool := freshPool
  selectorGeneration := 1
  persistence := ⟨true, false, []⟩

/-- The operation makes its next write at `now`. -/
def HealthState.writeNext (s : HealthState) (index : Nat) (now : Instant) : HealthState :=
  match s.nextWrite index with
  | some write => { s.performWrite index write with clock := now }
  | none => s

/-- The next write of an operation is a step, at any time that is not before the last. -/
theorem HealthState.writeNext_step {s : HealthState} {index : Nat} {now : Instant}
    {write : HealthWrite} (hnext : s.nextWrite index = some write) (hclock : s.clock ≤ now) :
    healthSystem.Step s (.write index now) (s.writeNext index now) := by
  refine ⟨hclock, write, hnext, ?_⟩
  unfold HealthState.writeNext
  rw [hnext]

/-- What the mutation of a report of channel `a` writes. -/
def reportWrites (generation : Nat) (untilInstant : Option Instant) : List HealthWrite :=
  mutationWrites "a" { retryAfterReport.snapshot with channelHealthGeneration := generation }
    (.markProviderAccountChannelCoolingDownOrDegraded "a" "provider" "account" untilInstant
      .upstreamProviderUnavailable)

/-- The report has begun. -/
def siblingsReporting : HealthState :=
  { siblingsStart with
    operations := [⟨some "set", reportWrites 1 (some (Duration.fromSecs 60))⟩] }

/-- The health of `a` is written, the domains are not yet. -/
def siblingsBetween : HealthState := siblingsReporting.writeNext 0 0

/-- After the report. -/
def siblingsReported : HealthState := (siblingsBetween.writeNext 0 0).writeNext 0 0

/-- A request of channel `b` succeeds at time 1. -/
def siblingsSucceeding : HealthState :=
  { siblingsReported with
    clock := 1
    operations := siblingsReported.operations ++ [⟨none, successWrites "b" sharedAccountChannel⟩] }

/-- After the success. -/
def siblingsSucceeded : HealthState :=
  ((siblingsSucceeding.writeNext 1 1).writeNext 1 1).writeNext 1 1

def coolingChannel : ChannelRuntime :=
  { ChannelRuntime.fromPoolState sharedAccountChannel true true with
    health := .coolingDown (Duration.fromSecs 60) "upstream provider unavailable"
    channelHealthGeneration := 2 }

theorem siblings_report :
    healthSystem.Step siblingsStart (.report "a" retryAfterReport) siblingsReporting :=
  ⟨Nat.le_refl _, .fromPoolState sharedAccountChannel true true, _, rfl,
    ⟨rfl, rfl, rfl, rfl, rfl, Nat.le_refl _⟩, by decide, nofun, rfl⟩

theorem siblings_success :
    healthSystem.Step siblingsReported (.success "b" 1) siblingsSucceeding :=
  ⟨Nat.zero_le _, .fromPoolState sharedAccountChannel true true, rfl, rfl⟩

theorem siblingsBetween_reachable : healthSystem.Reachable siblingsBetween :=
  ((TransitionSystem.Reachable.init siblingsStart_init).step siblings_report).step
    (HealthState.writeNext_step rfl (Nat.le_refl _))

theorem siblingsReported_reachable : healthSystem.Reachable siblingsReported :=
  (siblingsBetween_reachable.step (HealthState.writeNext_step rfl (Nat.le_refl _))).step
    (HealthState.writeNext_step rfl (Nat.le_refl _))

theorem siblingsSucceeded_reachable : healthSystem.Reachable siblingsSucceeded :=
  (((siblingsReported_reachable.step siblings_success).step
    (HealthState.writeNext_step rfl (Nat.le_refl _))).step
    (HealthState.writeNext_step rfl (Nat.le_refl _))).step
    (HealthState.writeNext_step rfl (Nat.le_refl _))

/-- A channel that is hard now. -/
theorem not_soft_of_coolingDown {s : HealthState} {channelId : String} {channel : ChannelRuntime}
    {now : Instant} (hfound : s.channels[channelId]? = some channel) (hclock : s.clock ≤ now)
    (hhard : routeStateForPool channel (some freshPool) s.failureDomains (.at' now) =
      .coolingDown) : ¬ s.Soft := by
  intro hsoft
  rcases hsoft ⟨channel, none⟩ (some freshPool) (.at' now) (.inl ⟨⟨channelId, hfound⟩, rfl⟩) hclock
    (fun p hp => Option.some.inj hp ▸ freshPool_available _) with hstate | ⟨hnone, -⟩
  · rw [RouteRead.routeState_at_once, hhard] at hstate
    rcases hstate with h | h | h <;> cases h
  · cases hnone

/-- The report leaves channel `a` soft, and the success of `b` turns it hard: with nothing
half written, before or after.  In the middle of the report it was hard as well. -/
theorem sibling_success_turns_hard :
    healthSystem.Reachable siblingsReported ∧ healthSystem.Reachable siblingsSucceeded ∧
      siblingsReported.operations.all (·.writes.isEmpty) = true ∧
      siblingsSucceeded.operations.all (·.writes.isEmpty) = true ∧
      siblingsReported.channels["a"]? = some coolingChannel ∧
      siblingsSucceeded.channels["a"]? = some coolingChannel ∧
      freshPool.hasAvailableCredentialsReadOnly 1 = true ∧
      routeStateForPool coolingChannel (some freshPool) siblingsReported.failureDomains (.at' 1) =
        .providerCoolingDown ∧
      routeStateForPool coolingChannel (some freshPool) siblingsSucceeded.failureDomains
        (.at' 1) = .coolingDown ∧
      ¬ siblingsSucceeded.Soft ∧
      healthSystem.Reachable siblingsBetween ∧ ¬ siblingsBetween.Soft := by
  have hfound : siblingsSucceeded.channels["a"]? = some coolingChannel := rfl
  have hhard : routeStateForPool coolingChannel (some freshPool)
      siblingsSucceeded.failureDomains (.at' 1) = .coolingDown := by decide
  have hbetween : siblingsBetween.channels["a"]? = some coolingChannel := rfl
  refine ⟨siblingsReported_reachable, siblingsSucceeded_reachable, rfl, rfl, rfl, hfound,
    by decide, by decide, hhard, not_soft_of_coolingDown hfound (Nat.le_refl _) hhard,
    siblingsBetween_reachable, ?_⟩
  have hhardBetween : routeStateForPool coolingChannel (some freshPool)
      siblingsBetween.failureDomains (.at' 0) = .coolingDown := by decide
  exact not_soft_of_coolingDown hbetween (Nat.le_refl _) hhardBetween

/-! ## §6. A cooldown that is covered from the first write on. -/

/-- The end of a cooldown. -/
def ChannelHealth.cooldownEnd : ChannelHealth → Option Instant
  | coolingDown untilInstant _ => some untilInstant
  | available | degraded _ | disabled _ => none

/-- The ends of the cooldowns that can be looked at. -/
def HealthState.cooldownEnds (s : HealthState) : List Instant :=
  (s.channels.toList.map (·.2.health) ++ s.reads.map (·.channel.health)).filterMap
    (·.cooldownEnd)

/-- The cooldown of a channel that is being read is among those that have to be covered. -/
theorem mem_cooldownEnds {s : HealthState} {read : RouteRead} {untilInstant : Instant}
    {reason : String} (hwatched : s.Watches read)
    (hcooling : read.channel.health = .coolingDown untilInstant reason) :
    untilInstant ∈ s.cooldownEnds := by
  refine List.mem_filterMap.mpr ⟨read.channel.health, ?_, by rw [hcooling]; rfl⟩
  rcases hwatched with ⟨⟨channelId, hfound⟩, -⟩ | hread
  · have hentry := TreeMap.mem_toList_iff_getElem?_eq_some.mpr hfound
    exact List.mem_append_left _ (List.mem_map.mpr ⟨_, hentry, rfl⟩)
  · exact List.mem_append_right _ (List.mem_map_of_mem hread)

/-- A domain may be written that is open to the end of every cooldown there is. -/
theorem keeps_of_cooldownEnds {s : HealthState} {state : FailureDomainState}
    (h : ∀ untilInstant ∈ s.cooldownEnds, OpenAtLeast untilInstant (some state)) (id : String)
    (now : Instant) :
    (HealthWrite.account id state).Keeps s now ∧ (HealthWrite.provider id state).Keeps s now :=
  ⟨fun _ _ _ hwatched _ _ hcooling _ => .inl (h _ (mem_cooldownEnds hwatched hcooling)),
    fun _ _ _ hwatched _ hcooling _ => .inl (h _ (mem_cooldownEnds hwatched hcooling))⟩

/-- The next write of an operation, when it keeps the healths covered. -/
theorem writeNext_keeping {s : HealthState} (index : Nat) {write : HealthWrite}
    (h : (healthSystem.restrict KeepsCovered).Reachable s)
    (hnext : s.nextWrite index = some write) (hclock : s.clock ≤ 0) (hkeeps : write.Keeps s 0) :
    (healthSystem.restrict KeepsCovered).Reachable (s.writeNext index 0) := by
  refine h.step ⟨HealthState.writeNext_step hnext hclock, ?_⟩
  intro index' now' write' heq hnext'
  cases heq
  obtain rfl := Option.some.inj (hnext.symm.trans hnext')
  exact hkeeps

/-- A request of channel `a`, selected at a generation, ends with a provider failure at time 0. -/
def unavailableReport (generation : Nat) (retryAfter : Option Duration) : TransitionInput :=
  { retryAfterReport with
    snapshot := { retryAfterReport.snapshot with channelHealthGeneration := generation }
    failure := { retryAfterReport.failure with cooldown := retryAfter } }

def HealthState.withReport (s : HealthState) (generation : Nat) (untilInstant : Option Instant) :
    HealthState :=
  { s with operations := s.operations ++ [⟨some "set", reportWrites generation untilInstant⟩] }

/-- All three writes of an operation. -/
def HealthState.writeThree (s : HealthState) (index : Nat) : HealthState :=
  ((s.writeNext index 0).writeNext index 0).writeNext index 0

/-- A first report without `Retry-After` degrades channel `a`. -/
def degradedState : HealthState := (siblingsStart.withReport 1 none).writeThree 0

/-- A second one, as old as the first, opens the domains until 60 s and leaves the health. -/
def openedState : HealthState :=
  (degradedState.withReport 1 (some (Duration.fromSecs 60))).writeThree 1

/-- A third one, which is not stale, makes the channel cool down as long. -/
def coveredState : HealthState :=
  (openedState.withReport 2 (some (Duration.fromSecs 60))).writeThree 2

/-- The channel after the first report. -/
def degradedChannel : ChannelRuntime :=
  { ChannelRuntime.fromPoolState sharedAccountChannel true true with
    health := .degraded "upstream provider unavailable"
    channelHealthGeneration := 2 }

theorem openAtLeast_of_ends {s : HealthState} {ends : List Instant} (hends : s.cooldownEnds = ends)
    {deadline : Instant} {reason : String} (hle : ∀ ending ∈ ends, ending ≤ deadline) :
    ∀ ending ∈ s.cooldownEnds, OpenAtLeast ending (some (.openUntil deadline reason)) := by
  intro ending hending
  rw [hends] at hending
  exact ⟨deadline, reason, rfl, hle ending hending⟩

theorem degradedState_reachable : (healthSystem.restrict KeepsCovered).Reachable degradedState := by
  have hbegin : healthSystem.Step siblingsStart (.report "a" (unavailableReport 1 none))
      (siblingsStart.withReport 1 none) :=
    ⟨Nat.le_refl _, .fromPoolState sharedAccountChannel true true, _, rfl,
      ⟨rfl, rfl, rfl, rfl, rfl, Nat.le_refl _⟩, by decide, nofun, rfl⟩
  have hreachable := (TransitionSystem.Reachable.init (S := healthSystem.restrict KeepsCovered)
    siblingsStart_init).step ⟨hbegin, nofun⟩
  -- nothing cools down yet
  have hends : ∀ s : HealthState, s.cooldownEnds = [] → ∀ ending ∈ s.cooldownEnds,
      OpenAtLeast ending (some (.degraded "upstream provider unavailable")) := by
    intro s hnone ending hmem
    rw [hnone] at hmem
    cases hmem
  have hhealth := writeNext_keeping 0 hreachable rfl (Nat.le_refl _) nofun
  have hprovider := writeNext_keeping 0 hhealth rfl (Nat.le_refl _)
    (keeps_of_cooldownEnds (hends _ (by decide)) "provider" 0).2
  exact writeNext_keeping 0 hprovider rfl (Nat.le_refl _)
    (keeps_of_cooldownEnds (hends _ (by decide)) "account" 0).1

theorem openedState_reachable : (healthSystem.restrict KeepsCovered).Reachable openedState := by
  have hbegin : healthSystem.Step degradedState
      (.report "a" (unavailableReport 1 (some (Duration.fromSecs 60))))
      (degradedState.withReport 1 (some (Duration.fromSecs 60))) :=
    ⟨Nat.le_refl _, degradedChannel, _, rfl, ⟨rfl, rfl, rfl, rfl, rfl, by decide⟩, by decide,
      by decide, rfl⟩
  have hreachable := degradedState_reachable.step ⟨hbegin, nofun⟩
  -- the report is stale
  have hhealth := writeNext_keeping 1 hreachable rfl (Nat.le_refl _) (by
    intro channel untilInstant reason hfound hgeneration
    obtain rfl : degradedChannel = channel := Option.some.inj hfound
    cases hgeneration)
  have hprovider := writeNext_keeping 1 hhealth rfl (Nat.le_refl _)
    (keeps_of_cooldownEnds (openAtLeast_of_ends (by decide : _ = []) nofun) "provider" 0).2
  exact writeNext_keeping 1 hprovider rfl (Nat.le_refl _)
    (keeps_of_cooldownEnds (openAtLeast_of_ends (by decide : _ = []) nofun) "account" 0).1

theorem coveredState_reachable : (healthSystem.restrict KeepsCovered).Reachable coveredState := by
  have hbegin : healthSystem.Step openedState
      (.report "a" (unavailableReport 2 (some (Duration.fromSecs 60))))
      (openedState.withReport 2 (some (Duration.fromSecs 60))) :=
    ⟨Nat.le_refl _, degradedChannel, _, rfl, ⟨rfl, rfl, rfl, rfl, rfl, by decide⟩, by decide,
      by decide, rfl⟩
  have hreachable := openedState_reachable.step ⟨hbegin, nofun⟩
  -- the domains are open as long as the cooldown that is written
  have hhealth := writeNext_keeping 2 hreachable rfl (Nat.le_refl _) (by
    intro channel untilInstant reason hfound _ hcooling _
    obtain rfl : degradedChannel = channel := Option.some.inj hfound
    cases hcooling
    exact .inl ⟨Duration.fromSecs 60, "upstream provider unavailable", rfl, Nat.le_refl _⟩)
  have hsixty : ∀ ending ∈ [Duration.fromSecs 60], ending ≤ Duration.fromSecs 60 := by decide
  have hprovider := writeNext_keeping 2 hhealth rfl (Nat.le_refl _)
    (keeps_of_cooldownEnds (openAtLeast_of_ends (by decide) hsixty) "provider" 0).2
  exact writeNext_keeping 2 hprovider rfl (Nat.le_refl _)
    (keeps_of_cooldownEnds (openAtLeast_of_ends (by decide) hsixty) "account" 0).1

/-- Channel `a` cools down until 60 s and is soft. -/
theorem soft_unless_uncovered_covered :
    (healthSystem.restrict KeepsCovered).Reachable coveredState ∧
      coveredState.channels["a"]? = some { degradedChannel with
        health := .coolingDown (Duration.fromSecs 60) "upstream provider unavailable"
        channelHealthGeneration := 3 } ∧
      coveredState.Soft :=
  ⟨coveredState_reachable, rfl, (soft_unless_uncovered coveredState coveredState_reachable).1⟩

end OneAiKey
