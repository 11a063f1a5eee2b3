/-
  OneAiKey.ChannelHealth — the health of a channel, the failure domains that
  channels share, and the route state that is read off both (`src/state.rs`).

  A channel's health is its own and carries a generation: an automatic
  transition is applied only if the selection it comes from saw the current one.
  The failure domains of providers and accounts are shared by the channels and
  are overwritten without a check.  `routeStateForPool` reads the clock several
  times; its readings come as a `RouteReadings`.

  The pool of the channel is `none` while another task holds its lock
  (`try_lock` fails).
-/
import OneAiKey.RoutePlan
import OneAiKey.State

namespace OneAiKey

open Std

/-! ## §1. Channel health. -/

/-- The health of a channel. -/
inductive ChannelHealth where
  | available
  | coolingDown (untilInstant : Instant) (reason : String)
  | degraded (reason : String)
  | disabled (reason : String)
  deriving DecidableEq, Repr

/-- Whether the health is the disabled one, for whatever reason. -/
def ChannelHealth.isDisabled : ChannelHealth → Bool
  | disabled _ => true
  | _ => false

/-- A channel's state with the parts that its routing reads and changes. -/
structure ChannelRuntime where
  poolState : PoolState
  configuredEnabled : Bool
  accountEnabled : Bool
  channelHealthGeneration : Nat
  health : ChannelHealth
  relaySuppressionCount : Nat
  deriving DecidableEq, Repr

namespace ChannelRuntime

/-- The channel of a new runtime. -/
def fromPoolState (poolState : PoolState) (configuredEnabled accountEnabled : Bool) :
    ChannelRuntime where
  poolState := poolState
  configuredEnabled := configuredEnabled
  accountEnabled := accountEnabled
  channelHealthGeneration := 1
  health := .available
  relaySuppressionCount := 0

/-- A transition that the program itself makes: never out of a disablement, and only for the
generation it was decided in. -/
def applyAutomaticChannelHealthTransition (channel : ChannelRuntime) (expectedGeneration : Nat)
    (nextHealth : ChannelHealth) : ChannelRuntime × Bool :=
  if channel.health.isDisabled then (channel, false)
  else if channel.channelHealthGeneration ≠ expectedGeneration then (channel, false)
  else
    ({ channel with
        health := nextHealth
        channelHealthGeneration := channel.channelHealthGeneration + 1 }, true)

/-- May a relay suppression replace this health at `now`? -/
def canApplySuppression (now : Instant) : ChannelHealth → Bool
  | .available | .degraded _ => true
  | .coolingDown untilInstant _ => decide (untilInstant ≤ now)
  | .disabled _ => false

/-- A suppression for a spent balance, which is counted with those before it. -/
def applyAutomaticRelayBalanceSuppression (channel : ChannelRuntime) (expectedGeneration : Nat)
    (untilInstant : Instant) (reason : String) (now : Instant) : ChannelRuntime × Option Nat :=
  if !channel.configuredEnabled || !channel.accountEnabled then (channel, none)
  else if channel.health.isDisabled then (channel, none)
  else if channel.channelHealthGeneration ≠ expectedGeneration then (channel, none)
  else if !canApplySuppression now channel.health then (channel, none)
  else
    ({ channel with
        health := .coolingDown untilInstant reason
        channelHealthGeneration := channel.channelHealthGeneration + 1
        relaySuppressionCount := channel.relaySuppressionCount + 1 },
      some (channel.relaySuppressionCount + 1))

/-- A success makes the channel available, unless it is disabled. -/
def recordSelectedChannelSuccess (channel : ChannelRuntime) : ChannelRuntime :=
  let channel := { channel with relaySuppressionCount := 0 }
  if channel.health.isDisabled then channel
  else
    { channel with
      health := .available
      channelHealthGeneration := channel.channelHealthGeneration + 1 }

/-- An automatic transition writes the health of a channel that is not disabled, if the
generation is still the expected one. -/
theorem applyAutomaticChannelHealthTransition_cases (channel : ChannelRuntime)
    (expected : Nat) (health : ChannelHealth) :
    (channel.applyAutomaticChannelHealthTransition expected health).1 = channel ∧
        (channel.health.isDisabled = true ∨ channel.channelHealthGeneration ≠ expected) ∨
      channel.health.isDisabled = false ∧ channel.channelHealthGeneration = expected ∧
        (channel.applyAutomaticChannelHealthTransition expected health).1 =
          { channel with
            health := health
            channelHealthGeneration := channel.channelHealthGeneration + 1 } := by
  unfold applyAutomaticChannelHealthTransition
  split
  · next h => exact Or.inl ⟨rfl, Or.inl h⟩
  · next h =>
      split
      · next hne => exact Or.inl ⟨rfl, Or.inr hne⟩
      · next heq => exact Or.inr ⟨by simpa using h, not_not.mp heq, rfl⟩

/-- A suppression that is applied finds no disabled channel and no cooldown that lasts. -/
theorem applyAutomaticRelayBalanceSuppression_cases (channel : ChannelRuntime)
    (expected : Nat) (untilInstant : Instant) (reason : String) (now : Instant) :
    (channel.applyAutomaticRelayBalanceSuppression expected untilInstant reason now).1 =
        channel ∨
      channel.health.isDisabled = false ∧ channel.channelHealthGeneration = expected ∧
        (∀ later text, channel.health = .coolingDown later text → later ≤ now) ∧
        (channel.applyAutomaticRelayBalanceSuppression expected untilInstant reason now).1 =
          { channel with
            health := .coolingDown untilInstant reason
            channelHealthGeneration := channel.channelHealthGeneration + 1
            relaySuppressionCount := channel.relaySuppressionCount + 1 } := by
  unfold applyAutomaticRelayBalanceSuppression
  split
  · exact Or.inl rfl
  · split
    · exact Or.inl rfl
    · next hdisabled =>
        split
        · exact Or.inl rfl
        · next hgeneration =>
            split
            · exact Or.inl rfl
            · next hcan =>
                refine Or.inr ⟨by simpa using hdisabled, not_not.mp hgeneration, ?_, rfl⟩
                intro later text hhealth
                rw [hhealth] at hcan
                simpa [canApplySuppression] using hcan

/-- A success makes a channel available that is not disabled. -/
theorem recordSelectedChannelSuccess_cases (channel : ChannelRuntime) :
    channel.health.isDisabled = true ∧
        channel.recordSelectedChannelSuccess = { channel with relaySuppressionCount := 0 } ∨
      channel.health.isDisabled = false ∧
        channel.recordSelectedChannelSuccess =
          { channel with
            relaySuppressionCount := 0
            health := .available
            channelHealthGeneration := channel.channelHealthGeneration + 1 } := by
  unfold recordSelectedChannelSuccess
  dsimp only
  split
  · next hdisabled => exact Or.inl ⟨hdisabled, rfl⟩
  · next henabled => exact Or.inr ⟨eq_false_of_ne_true henabled, rfl⟩

end ChannelRuntime

/-! ## §2. Failure domains. -/

/-- The state of a provider or an account. -/
inductive FailureDomainState where
  | closed
  | openUntil (untilInstant : Instant) (reason : String)
  | degraded (reason : String)
  deriving DecidableEq, Repr

/-- The states of providers and accounts. -/
structure FailureDomainRegistry where
  providers : TreeMap String FailureDomainState
  accounts : TreeMap String FailureDomainState

/-- Replace the state of a domain that exists. -/
def setDomainState (domains : TreeMap String FailureDomainState) (id : String)
    (state : FailureDomainState) : TreeMap String FailureDomainState :=
  if id ∈ domains then domains.insert id state else domains

/-- Is the domain held back at this moment? -/
def failureDomainStateIsOpen (now : Instant) : Option FailureDomainState → Bool
  | some (.openUntil untilInstant _) => decide (now < untilInstant)
  | _ => false

namespace FailureDomainRegistry

/-- `new`, from the provider and the account of each channel. -/
def new (channelIds : List (String × String)) : FailureDomainRegistry where
  providers := TreeMap.ofList (channelIds.map fun ids => (ids.1, FailureDomainState.closed))
  accounts := TreeMap.ofList (channelIds.map fun ids => (ids.2, FailureDomainState.closed))

/-- Both domains of a channel get the same state. -/
def setBoth (registry : FailureDomainRegistry) (providerId accountId : String)
    (state : FailureDomainState) : FailureDomainRegistry where
  providers := setDomainState registry.providers providerId state
  accounts := setDomainState registry.accounts accountId state

/-- The state that a provider-unavailable report puts both domains in. -/
def unavailableState (untilInstant : Option Instant) (reason : String) : FailureDomainState :=
  match untilInstant with
  | some untilInstant => .openUntil untilInstant reason
  | none => .degraded reason

/-- A failure of the provider, noted for it and for the account. -/
def applyProviderUnavailable (registry : FailureDomainRegistry) (providerId accountId : String)
    (untilInstant : Option Instant) (reason : String) : FailureDomainRegistry :=
  registry.setBoth providerId accountId (unavailableState untilInstant reason)

/-- A success closes both domains. -/
def recordSuccess (registry : FailureDomainRegistry) (providerId accountId : String) :
    FailureDomainRegistry :=
  registry.setBoth providerId accountId .closed

/-- The account is looked at first. -/
def routeState (registry : FailureDomainRegistry) (providerId accountId : String)
    (accountNow providerNow : Instant) : Option ChannelRouteState :=
  if failureDomainStateIsOpen accountNow registry.accounts[accountId]? then
    some .providerCoolingDown
  else if failureDomainStateIsOpen providerNow registry.providers[providerId]? then
    some .providerCoolingDown
  else none

end FailureDomainRegistry

/-! ## §3. The route state. -/

/-- The texts of the failure reasons. -/
def reasonText : FailureReason → String
  | .upstreamAuthInvalid => "upstream reported expired credential"
  | .upstreamRateLimited => "switchable upstream failure"
  | .upstreamQuotaExhausted => "upstream reported quota exhausted"
  | .relayBalanceUnavailable => "relay balance unavailable"
  | .upstreamProviderUnavailable => "upstream provider unavailable"
  | .responseFilterRejected => "response filter rejected upstream response"
  | .keySwitchCooldown => "upstream key switch cooldown"
  | .clientOrModelError => "client or model error"
  | .unknown => "unknown upstream failure"

/-- The clock readings of one `route_state_for_pool`, in the order they are made. -/
structure RouteReadings where
  account : Instant
  provider : Instant
  channel : Instant
  credentials : Instant
  cooldowns : Instant
  account_le : account ≤ provider
  provider_le : provider ≤ channel
  channel_le : channel ≤ credentials
  credentials_le : credentials ≤ cooldowns

def channelCooldownIsProviderFailureDomainSoftState (health : ChannelHealth)
    (failureDomainState : Option ChannelRouteState) : Bool :=
  match failureDomainState, health with
  | some .providerCoolingDown, .coolingDown _ reason =>
      reason == "upstream provider unavailable"
  | _, _ => false

/-- The hard part of the route state: the channel is switched off, or cools down for
itself. -/
def hardRouteState (channel : ChannelRuntime) (failureDomainState : Option ChannelRouteState)
    (now : Instant) : Option ChannelRouteState :=
  if !channel.configuredEnabled then some .disabled
  else if !channel.accountEnabled then some .disabled
  else
    match channel.health with
    | .disabled _ => some .disabled
    | .coolingDown untilInstant _ =>
        if now < untilInstant ∧ channelCooldownIsProviderFailureDomainSoftState channel.health
            failureDomainState = false then
          some .coolingDown
        else none
    | .available | .degraded _ => none

/-- The route state, once the domains of the channel have been looked at.  What is hard goes
before everything else.  A pool that is locked cannot be asked for its credentials, and without
one that is available neither the domains nor the health matter. -/
def routeStateFromDomain (channel : ChannelRuntime) (pool : Option KeyPool)
    (failureDomainState : Option ChannelRouteState) (r : RouteReadings) : ChannelRouteState :=
  match hardRouteState channel failureDomainState r.channel with
  | some state => state
  | none =>
      match pool with
      | none => failureDomainState.getD .runtimeUnavailable
      | some pool =>
          if !pool.hasAvailableCredentialsReadOnly r.credentials then
            if pool.hasCoolingDownCredentialsReadOnly r.cooldowns then .credentialCoolingDown
            else .noAvailableCredentials
          else
            match failureDomainState with
            | some state => state
            | none =>
                match channel.health with
                | .available | .coolingDown _ _ => .available
                | .degraded _ => .degraded
                | .disabled _ => .disabled

/-- A channel as routing sees it, by its health, its pool and its failure domains. -/
def routeStateForPool (channel : ChannelRuntime) (pool : Option KeyPool)
    (failureDomains : FailureDomainRegistry) (r : RouteReadings) : ChannelRouteState :=
  routeStateFromDomain channel pool
    (failureDomains.routeState channel.poolState.providerId channel.poolState.accountId
      r.account r.provider) r

end OneAiKey
