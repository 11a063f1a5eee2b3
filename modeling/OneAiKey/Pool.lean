/-
  OneAiKey.Pool — the credential pool (`src/pool.rs`).

  A pool keeps its credentials in a vector and, beside their states, three
  indices that have to agree with them:

    * `credentialIndex` — id to position;
    * `availableIndices` — the positions that may be selected, ordered;
    * `cooldownDeadlines` / `cooldownDeadlineByIndex` — the positions that
      wait for a deadline, as a `DeadlineIndex`.

  A passed deadline is promoted lazily, by `refreshAvailableIndices`.  Every
  operation takes the clock readings it makes as arguments and returns the
  new pool beside the source's return value.  The hash maps of the source
  are tree maps here: nothing iterates over them.

  An index out of range panics in the source.  `selectedKeyAt` reports it as
  `PoolFailure.indexOutOfBounds`, the mutators find no credential to change;
  `Pool/Invariant.lean` shows that no operation gets there.
-/
import OneAiKey.Credentials
import OneAiKey.Lib.DeadlineIndex
import OneAiKey.Lib.TransitionSystem

namespace OneAiKey

open Std

/-- A secret, and where it was found. -/
structure PoolCredentialInput where
  secret : String
  source : CredentialSource
  deriving DecidableEq, Repr

/-- What a pool is built from.  The namespace keeps ids of equal secrets in different sets apart.
-/
structure KeyPoolConfig where
  name : String
  credentialNamespace : String
  apiBase : String
  credentials : List PoolCredentialInput
  deriving DecidableEq, Repr

/-- A selected credential, as much of it as a request needs. -/
structure SelectedKey where
  apiBase : String
  key : String
  credentialId : CredentialId
  credentialFingerprint : CredentialFingerprint
  deriving DecidableEq, Repr

/-- A credential that a retry may try, without its secret. -/
structure CredentialCandidate where
  credentialId : CredentialId
  fingerprint : CredentialFingerprint
  deriving DecidableEq, Repr

/-- What a failure report did to the sticky pointer. -/
inductive SwitchOutcome where
  | switched
  | noAlternative
  | staleFailure
  deriving DecidableEq, Repr

/-- Why an operation gives no value: an error with its text, or a panic. -/
inductive PoolFailure where
  | error (message : String)
  | indexOutOfBounds
  deriving DecidableEq, Repr

/-- A pool of credentials with its indices: the positions that are listed as available, and the
deadlines of those that are cooling down, by deadline and by position. -/
structure KeyPool where
  config : KeyPoolConfig
  credentials : List Credential
  credentialIndex : TreeMap CredentialId Nat
  availableIndices : TreeSet Nat
  cooldownDeadlines : TreeMap Instant (TreeSet Nat)
  cooldownDeadlineByIndex : TreeMap Nat Instant
  current : Nat

namespace KeyPool

/-! ## §1. Construction. -/

/-- The credentials of a list of inputs, in order. -/
def credentialsOf (credentialNamespace : String) (inputs : List PoolCredentialInput) :
    List Credential :=
  inputs.map fun input => Credential.withSource credentialNamespace input.secret input.source

/-- Id to position; a later credential replaces an earlier one of the same id. -/
def indexCredentials (credentials : List Credential) : TreeMap CredentialId Nat :=
  TreeMap.ofList (credentials.zipIdx.map fun entry => (entry.1.id, entry.2))

/-- The pool that `new` builds: everything available, the first credential current. -/
def ofConfig (config : KeyPoolConfig) : KeyPool :=
  let credentials := credentialsOf config.credentialNamespace config.credentials
  { config := config
    credentials := credentials
    credentialIndex := indexCredentials credentials
    availableIndices := TreeSet.ofList (List.range credentials.length)
    cooldownDeadlines := ∅
    cooldownDeadlineByIndex := ∅
    current := 0 }

/-- A pool has at least one credential; all of them are available at first. -/
def new (config : KeyPoolConfig) : Except PoolFailure KeyPool :=
  if config.credentials.isEmpty then
    .error (.error ("pool " ++ config.name ++ " has no keys"))
  else .ok (ofConfig config)

/-! ## §2. The index structures. -/

/-- The position of a credential. -/
def indexForId (p : KeyPool) (credentialId : CredentialId) : Option Nat :=
  p.credentialIndex[credentialId]?

/-- `self.credentials[index].mark_*(..)`. -/
def modifyCredential (p : KeyPool) (index : Nat) (mark : Credential → Credential) : KeyPool :=
  { p with credentials := p.credentials.modify index mark }

/-- Does `test` hold of the state of `self.credentials[index]`? -/
def stateAt (p : KeyPool) (index : Nat) (test : CredentialState → Bool) : Bool :=
  p.credentials[index]?.any fun credential => test credential.state

/-- Forget the deadline of a position, in both maps. -/
def removeCooldownDeadline (p : KeyPool) (index : Nat) : KeyPool :=
  match p.cooldownDeadlineByIndex[index]? with
  | none => p
  | some deadline =>
      { p with
        cooldownDeadlineByIndex := p.cooldownDeadlineByIndex.erase index
        cooldownDeadlines := DeadlineIndex.unfile p.cooldownDeadlines deadline index }

/-- List a position as available. -/
def markIndexAvailable (p : KeyPool) (index : Nat) : KeyPool :=
  let p := p.removeCooldownDeadline index
  { p with availableIndices := p.availableIndices.insert index }

/-- Take a position out of both indices. -/
def markIndexUnavailable (p : KeyPool) (index : Nat) : KeyPool :=
  let p := p.removeCooldownDeadline index
  { p with availableIndices := p.availableIndices.erase index }

/-- Take a position off the list until a deadline. -/
def markIndexCoolingDown (p : KeyPool) (index : Nat) (untilInstant : Instant) : KeyPool :=
  let p := p.markIndexUnavailable index
  { p with
    cooldownDeadlines := DeadlineIndex.file p.cooldownDeadlines untilInstant index
    cooldownDeadlineByIndex := p.cooldownDeadlineByIndex.insert index untilInstant }

/-- The inner loop's body of `refresh_available_indices`: one index of the bucket
of `deadline`. -/
def promoteIndex (now deadline : Instant) (p : KeyPool) (index : Nat) : KeyPool :=
  if p.cooldownDeadlineByIndex[index]? = some deadline then
    let p := { p with cooldownDeadlineByIndex := p.cooldownDeadlineByIndex.erase index }
    if p.stateAt index (·.isAvailableAt now) then
      { p with availableIndices := p.availableIndices.insert index }
    else p
  else p

/-- The outer loop's body of `refresh_available_indices`: one passed deadline. -/
def promoteDeadline (now : Instant) (p : KeyPool) (deadline : Instant) : KeyPool :=
  match p.cooldownDeadlines[deadline]? with
  | none => p
  | some indices =>
      indices.toList.foldl (promoteIndex now deadline)
        { p with cooldownDeadlines := p.cooldownDeadlines.erase deadline }

/-- List what has cooled down by now, deadline by deadline. -/
def refreshAvailableIndices (p : KeyPool) (now : Instant) : KeyPool :=
  (p.cooldownDeadlines.keys.filter (· ≤ now)).foldl (promoteDeadline now) p

/-- The available positions from `start` on, then the ones before it. -/
def availableIndicesFrom (p : KeyPool) (start : Nat) : List Nat :=
  p.availableIndices.toList.filter (start ≤ ·) ++ p.availableIndices.toList.filter (· < start)

/-- Refresh, and find the first listed position from `start` on. -/
def nextAvailableFrom (p : KeyPool) (start : Nat) (now : Instant) : KeyPool × Option Nat :=
  let p := p.refreshAvailableIndices now
  (p, (p.availableIndicesFrom start).head?)

/-! ## §3. Selection. -/

/-- The key at a position; the source indexes the vector and would panic behind its end. -/
def selectedKeyAt (p : KeyPool) (index : Nat) : Except PoolFailure SelectedKey :=
  match p.credentials[index]? with
  | none => .error .indexOutOfBounds
  | some credential => .ok {
      apiBase := p.config.apiBase
      key := credential.secret
      credentialId := credential.id
      credentialFingerprint := credential.fingerprint }

def select (p : KeyPool) (now : Instant) : KeyPool × Except PoolFailure SelectedKey :=
  match p.nextAvailableFrom p.current now with
  | (p, none) =>
      (p, .error (.error ("pool " ++ p.config.name ++ " has no available credentials")))
  | (p, some index) => ({ p with current := index }, p.selectedKeyAt index)

def selectCredentialById (p : KeyPool) (credentialId : CredentialId) (now : Instant) :
    KeyPool × Except PoolFailure SelectedKey :=
  match p.indexForId credentialId with
  | none =>
      (p, .error (.error ("pool " ++ p.config.name ++ " has no credential " ++ credentialId)))
  | some index =>
      let p := p.refreshAvailableIndices now
      if index ∈ p.availableIndices then
        ({ p with current := index }, p.selectedKeyAt index)
      else
        (p, .error (.error
          ("credential " ++ credentialId ++ " in pool " ++ p.config.name ++ " is not available")))

/-- The positions from `start` to the end, then from the beginning. -/
def indicesFrom (p : KeyPool) (start : Nat) : List Nat :=
  List.range' start (p.credentials.length - start) ++ List.range start

/-- Has position `index` a deadline that is still ahead? -/
def coolingAt (p : KeyPool) (now : Instant) (index : Nat) : Bool :=
  p.cooldownDeadlineByIndex[index]?.any (now < ·)

def selectCoolingDownLastResort (p : KeyPool) (r : Readings) :
    KeyPool × Except PoolFailure SelectedKey :=
  let p := p.refreshAvailableIndices r.first
  match p.nextAvailableFrom p.current r.second with
  | (p, some index) => ({ p with current := index }, p.selectedKeyAt index)
  | (p, none) =>
      match (p.indicesFrom p.current).find? (p.coolingAt r.third) with
      | some index => ({ p with current := index }, p.selectedKeyAt index)
      | none =>
          (p, .error (.error ("pool " ++ p.config.name
            ++ " has no cooling-down credentials for last-resort selection")))

/-- The candidate that stands for position `index`. -/
def candidateAt (p : KeyPool) (index : Nat) : Option CredentialCandidate :=
  p.credentials[index]?.map fun credential => ⟨credential.id, credential.fingerprint⟩

def retryCandidatesFromCurrent (p : KeyPool) (limit : Nat) (now : Instant) :
    KeyPool × List CredentialCandidate :=
  if limit = 0 ∨ p.credentials = [] then (p, [])
  else
    let p := p.refreshAvailableIndices now
    let start := (p.current + 1) % p.credentials.length
    let indices := (p.availableIndicesFrom start).filter (· ≠ p.current)
    (p, (indices.take limit).filterMap p.candidateAt)

def hasAvailableCredentialsReadOnly (p : KeyPool) (now : Instant) : Bool :=
  if !p.availableIndices.isEmpty then true
  else p.cooldownDeadlines.keys.head?.any (· ≤ now)

def hasCoolingDownCredentialsReadOnly (p : KeyPool) (now : Instant) : Bool :=
  p.cooldownDeadlines.keys.getLast?.any (now < ·)

/-! ## §4. Import. -/

/-- Append one credential of `add_credentials`'s second loop. -/
def pushCredential (p : KeyPool) (credential : Credential) : KeyPool :=
  let index := p.credentials.length
  { p with
    credentialIndex := p.credentialIndex.insert credential.id index
    credentials := p.credentials ++ [credential]
    availableIndices := p.availableIndices.insert index }

/-- The first credential of the batch whose id is in the pool or earlier in the
batch. -/
def firstDuplicate (p : KeyPool) (newIds : TreeSet CredentialId) :
    List Credential → Option Credential
  | [] => none
  | credential :: rest =>
      if credential.id ∈ p.credentialIndex ∨ credential.id ∈ newIds then some credential
      else firstDuplicate p (newIds.insert credential.id) rest

/-- A new credential is available, so its snapshot needs no clock reading. -/
def addCredentials (p : KeyPool) (credentialInputs : List PoolCredentialInput) :
    KeyPool × Except PoolFailure (List CredentialSnapshot) :=
  let credentials := credentialsOf p.config.credentialNamespace credentialInputs
  match firstDuplicate p ∅ credentials with
  | some credential =>
      (p, .error (.error
        ("credential " ++ credential.id ++ " already exists in pool " ++ p.config.name)))
  | none =>
      (credentials.foldl pushCredential p, .ok (credentials.map fun c => c.snapshot 0 0))

def containsSecret (p : KeyPool) (secret : String) : Bool :=
  decide ((Credential.withSource p.config.credentialNamespace secret .unknown).id
    ∈ p.credentialIndex)

/-! ## §5. Failure reports. -/

/-- The end of every failure report about the current position: move to the next
available one, if there is another. -/
def switchAwayFrom (p : KeyPool) (failedIndex : Nat) (now : Instant) :
    KeyPool × SwitchOutcome :=
  match p.nextAvailableFrom ((p.current + 1) % p.credentials.length) now with
  | (p, some next) =>
      if next ≠ failedIndex then ({ p with current := next }, .switched)
      else (p, .noAlternative)
  | (p, none) => (p, .noAlternative)

def reportSwitchableFailureUntil (p : KeyPool) (failedIndex : Nat) (untilInstant : Instant)
    (reason : String) (now : Instant) : KeyPool × SwitchOutcome :=
  if p.credentials.length ≤ failedIndex then (p, .staleFailure)
  else if p.stateAt failedIndex (·.isDisabled) then (p, .staleFailure)
  else if failedIndex ≠ p.current then (p, .staleFailure)
  else
    let p := p.modifyCredential failedIndex (·.markCoolingDown untilInstant reason)
    let p := p.markIndexCoolingDown failedIndex untilInstant
    p.switchAwayFrom failedIndex now

def applyCredentialCooldownUntil (p : KeyPool) (credentialId : CredentialId)
    (untilInstant : Instant) (reason : String) (now : Instant) : KeyPool × SwitchOutcome :=
  match p.indexForId credentialId with
  | some index => p.reportSwitchableFailureUntil index untilInstant reason now
  | none => (p, .staleFailure)

def reportExpiredFailure (p : KeyPool) (failedIndex : Nat) (reason : String) (now : Instant) :
    KeyPool × SwitchOutcome :=
  if p.credentials.length ≤ failedIndex then (p, .staleFailure)
  else if p.stateAt failedIndex (·.isDisabled) then (p, .staleFailure)
  else
    let p := p.modifyCredential failedIndex (·.markExpired reason)
    let p := p.markIndexUnavailable failedIndex
    if failedIndex ≠ p.current then (p, .staleFailure)
    else p.switchAwayFrom failedIndex now

def reportExpiredFailureById (p : KeyPool) (credentialId : CredentialId) (reason : String)
    (now : Instant) : KeyPool × SwitchOutcome :=
  match p.indexForId credentialId with
  | some index => p.reportExpiredFailure index reason now
  | none => (p, .staleFailure)

def applyCredentialExpired (p : KeyPool) (credentialId : CredentialId) (reason : String)
    (now : Instant) : KeyPool × SwitchOutcome :=
  p.reportExpiredFailureById credentialId reason now

def applyCredentialQuotaExhausted (p : KeyPool) (credentialId : CredentialId)
    (reason : String) (now : Instant) : KeyPool × SwitchOutcome :=
  match p.indexForId credentialId with
  | some index =>
      if p.stateAt index (·.isDisabled) then (p, .staleFailure)
      else
        let p := p.modifyCredential index (·.markQuotaExhausted reason)
        let p := p.markIndexUnavailable index
        if index = p.current then p.switchAwayFrom index now
        else (p, .staleFailure)
  | none => (p, .staleFailure)

/-! ## §6. Operator commands. -/

/-- `self.credentials[index].snapshot()`. -/
def snapshotAt (p : KeyPool) (index : Nat) (guardNow remainingNow : Instant) :
    Option CredentialSnapshot :=
  p.credentials[index]?.map (·.snapshot guardNow remainingNow)

/-- The snapshot at the end shows an expired or a disabled credential and reads no
clock. -/
def expireCredentialById (p : KeyPool) (credentialId : CredentialId) (reason : String)
    (now : Instant) : KeyPool × Option CredentialSnapshot :=
  match p.indexForId credentialId with
  | none => (p, none)
  | some index =>
      let p := (p.reportExpiredFailure index reason now).1
      (p, p.snapshotAt index now now)

def restoreCredentialById (p : KeyPool) (credentialId : CredentialId) (r : Readings) :
    KeyPool × Option CredentialSnapshot :=
  match p.indexForId credentialId with
  | none => (p, none)
  | some index =>
      let p :=
        if p.stateAt index (·.isExpired) || p.stateAt index (·.isQuotaExhausted) then
          (p.modifyCredential index (·.markAvailable)).markIndexAvailable index
        else p
      (p, p.snapshotAt index r.first r.second)

def disableCredentialById (p : KeyPool) (credentialId : CredentialId) (reason : String)
    (now : Instant) : KeyPool × Option CredentialSnapshot :=
  match p.indexForId credentialId with
  | none => (p, none)
  | some index =>
      let p := p.modifyCredential index (·.markDisabled reason)
      let p := p.markIndexUnavailable index
      let p :=
        if index = p.current then
          match p.nextAvailableFrom ((p.current + 1) % p.credentials.length) now with
          | (p, some next) => { p with current := next }
          | (p, none) => p
        else p
      (p, p.snapshotAt index now now)

def enableCredentialById (p : KeyPool) (credentialId : CredentialId) :
    KeyPool × Option CredentialSnapshot :=
  match p.indexForId credentialId with
  | none => (p, none)
  | some index =>
      let p := (p.modifyCredential index (·.markAvailable)).markIndexAvailable index
      (p, p.snapshotAt index 0 0)

def clearCredentialCooldownById (p : KeyPool) (credentialId : CredentialId) (r : Readings) :
    KeyPool × Option CredentialSnapshot :=
  match p.indexForId credentialId with
  | none => (p, none)
  | some index =>
      let p :=
        if p.stateAt index (·.isCoolingDownAt r.first) then
          (p.modifyCredential index (·.markAvailable)).markIndexAvailable index
        else p
      (p, p.snapshotAt index r.second r.third)

end KeyPool

/-! ## §7. The pool as a transition system. -/

/-- The public operations that change a pool. -/
inductive PoolOp where
  | select
  | selectCredentialById (credentialId : CredentialId)
  | selectCoolingDownLastResort
  | retryCandidatesFromCurrent (limit : Nat)
  | addCredentials (credentialInputs : List PoolCredentialInput)
  | applyCredentialCooldownUntil (credentialId : CredentialId) (untilInstant : Instant)
      (reason : String)
  | reportExpiredFailureById (credentialId : CredentialId) (reason : String)
  | applyCredentialExpired (credentialId : CredentialId) (reason : String)
  | applyCredentialQuotaExhausted (credentialId : CredentialId) (reason : String)
  | expireCredentialById (credentialId : CredentialId) (reason : String)
  | restoreCredentialById (credentialId : CredentialId)
  | disableCredentialById (credentialId : CredentialId) (reason : String)
  | enableCredentialById (credentialId : CredentialId)
  | clearCredentialCooldownById (credentialId : CredentialId)
  deriving DecidableEq, Repr

/-- What an operation returns. -/
inductive PoolOutput where
  | key (result : Except PoolFailure SelectedKey)
  | candidates (found : List CredentialCandidate)
  | added (result : Except PoolFailure (List CredentialSnapshot))
  | outcome (result : SwitchOutcome)
  | snapshot (result : Option CredentialSnapshot)

/-- The credentials an operation hands out for use. -/
def PoolOutput.returned : PoolOutput → List CredentialId
  | key (.ok selected) => [selected.credentialId]
  | candidates found => found.map (·.credentialId)
  | _ => []

/-- Run one operation. -/
def PoolOp.exec (r : Readings) (p : KeyPool) : PoolOp → KeyPool × PoolOutput
  | select => (p.select r.first).map id .key
  | selectCredentialById id' => (p.selectCredentialById id' r.first).map id .key
  | selectCoolingDownLastResort => (p.selectCoolingDownLastResort r).map id .key
  | retryCandidatesFromCurrent limit =>
      (p.retryCandidatesFromCurrent limit r.first).map id .candidates
  | addCredentials inputs => (p.addCredentials inputs).map id .added
  | applyCredentialCooldownUntil id' untilInstant reason =>
      (p.applyCredentialCooldownUntil id' untilInstant reason r.first).map id .outcome
  | reportExpiredFailureById id' reason =>
      (p.reportExpiredFailureById id' reason r.first).map id .outcome
  | applyCredentialExpired id' reason =>
      (p.applyCredentialExpired id' reason r.first).map id .outcome
  | applyCredentialQuotaExhausted id' reason =>
      (p.applyCredentialQuotaExhausted id' reason r.first).map id .outcome
  | expireCredentialById id' reason =>
      (p.expireCredentialById id' reason r.first).map id .snapshot
  | restoreCredentialById id' => (p.restoreCredentialById id' r).map id .snapshot
  | disableCredentialById id' reason =>
      (p.disableCredentialById id' reason r.first).map id .snapshot
  | enableCredentialById id' => (p.enableCredentialById id').map id .snapshot
  | clearCredentialCooldownById id' => (p.clearCredentialCooldownById id' r).map id .snapshot

/-- A pool and the last clock value anyone has read. -/
structure TimedPool where
  pool : KeyPool
  clock : Instant

/-- One call of an operation: what was called, when, and what it returned. -/
structure PoolCall where
  op : PoolOp
  readings : Readings
  output : PoolOutput

/-- All runs of one pool: built from a configuration whose credentials have
pairwise distinct ids, then any operations at non-decreasing clock readings. -/
def poolSystem : TransitionSystem TimedPool PoolCall where
  Init s := ∃ config, KeyPool.new config = .ok s.pool ∧ (s.pool.credentials.map (·.id)).Nodup
  Step s call s' :=
    s.clock ≤ call.readings.first ∧
    call.op.exec call.readings s.pool = (s'.pool, call.output) ∧
    s'.clock = call.readings.third

/-- The state after one call. -/
def TimedPool.after (s : TimedPool) (op : PoolOp) (r : Readings) : TimedPool :=
  ⟨(op.exec r s.pool).1, r.third⟩

/-- The record of one call. -/
def TimedPool.call (s : TimedPool) (op : PoolOp) (r : Readings) : PoolCall :=
  ⟨op, r, (op.exec r s.pool).2⟩

/-- Any operation may be called at any time. -/
theorem poolSystem_step (s : TimedPool) (op : PoolOp) (r : Readings)
    (hr : s.clock ≤ r.first) : poolSystem.Step s (s.call op r) (s.after op r) :=
  ⟨hr, rfl, rfl⟩

end OneAiKey
