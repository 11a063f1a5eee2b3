/-
  OneAiKey.Credentials — one upstream credential and its lifecycle state
  (`src/credentials.rs`).

  A credential's id and fingerprint are hashes of its secret; its state is
  changed by the `mark_*` methods only.  The predicates `isAvailableAt` and
  `isCoolingDownAt` take the clock value: a cooldown whose deadline has
  passed counts as available although the state still says `coolingDown`.
-/
import OneAiKey.Clock

namespace OneAiKey

/-- `CredentialId(pub String)`. -/
abbrev CredentialId := String

/-- `CredentialFingerprint(pub String)`. -/
abbrev CredentialFingerprint := String

/-- Where a credential was imported from. -/
structure CredentialSource where
  sourcePath : Option String
  sourceLine : Option Nat
  batchId : Option String
  deriving DecidableEq, Repr

/-- The source of a credential that was not imported from a file. -/
def CredentialSource.unknown : CredentialSource := ⟨none, none, none⟩

/-- The lifecycle state of a credential. -/
inductive CredentialState where
  | available
  | coolingDown (untilInstant : Instant) (reason : String)
  | expired (reason : String)
  | quotaExhausted (reason : String)
  | disabled (reason : String)
  deriving DecidableEq, Repr

/-- The state as the management interface shows it. -/
inductive CredentialStateSnapshot where
  | available
  | coolingDown (reason : String) (remainingSeconds : Nat)
  | expired (reason : String)
  | quotaExhausted (reason : String)
  | disabled (reason : String)
  deriving DecidableEq, Repr

/-- A credential as it can be shown. -/
structure CredentialSnapshot where
  id : String
  fingerprint : String
  state : CredentialStateSnapshot
  source : CredentialSource
  deriving DecidableEq, Repr

/-- A credential with its secret and its state. -/
structure Credential where
  id : CredentialId
  fingerprint : CredentialFingerprint
  secret : String
  source : CredentialSource
  state : CredentialState
  deriving DecidableEq, Repr

/-! ## §1. Identity. -/

/-- The bytes of a string, as `as_bytes` gives them. -/
def utf8Bytes (value : String) : List UInt8 := value.toList.flatMap String.utf8EncodeChar

/-- 64-bit FNV-1a (the loop of `short_hash`, and `stable_hash`). -/
def fnv1a (value : String) : UInt64 :=
  (utf8Bytes value).foldl (fun hash byte => (hash ^^^ byte.toUInt64) * 0x100000001b3)
    0xcbf29ce484222325

/-- The low `digits` hexadecimal digits of `n`, zero-padded (`{hash:016x}`). -/
def hexDigits : (digits : Nat) → (n : Nat) → List Char
  | 0, _ => []
  | digits + 1, n => hexDigits digits (n / 16) ++ [Nat.digitChar (n % 16)]

/-- A hash of sixteen digits. -/
def shortHash (value : String) : String :=
  String.ofList (hexDigits 16 (fnv1a value).toNat)

/-- `Credential::with_source`: a new credential is available. -/
def Credential.withSource (credentialNamespace secret : String) (source : CredentialSource) :
    Credential where
  id := "cred_" ++ shortHash (credentialNamespace ++ ":" ++ secret)
  fingerprint := shortHash secret
  secret := secret
  source := source
  state := .available

/-! ## §2. The state predicates. -/

namespace CredentialState

/-- Available, or cooled down by now. -/
def isAvailableAt (now : Instant) : CredentialState → Bool
  | available => true
  | coolingDown untilInstant _ => decide (untilInstant ≤ now)
  | expired _ | quotaExhausted _ | disabled _ => false

/-- Cooling down, and not over by now. -/
def isCoolingDownAt (now : Instant) : CredentialState → Bool
  | coolingDown untilInstant _ => decide (now < untilInstant)
  | _ => false

/-- Expired, and in no other state. -/
def isExpired : CredentialState → Bool
  | expired _ => true
  | _ => false

/-- Without quota, and in no other state. -/
def isQuotaExhausted : CredentialState → Bool
  | quotaExhausted _ => true
  | _ => false

/-- Disabled, and in no other state. -/
def isDisabled : CredentialState → Bool
  | disabled _ => true
  | _ => false

/-- `Credential::snapshot`'s view of the state.  The clock is read once by the
guard and once more for the remaining time. -/
def snapshot (guardNow remainingNow : Instant) : CredentialState → CredentialStateSnapshot
  | available => .available
  | coolingDown untilInstant reason =>
      if guardNow < untilInstant then
        .coolingDown reason
          (max (Duration.asSecs (Instant.saturatingDurationSince untilInstant remainingNow)) 1)
      else .available
  | expired reason => .expired reason
  | quotaExhausted reason => .quotaExhausted reason
  | disabled reason => .disabled reason

/-- Durably excluded: until a restore, an enable or a disable. -/
def Durable (s : CredentialState) : Prop := s.isExpired = true ∨ s.isQuotaExhausted = true

instance (s : CredentialState) : Decidable s.Durable :=
  inferInstanceAs (Decidable (_ ∨ _))

/-- A cooldown that has passed stays passed. -/
theorem isAvailableAt_mono {now now' : Instant} (h : now ≤ now') {s : CredentialState}
    (hs : s.isAvailableAt now = true) : s.isAvailableAt now' = true := by
  cases s with
  | coolingDown d reason =>
      simp only [isAvailableAt, decide_eq_true_eq] at hs ⊢
      exact Nat.le_trans hs h
  | _ => exact hs

theorem not_durable_of_isAvailableAt {now : Instant} {s : CredentialState}
    (hs : s.isAvailableAt now = true) : ¬ s.Durable := by
  cases s <;> simp_all [isAvailableAt, Durable, isExpired, isQuotaExhausted]

theorem not_disabled_of_isAvailableAt {now : Instant} {s : CredentialState}
    (hs : s.isAvailableAt now = true) : s.isDisabled = false := by
  cases s <;> simp_all [isAvailableAt, isDisabled]

end CredentialState

namespace Credential

def snapshot (c : Credential) (guardNow remainingNow : Instant) : CredentialSnapshot where
  id := c.id
  fingerprint := c.fingerprint
  state := c.state.snapshot guardNow remainingNow
  source := c.source

/-- Cooling down from now on. -/
def markCoolingDown (c : Credential) (untilInstant : Instant) (reason : String) : Credential :=
  { c with state := .coolingDown untilInstant reason }

/-- Expired from now on. -/
def markExpired (c : Credential) (reason : String) : Credential :=
  { c with state := .expired reason }

/-- Without quota from now on. -/
def markQuotaExhausted (c : Credential) (reason : String) : Credential :=
  { c with state := .quotaExhausted reason }

/-- Disabled from now on. -/
def markDisabled (c : Credential) (reason : String) : Credential :=
  { c with state := .disabled reason }

/-- Available again. -/
def markAvailable (c : Credential) : Credential := { c with state := .available }

end Credential

-- the stable vectors of the source's own test
example : shortHash "" = "cbf29ce484222325" := by decide
example : shortHash "hello" = "a430d84680aabd0b" := by decide

end OneAiKey
