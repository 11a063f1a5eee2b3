/-
  OneAiKey.Error — classified upstream failures (`src/error.rs`).

  A failure is a kind, the scope it is blamed on, whether the classifier
  considers a retry worthwhile, and the evidence it was read from.  HTTP
  statuses are natural numbers; nothing depends on their width.
-/
import OneAiKey.Clock

namespace OneAiKey

inductive FailureKind where
  | rateLimited
  | keySwitchCooldown
  | authInvalid
  | quotaExhausted
  | relayBalanceUnavailable
  | providerUnavailable
  | responseFilterRejected
  | clientError
  | unknown
  deriving DecidableEq, Repr

inductive FailureScope where
  | requestOnly
  | credential
  | account
  | channel
  | deployment
  | modelGroup
  | providerAdapter
  | clientToken
  deriving DecidableEq, Repr

inductive FailureConfidence where
  | low
  | medium
  | high
  deriving DecidableEq, Repr

inductive RetryAfterSource where
  | deltaSeconds
  | httpDate
  deriving DecidableEq, Repr

structure ClassifiedFailure where
  kind : FailureKind
  primaryScope : FailureScope
  retryable : Bool
  cooldown : Option Duration
  retryAfterSource : Option RetryAfterSource
  confidence : FailureConfidence
  upstreamStatus : Option Nat
  upstreamCode : Option String
  upstreamLimitType : Option String
  classifierId : String
  classifierVersion : String
  adaptationRuleId : Option String
  deriving DecidableEq, Repr

abbrev Bytes := List UInt8

/-- A channel's error classifier, as the forwarding path uses it. -/
structure FailureClassifier where
  classifierId : String
  classifierVersion : String
  /-- `classify_failure`: of a status, the response headers and a body. -/
  classifyFailure : Nat → List (String × String) → Bytes → ClassifiedFailure

/-- `ErrorClassifier::classifier_id`. -/
def defaultErrorClassifierId : String := "openai-compatible-default"

/-- `ErrorClassifier::classifier_version`. -/
def errorClassifierVersion : String := "1"

/-- `ErrorClassifier::classify_transport_failure`: no response was received. -/
def classifyTransportFailure : ClassifiedFailure where
  kind := .providerUnavailable
  primaryScope := .channel
  retryable := true
  cooldown := none
  retryAfterSource := none
  confidence := .medium
  upstreamStatus := none
  upstreamCode := some "transport_error"
  upstreamLimitType := none
  classifierId := defaultErrorClassifierId
  classifierVersion := errorClassifierVersion
  adaptationRuleId := none

end OneAiKey
