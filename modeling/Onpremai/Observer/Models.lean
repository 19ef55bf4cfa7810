import Onpremai.Library.Json

/-!
# Data model of the observer

Issues that were detected, diagnoses of them, and the changes that are proposed and applied.
-/

namespace Onpremai.Observer

open Onpremai.Library

/-- Microseconds since the epoch. -/
abbrev Time := Nat

abbrev Day := Nat

def Time.day (time : Time) : Day := time / 86400000000

/-- Exceptions that the observer raises. -/
inductive PyError where
  | attributeError
  | typeError
  | valueError
  | overflowError
  | recursionError
  | jsonDecodeError
  | invalidUrl
  deriving DecidableEq, Repr

/-- A floating-point number: exact, infinite, or not a number. -/
inductive FloatValue where
  | finite (value : Rat)
  | infinite (positive : Bool)
  | nan
  deriving DecidableEq, Repr

namespace FloatValue

/-- `value < limit`; false where the value is not a number. -/
def below (value : FloatValue) (limit : Rat) : Bool :=
  match value with
  | .finite value => decide (value < limit)
  | .infinite positive => !positive
  | .nan => false

/-- `value > limit`; false where the value is not a number. -/
def above (value : FloatValue) (limit : Rat) : Bool :=
  match value with
  | .finite value => decide (limit < value)
  | .infinite positive => positive
  | .nan => false

/-- `value >= limit`; false where the value is not a number. -/
def atLeast (value : FloatValue) (limit : Rat) : Bool :=
  match value with
  | .finite value => decide (limit ≤ value)
  | .infinite positive => positive
  | .nan => false

end FloatValue

/-- Types of changes the observer can propose. -/
inductive ChangeType where
  | routing
  | prompt
  | threshold
  | model
  | pattern
  deriving DecidableEq, Repr

def ChangeType.value : ChangeType → String
  | .routing => "routing"
  | .prompt => "prompt"
  | .threshold => "threshold"
  | .model => "model"
  | .pattern => "pattern"

/-- Status of a proposed change. -/
inductive ChangeStatus where
  | proposed
  | approved
  | rejected
  | applied
  | canaryRunning
  | canaryPassed
  | canaryFailed
  | validated
  | rolledBack
  | queued
  deriving DecidableEq, Repr

/-- Autonomy tiers for applying changes. -/
inductive ApplyTier where
  | auto
  | canary
  | human
  deriving DecidableEq, Repr

/-- A detected performance issue. -/
structure DetectedIssue where
  id : String
  task : String := ""
  model : String := ""
  currentValue : Rat := 0
  thresholdValue : Rat := 0
  sampleCount : Int := 0
  deriving DecidableEq, Repr

/-- Result of LLM-powered root cause analysis. -/
structure Diagnosis where
  id : String
  issueId : String := ""
  rootCause : String := ""
  fixType : String := ""
  fixDescription : String := ""
  confidence : FloatValue := .finite 0
  costUsd : Rat := 0
  rawResponse : String := ""
  deriving DecidableEq, Repr

/-- A concrete, actionable configuration change. -/
structure Change where
  id : String
  changeType : ChangeType
  applyTier : ApplyTier
  status : ChangeStatus := .proposed
  task : String := ""
  model : String := ""
  description : String := ""
  configDiff : Json := .obj []
  confidence : FloatValue := .finite 0
  sampleCount : Int := 0
  diagnosisId : String := ""
  issueId : String := ""
  snapshot : Json := .obj []
  proposedAt : Time
  appliedAt : Option Time := none

/-- Settings of the observer that the change pipeline reads. -/
structure ObserverSettings where
  autoApplyMinConfidence : Rat := 4 / 5
  autoApplyMinSamples : Int := 20
  maxAutoAppliesPerDay : Int := 10
  canaryTrafficPct : Int := 20
  canaryMinSamples : Int := 30
  maxConcurrentCanaries : Int := 3
  circuitBreakerMaxRollbacks : Int := 3
  circuitBreakerWindowHours : Int := 6
  circuitBreakerCooldownHours : Int := 12
  observerBudgetPerCycleUsd : Rat := 5
  validationDelayMinutes : Int := 60
  selfRegMinConfidenceFloor : Rat := 3 / 5
  selfRegMinConfidenceCeiling : Rat := 19 / 20
  selfRegMinSamplesFloor : Int := 10
  selfRegMinSamplesCeiling : Int := 100

end Onpremai.Observer
