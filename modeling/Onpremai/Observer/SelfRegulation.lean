import Onpremai.Observer.Changes

/-!
# Self-regulation and circuit breaker

A weekly evaluation of the applied changes widens or narrows the autonomy level.  The
circuit breaker blocks changes for some time after it was tripped.
-/

namespace Onpremai.Observer

open Onpremai.Library

/-- Current autonomy configuration.  A level that was restored from the memory service may
have any name. -/
structure AutonomyLevel where
  level : String := "standard"
  minConfidence : Rat := 4 / 5
  minSamples : Int := 20
  maxAutoAppliesPerDay : Int := 10
  allowedAutoTypes : List String := ["routing", "threshold", "pattern"]
  deriving DecidableEq, Repr

/-- Result of a self-evaluation. -/
structure SelfEvalResult where
  totalChanges : Nat
  appliedCount : Nat
  rolledBackCount : Nat
  validatedCount : Nat
  successRate : Rat
  previousAutonomy : String
  newAutonomy : String
  adjustmentMade : Bool
  deriving DecidableEq, Repr

/-- What the self-regulator keeps. -/
structure RegulatorState where
  autonomy : AutonomyLevel := {}
  evalHistory : List SelfEvalResult := []
  changeHistory : List Change := []

/-- `items[-count:]`. -/
def lastItems {α : Type} (count : Int) (items : List α) : List α :=
  if 0 < count then items.drop (items.length - count.toNat)
  else items.drop (-count).toNat

def initialAutonomy (settings : ObserverSettings) : AutonomyLevel where
  minConfidence := settings.autoApplyMinConfidence
  minSamples := settings.autoApplyMinSamples
  maxAutoAppliesPerDay := settings.maxAutoAppliesPerDay

/-- Record a change outcome for future self-evaluation; the last entries are kept. -/
def recordChange (settings : ObserverSettings) (regulator : RegulatorState) (change : Change) :
    RegulatorState :=
  let history := regulator.changeHistory ++ [change]
  let maxHistory := settings.maxAutoAppliesPerDay * 30
  { regulator with
    changeHistory := if maxHistory < history.length then lastItems maxHistory history
      else history }

/-- Relax autonomy constraints. -/
def expandAutonomy (settings : ObserverSettings) (autonomy : AutonomyLevel) :
    AutonomyLevel × Bool :=
  if autonomy.level = "expanded" then (autonomy, false)
  else if autonomy.level = "restricted" then
    ({ initialAutonomy settings with level := "standard" }, true)
  else if autonomy.level = "standard" then
    ({ level := "expanded"
       minConfidence := max settings.selfRegMinConfidenceFloor (autonomy.minConfidence - 5 / 100)
       minSamples := max settings.selfRegMinSamplesFloor (autonomy.minSamples - 5)
       maxAutoAppliesPerDay := min 20 (autonomy.maxAutoAppliesPerDay + 5)
       allowedAutoTypes := ["routing", "threshold", "pattern", "prompt"] }, true)
  else (autonomy, true)

/-- Tighten autonomy constraints. -/
def restrictAutonomy (settings : ObserverSettings) (autonomy : AutonomyLevel) :
    AutonomyLevel × Bool :=
  if autonomy.level = "restricted" then (autonomy, false)
  else if autonomy.level = "expanded" then
    ({ initialAutonomy settings with level := "standard" }, true)
  else if autonomy.level = "standard" then
    ({ level := "restricted"
       minConfidence :=
         min settings.selfRegMinConfidenceCeiling (autonomy.minConfidence + 10 / 100)
       minSamples := min settings.selfRegMinSamplesCeiling (autonomy.minSamples + 20)
       maxAutoAppliesPerDay := max 2 (autonomy.maxAutoAppliesPerDay - 5)
       allowedAutoTypes := ["threshold"] }, true)
  else (autonomy, true)

/-- Seven days. -/
def week : Time := 7 * 86400000000

def evaluate (settings : ObserverSettings) (regulator : RegulatorState) (now : Time) :
    RegulatorState :=
  let recentChanges :=
    regulator.changeHistory.filter fun change => decide (now ≤ change.proposedAt + week)
  let appliedCount := recentChanges.countP fun change =>
    decide (change.status ∈ [ChangeStatus.applied, .validated, .canaryPassed])
  let rolledBackCount := recentChanges.countP fun change =>
    decide (change.status ∈ [ChangeStatus.rolledBack, .canaryFailed])
  let validatedCount := recentChanges.countP fun change =>
    decide (change.status = .validated)
  let totalResolved := appliedCount + rolledBackCount
  let successRate : Rat :=
    if 0 < totalResolved then (validatedCount : Rat) / totalResolved else 1
  let adjusted :=
    if 5 ≤ totalResolved then
      if 9 / 10 < successRate then expandAutonomy settings regulator.autonomy
      else if successRate < 7 / 10 then restrictAutonomy settings regulator.autonomy
      else (regulator.autonomy, false)
    else (regulator.autonomy, false)
  let result : SelfEvalResult := {
    totalChanges := recentChanges.length
    appliedCount, rolledBackCount, validatedCount, successRate
    previousAutonomy := regulator.autonomy.level
    newAutonomy := adjusted.1.level
    adjustmentMade := adjusted.2 }
  let history := regulator.evalHistory ++ [result]
  { regulator with
    autonomy := adjusted.1
    evalHistory := if 52 < history.length then lastItems 52 history else history }

/-- Circuit breaker states. -/
inductive CircuitBreakerState where
  | closed
  | opened
  | halfOpen
  deriving DecidableEq, Repr

/-- What the circuit breaker keeps. -/
structure CircuitBreaker where
  state : CircuitBreakerState := .closed
  trippedAt : Option Time := none
  halfOpenProbeUsed : Bool := false
  deriving DecidableEq, Repr

def checkCooldown (settings : ObserverSettings) (now : Time) (breaker : CircuitBreaker) :
    CircuitBreaker :=
  match breaker.state, breaker.trippedAt with
  | .opened, some trippedAt =>
    if (trippedAt : Int) + settings.circuitBreakerCooldownHours * 3600000000 ≤ now then
      { breaker with state := .halfOpen, halfOpenProbeUsed := false }
    else breaker
  | _, _ => breaker

/-- Whether the circuit breaker is currently blocking auto-applies. -/
def isOpen (breaker : CircuitBreaker) : Bool := decide (breaker.state ≠ .closed)

def resetBreaker : CircuitBreaker := {}

theorem checkCooldown_of_closed {settings : ObserverSettings} {now : Time}
    {breaker : CircuitBreaker} (closed : breaker.state = .closed) :
    checkCooldown settings now breaker = breaker := by
  rw [checkCooldown, closed]

end Onpremai.Observer
