import Mathlib.Algebra.Order.Ring.Unbundled.Rat
import Onpremai.Observer.Models

/-!
# Proposing and applying changes

A diagnosis becomes a change with an autonomy tier, and the change is applied automatically,
deployed as a canary, or queued for a human.  The tier depends on limits that other
components are expected to keep up to date.
-/

namespace Onpremai.Observer

open Onpremai.Library

/-- What the proposer keeps: types of changes that failed, and the counters of its limits. -/
structure ProposerState where
  failedTypes : List String := []
  dailyAutoCount : Int := 0
  dailyResetDate : Option Day := none
  activeCanaries : Int := 0
  deriving DecidableEq, Repr

def fixTypeToChange : List (String × ChangeType) :=
  [("routing", .routing), ("prompt", .prompt), ("threshold", .threshold), ("model", .model),
   ("pattern", .pattern)]

def changeTypeOf (fixType : String) : Option ChangeType :=
  (fixTypeToChange.find? fun entry => decide (entry.1 = fixType)).map Prod.snd

def defaultTier : ChangeType → ApplyTier
  | .routing => .auto
  | .threshold => .auto
  | .pattern => .auto
  | .prompt => .canary
  | .model => .canary

def classifyTier (settings : ObserverSettings) (proposer : ProposerState)
    (changeType : ChangeType) (confidence : FloatValue) (sampleCount : Int) : ApplyTier :=
  if changeType.value ∈ proposer.failedTypes then .human
  else
    match defaultTier changeType with
    | .auto =>
      if confidence.below settings.autoApplyMinConfidence then .canary
      else if sampleCount < settings.autoApplyMinSamples then .canary
      else if settings.maxAutoAppliesPerDay ≤ proposer.dailyAutoCount then .canary
      else .auto
    | .canary =>
      if confidence.below (7 / 10) then .human
      else if settings.maxConcurrentCanaries ≤ proposer.activeCanaries then .human
      else .canary
    | .human => .human

def buildConfigDiff (changeType : ChangeType) (diagnosis : Diagnosis) (issue : DetectedIssue) :
    Json :=
  match changeType with
  | .routing =>
    let newTier := if 1 / 2 < issue.currentValue then "strong" else "mid"
    .obj [("task_routing", .obj [(issue.task, .str newTier)]), ("reason", .str diagnosis.rootCause)]
  | .threshold =>
    let adjustment : Rat := if diagnosis.confidence.above (85 / 100) then 5 / 100 else 3 / 100
    .obj [("task", .str issue.task),
      ("threshold", .num (min (95 / 100) (issue.thresholdValue + adjustment))),
      ("previous_threshold", .num issue.thresholdValue)]
  | .prompt =>
    .obj [("task", .str issue.task), ("action", .str "rewrite"),
      ("reason", .str diagnosis.rootCause),
      ("fix_description", .str diagnosis.fixDescription)]
  | .model =>
    .obj [("task", .str issue.task), ("model", .str issue.model),
      ("action", .str (if issue.model = "" then "add" else "swap")),
      ("reason", .str diagnosis.rootCause)]
  | .pattern =>
    .obj [("task", .str issue.task), ("action", .str "record"),
      ("pattern_description", .str diagnosis.fixDescription)]

def propose (settings : ObserverSettings) (proposer : ProposerState) (changeId : String)
    (now : Time) (diagnosis : Diagnosis) (issue : DetectedIssue) : Option Change :=
  if diagnosis.confidence.below (6 / 10) then none
  else
    match changeTypeOf diagnosis.fixType with
    | none => none
    | some changeType =>
      some {
        id := changeId
        changeType
        applyTier := classifyTier settings proposer changeType diagnosis.confidence
          issue.sampleCount
        task := issue.task
        model := issue.model
        description := diagnosis.fixDescription
        configDiff := buildConfigDiff changeType diagnosis issue
        confidence := diagnosis.confidence
        sampleCount := issue.sampleCount
        diagnosisId := diagnosis.id
        issueId := issue.id
        proposedAt := now }

def recordFailure (changeType : String) (proposer : ProposerState) : ProposerState :=
  { proposer with failedTypes := changeType :: proposer.failedTypes }

def incrementDailyAutoCount (today : Day) (proposer : ProposerState) : ProposerState :=
  let proposer :=
    if proposer.dailyResetDate = some today then proposer
    else { proposer with dailyAutoCount := 0, dailyResetDate := some today }
  { proposer with dailyAutoCount := proposer.dailyAutoCount + 1 }

def setActiveCanaries (count : Int) (proposer : ProposerState) : ProposerState :=
  { proposer with activeCanaries := count }

/-- The reply to a request: an answer with its JSON body, an error of the HTTP client, or
an exception that is none of these (an address that is no URL, a body that is no JSON). -/
inductive HttpReply where
  | answered (statusCode : Nat) (body : Json)
  | httpError
  | raised (error : PyError)

def HttpReply.hasStatus (reply : HttpReply) (statusCode : Nat) : Bool :=
  match reply with
  | .answered status _ => decide (status = statusCode)
  | _ => false

/-- What an application meets: the replies to the snapshot requests, the reply to the
request that applies the change, and the clock. -/
structure Replies where
  metrics : HttpReply
  routing : HttpReply
  execute : HttpReply
  appliedAt : Time

/-- What the applier keeps. -/
structure ApplierState where
  pendingValidations : List (String × Time × Int) := []
  humanQueue : List Change := []

def snapshotRouting (replies : Replies) (snapshot : List (String × Json)) : Except PyError Json :=
  match replies.routing with
  | .raised error => .error error
  | .httpError => .ok (.obj snapshot)
  | .answered status body =>
    .ok (.obj (if status = 200 then snapshot ++ [("routing", body)] else snapshot))

/-- Save pre-change state for potential rollback. -/
def takeSnapshot (change : Change) (replies : Replies) : Except PyError Json :=
  let snapshot : List (String × Json) :=
    [("taken_at", .num (replies.appliedAt : Int)), ("change_id", .str change.id)]
  match replies.metrics with
  | .raised error => .error error
  | .httpError => .ok (.obj snapshot)
  | .answered status body =>
    snapshotRouting replies
      (if status = 200 then snapshot ++ [("metrics", body)] else snapshot)

/-- Execute a change: routing and thresholds at the gateway, patterns at the memory
service.  Other types are not supported. -/
def executeChange (change : Change) (replies : Replies) : Except PyError Bool :=
  match replies.execute, change.changeType with
  | _, .prompt => .ok false
  | _, .model => .ok false
  | .raised error, _ => .error error
  | .httpError, _ => .ok false
  | .answered status _, .pattern => .ok (decide (status = 200 ∨ status = 201))
  | .answered status _, _ => .ok (decide (status = 200))

def applyAuto (settings : ObserverSettings) (applier : ApplierState) (change : Change)
    (replies : Replies) : Except PyError (Change × ApplierState) := do
  let snapshot ← takeSnapshot change replies
  let success ← executeChange change replies
  if success then
    return ({ change with snapshot, status := .applied, appliedAt := some replies.appliedAt },
      { applier with
        pendingValidations := applier.pendingValidations ++
          [(change.id, replies.appliedAt, settings.validationDelayMinutes)] })
  else return ({ change with snapshot, status := .rolledBack }, applier)

/-- Tier 2: deploy as canary with traffic split. -/
def applyCanary (change : Change) (replies : Replies) : Except PyError Change :=
  match replies.execute with
  | .raised error => .error error
  | .httpError => .ok { change with status := .proposed }
  | .answered status _ =>
    if status = 200 then
      .ok { change with status := .canaryRunning, appliedAt := some replies.appliedAt }
    else .ok { change with status := .proposed }

def queueForHuman (applier : ApplierState) (change : Change) : Change × ApplierState :=
  let queued := { change with status := .proposed }
  (queued, { applier with humanQueue := applier.humanQueue ++ [queued] })

def apply (settings : ObserverSettings) (applier : ApplierState) (change : Change)
    (circuitBreakerOpen : Bool) (replies : Replies) :
    Except PyError (Change × ApplierState) :=
  let change :=
    if circuitBreakerOpen = true ∧ change.applyTier ≠ .human then
      { change with applyTier := .human }
    else change
  match change.applyTier with
  | .auto => applyAuto settings applier change replies
  | .canary => do
    let change ← applyCanary change replies
    return (change, applier)
  | .human => .ok (queueForHuman applier change)

def underBreaker (circuitBreakerOpen : Bool) (change : Change) : Change :=
  if circuitBreakerOpen = true ∧ change.applyTier ≠ .human then
    { change with applyTier := .human }
  else change

theorem apply_eq (settings : ObserverSettings) (applier : ApplierState) (change : Change)
    (circuitBreakerOpen : Bool) (replies : Replies) :
    apply settings applier change circuitBreakerOpen replies =
      match (underBreaker circuitBreakerOpen change).applyTier with
      | .auto => applyAuto settings applier (underBreaker circuitBreakerOpen change) replies
      | .canary => do
        let change ← applyCanary (underBreaker circuitBreakerOpen change) replies
        return (change, applier)
      | .human => .ok (queueForHuman applier (underBreaker circuitBreakerOpen change)) := rfl

theorem propose_provenance {settings : ObserverSettings} {proposer : ProposerState}
    {changeId : String} {now : Time} {diagnosis : Diagnosis} {issue : DetectedIssue}
    {change : Change}
    (proposed : propose settings proposer changeId now diagnosis issue = some change) :
    change.issueId = issue.id ∧ change.diagnosisId = diagnosis.id ∧
      change.confidence = diagnosis.confidence ∧ change.sampleCount = issue.sampleCount := by
  rw [propose] at proposed
  split at proposed
  · cases proposed
  · cases known : changeTypeOf diagnosis.fixType with
    | none =>
      rw [known] at proposed
      cases proposed
    | some changeType =>
      rw [known] at proposed
      cases proposed
      exact ⟨rfl, rfl, rfl, rfl⟩

/-!
## Rolling changes back

A change is rolled back by sending the routing of its snapshot to the gateway, a canary by
asking the gateway to remove it.  Neither looks at the status that the change has.
-/

open Onpremai.Library.Python

def restorePayload (change : Change) : Option Json :=
  (Json.get? "routing" change.snapshot).filter truthy

def restoreSnapshot (change : Change) (reply : HttpReply) : Except PyError Bool :=
  match restorePayload change with
  | none => .ok false
  | some _ =>
    match reply with
    | .raised error => .error error
    | .httpError => .ok false
    | .answered status _ => .ok (decide (status = 200))

def rollback (change : Change) (reply : HttpReply) : Except PyError (Change × Bool) :=
  if truthy change.snapshot then do
    let success ← restoreSnapshot change reply
    return (if success then { change with status := .rolledBack } else change, success)
  else .ok (change, false)

/-- Roll back a canary experiment; tells whether it succeeded. -/
def rollbackCanary (change : Change) : HttpReply → Except PyError (Change × Bool)
  | .raised error => .error error
  | .httpError => .ok (change, false)
  | .answered status _ =>
    if status = 200 then .ok ({ change with status := .canaryFailed }, true)
    else .ok (change, false)

/-- The snapshot has a routing, and the gateway takes it. -/
def restores (change : Change) (reply : HttpReply) : Bool :=
  truthy change.snapshot && (restorePayload change).isSome && reply.hasStatus 200

def afterCall (change : Change) : Except PyError (Change × Bool) → Change
  | .ok (changed, _) => changed
  | .error _ => change

theorem afterCall_rollback (change : Change) (reply : HttpReply) :
    afterCall change (rollback change reply) =
      if restores change reply = true then { change with status := .rolledBack } else change := by
  rw [rollback, restores]
  cases truthy change.snapshot with
  | false => rfl
  | true =>
    rw [if_pos rfl, restoreSnapshot.eq_def]
    cases restorePayload change with
    | none => rfl
    | some routing =>
      cases reply with
      | raised error => rfl
      | httpError => rfl
      | answered status body =>
        by_cases accepted : status = 200
        · rw [accepted]
          rfl
        · have refused : HttpReply.hasStatus (.answered status body) 200 = false :=
            decide_eq_false accepted
          dsimp only
          rw [refused, decide_eq_false accepted]
          rfl

theorem afterCall_rollbackCanary (change : Change) (reply : HttpReply) :
    afterCall change (rollbackCanary change reply) =
      if reply.hasStatus 200 = true then { change with status := .canaryFailed } else change := by
  cases reply with
  | raised error => rfl
  | httpError => rfl
  | answered status body =>
    rw [rollbackCanary, HttpReply.hasStatus]
    by_cases accepted : status = 200
    · rw [if_pos accepted, if_pos (decide_eq_true accepted)]
      rfl
    · rw [if_neg accepted, if_neg (by simpa using accepted)]
      rfl

end Onpremai.Observer
