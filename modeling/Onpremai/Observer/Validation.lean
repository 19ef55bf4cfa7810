import Mathlib.Data.List.Sort
import Onpremai.Gateway.AdminApi
import Onpremai.Observer.Diagnosis
import Onpremai.Observer.Changes

/-!
# Post-apply validation

The metrics of a task before a change are compared with those after it.  The validator reads
them by name from a record that the gateway builds: two of its four names do not occur
there, and a record without requests is not empty.
-/

namespace Onpremai.Observer

open Onpremai.Library Onpremai.Library.Python Onpremai.Gateway

namespace FloatValue

/-- `first - second`. -/
def sub : FloatValue → FloatValue → FloatValue
  | .finite first, .finite second => .finite (first - second)
  | .nan, _ | _, .nan => .nan
  | .infinite first, .infinite second => if first = second then .nan else .infinite first
  | .infinite first, .finite _ => .infinite first
  | .finite _, .infinite second => .infinite !second

/-- `first / second` for a positive number `second`. -/
def divPositive : FloatValue → FloatValue → FloatValue
  | .finite first, .finite second => .finite (first / second)
  | .nan, _ | _, .nan => .nan
  | .infinite _, .infinite _ => .nan
  | .infinite first, .finite _ => .infinite first
  | .finite _, .infinite _ => .finite 0

end FloatValue

/-- Result of post-apply validation. -/
inductive ValidationResult where
  | passed
  | failed
  | insufficientData
  deriving DecidableEq, Repr

/-- The criteria that a change may breach. -/
inductive Criterion where
  | escalationRate
  | avgConfidence
  | failureRate
  | p95Latency
  deriving DecidableEq, Repr

/-- Detailed report of a validation check. -/
structure ValidationReport where
  changeId : String
  result : ValidationResult
  escalationDelta : FloatValue := .finite 0
  confidenceDelta : FloatValue := .finite 0
  failureDelta : FloatValue := .finite 0
  latencyRatio : FloatValue := .finite 1
  breachedCriteria : List Criterion := []

def maxEscalationIncrease : Rat := 10 / 100

def maxConfidenceDecrease : Rat := 10 / 100

def maxFailureIncrease : Rat := 5 / 100

def maxLatencyIncreaseRatio : Rat := 3 / 2

section

variable (decoders : Decoders)

/-- `float(value)` of a metric, in exact arithmetic. -/
def metricOf : Json → Except PyError FloatValue
  | .num value => .ok (.finite value)
  | .bool value => .ok (.finite (if value then 1 else 0))
  | .str text =>
    match decoders.floatOfString text with
    | some value => .ok value
    | none => .error .valueError
  | _ => .error .typeError

/-- `float(record.get(name, default))`. -/
def metric (record : Json) (name : String) (default : Rat) : Except PyError FloatValue := do
  let value ← getField record name (.num default)
  metricOf decoders value

def breaches (criterion : Criterion) (value : FloatValue) (limit : Rat) : List Criterion :=
  if value.above limit then [criterion] else []

def compareMetrics (changeId : String) (before after : Json) :
    Except PyError ValidationReport := do
  let beforeEscalation ← metric decoders before "escalation_rate" 0
  let afterEscalation ← metric decoders after "escalation_rate" 0
  let beforeConfidence ← metric decoders before "avg_confidence" 1
  let afterConfidence ← metric decoders after "avg_confidence" 1
  let beforeFailure ← metric decoders before "failure_rate" 0
  let afterFailure ← metric decoders after "failure_rate" 0
  let beforeLatency ← metric decoders before "p95_latency_ms" 1
  let afterLatency ← metric decoders after "p95_latency_ms" 1
  let escalationDelta := afterEscalation.sub beforeEscalation
  let confidenceDelta := beforeConfidence.sub afterConfidence
  let failureDelta := afterFailure.sub beforeFailure
  let latencyRatio :=
    if beforeLatency.above 0 then afterLatency.divPositive beforeLatency else .finite 1
  let breachedCriteria := breaches .escalationRate escalationDelta maxEscalationIncrease ++
      breaches .avgConfidence confidenceDelta maxConfidenceDecrease ++
      breaches .failureRate failureDelta maxFailureIncrease ++
      breaches .p95Latency latencyRatio maxLatencyIncreaseRatio
  return {
    changeId
    result := if breachedCriteria.isEmpty then .passed else .failed
    escalationDelta, confidenceDelta, failureDelta, latencyRatio, breachedCriteria }

def fetchCurrentMetrics : HttpReply → Except PyError Json
  | .raised error => .error error
  | .httpError => .ok (.obj [])
  | .answered status body => .ok (if status = 200 then body else .obj [])

def validate (change : Change) (reply : HttpReply) : Except PyError ValidationReport := do
  let metricsBefore ← getField change.snapshot "metrics" (.obj [])
  if truthy metricsBefore then
    let metricsAfter ← fetchCurrentMetrics reply
    if truthy metricsAfter then compareMetrics decoders change.id metricsBefore metricsAfter
    else return { changeId := change.id, result := .insufficientData }
  else return { changeId := change.id, result := .insufficientData }

end

def lastHour (store : MetricsStore) (now : Rat) (task : String) : List MetricsRecord :=
  (store.since (now - 3600)).filter fun record => decide (record.task = task)

def share (test : MetricsRecord → Bool) (records : List MetricsRecord) : Rat :=
  records.countP test / records.length

def trueEscalationRate : List MetricsRecord → Rat := share MetricsRecord.escalated

/-- The share of the requests that failed. -/
def trueFailureRate : List MetricsRecord → Rat := share MetricsRecord.error

/-- The mean confidence of the requests. -/
def trueConfidence (records : List MetricsRecord) : Rat :=
  (records.map MetricsRecord.confidence).sum / records.length

def percentile (values : List Int) (pct : Rat) : Rat :=
  let sorted := values.insertionSort (· ≤ ·)
  ((sorted[min (sorted.length * pct).floor.toNat (sorted.length - 1)]?.getD 0 : Int) : Rat)

def trueP95Latency (records : List MetricsRecord) : Rat :=
  percentile (records.map MetricsRecord.latencyMs) (95 / 100)

def RegressesVisibly (before after : List MetricsRecord) : Prop :=
  maxEscalationIncrease < trueEscalationRate after - trueEscalationRate before ∨
    maxConfidenceDecrease < trueConfidence before - trueConfidence after

/-- Some metric got worse than allowed. -/
def Regresses (before after : List MetricsRecord) : Prop := RegressesVisibly before after ∨
    maxFailureIncrease < trueFailureRate after - trueFailureRate before ∨
      maxLatencyIncreaseRatio * trueP95Latency before < trueP95Latency after

/-- The validation of a change whose snapshot holds the metrics before, by the metrics after:
it fails exactly if some metric got worse than allowed, and does not decide without
requests. -/
structure ValidatesTruly (result : ValidationResult) (before after : List MetricsRecord) :
    Prop where
  decides : before ≠ [] → after ≠ [] → (result = .failed ↔ Regresses before after)
  withholds : before = [] ∨ after = [] → result = .insufficientData

/-! ## What the validator sees -/

section

variable {decoders : Decoders}

def seenEscalation (metrics : TaskMetrics) : Rat :=
  (metrics.averages.map TaskAverages.escalationRate).getD 0

/-- The mean confidence of a record, full where the record has no averages. -/
def seenConfidence (metrics : TaskMetrics) : Rat :=
  (metrics.averages.map TaskAverages.avgConfidence).getD 1

section

variable (metrics : TaskMetrics)

theorem metric_escalation :
    metric decoders metrics.body "escalation_rate" 0 = .ok (.finite (seenEscalation metrics)) := by
  rw [TaskMetrics.body, seenEscalation]
  cases metrics.averages with
  | none => rfl
  | some averages => rfl

theorem metric_confidence :
    metric decoders metrics.body "avg_confidence" 1 = .ok (.finite (seenConfidence metrics)) := by
  rw [TaskMetrics.body, seenConfidence]
  cases metrics.averages with
  | none => rfl
  | some averages => rfl

theorem metric_failure : metric decoders metrics.body "failure_rate" 0 = .ok (.finite 0) := by
  rw [TaskMetrics.body]
  cases metrics.averages with
  | none => rfl
  | some averages => rfl

theorem metric_latency : metric decoders metrics.body "p95_latency_ms" 1 = .ok (.finite 1) := by
  rw [TaskMetrics.body]
  cases metrics.averages with
  | none => rfl
  | some averages => rfl

end

theorem breaches_isEmpty (criterion : Criterion) (value limit : Rat) :
    (breaches criterion (.finite value) limit).isEmpty = true ↔ ¬ limit < value := by
  rw [breaches, FloatValue.above]
  by_cases exceeds : limit < value
  · simp [exceeds]
  · simp [exceeds]

theorem compareMetrics_result (changeId : String) (before after : TaskMetrics) :
    ∃ report, compareMetrics decoders changeId before.body after.body = .ok report ∧
      report.result ≠ .insufficientData ∧
      (report.result = .failed ↔
        maxEscalationIncrease < seenEscalation after - seenEscalation before ∨
          maxConfidenceDecrease < seenConfidence before - seenConfidence after) := by
  rw [compareMetrics]
  simp only [metric_escalation, metric_confidence, metric_failure, metric_latency, bind,
    Except.bind, pure, Except.pure, FloatValue.sub]
  have steady : breaches .failureRate (.finite (0 - 0)) maxFailureIncrease = [] := by
    rw [← List.isEmpty_iff, breaches_isEmpty, maxFailureIncrease]
    norm_num
  have even : (if FloatValue.above (.finite 1) 0 = true then
      FloatValue.divPositive (.finite 1) (.finite 1) else .finite 1) = .finite 1 := by
    simp [FloatValue.divPositive]
  have level : breaches .p95Latency (.finite 1) maxLatencyIncreaseRatio = [] := by
    rw [← List.isEmpty_iff, breaches_isEmpty, maxLatencyIncreaseRatio]
    norm_num
  simp only [steady, even, level, List.append_nil]
  refine ⟨_, rfl, ?_, ?_⟩
  · dsimp only
    split
    · exact ValidationResult.noConfusion
    · exact ValidationResult.noConfusion
  · dsimp only
    have none : (breaches .escalationRate
          (.finite (seenEscalation after - seenEscalation before)) maxEscalationIncrease ++
        breaches .avgConfidence
          (.finite (seenConfidence before - seenConfidence after))
          maxConfidenceDecrease).isEmpty = true ↔
        ¬ (maxEscalationIncrease < seenEscalation after - seenEscalation before ∨
          maxConfidenceDecrease < seenConfidence before - seenConfidence after) := by
      rw [List.isEmpty_iff, List.append_eq_nil_iff, ← List.isEmpty_iff, ← List.isEmpty_iff,
        breaches_isEmpty, breaches_isEmpty, not_or]
    split
    · next empty => exact iff_of_false (by simp) (none.mp empty)
    · next breached => exact iff_of_true rfl (not_not.mp fun fine => breached (none.mpr fine))

theorem seen_of_requests {store : MetricsStore} {now : Rat} {task : String}
    (requests : lastHour store now task ≠ []) :
    seenEscalation (store.getTaskMetrics now task) = trueEscalationRate (lastHour store now task) ∧
      seenConfidence (store.getTaskMetrics now task) =
        trueConfidence (lastHour store now task) := by
  have some : (lastHour store now task).isEmpty ≠ true := by simpa using requests
  rw [lastHour] at some
  rw [MetricsStore.getTaskMetrics]
  dsimp only
  rw [if_neg some]
  exact ⟨rfl, rfl⟩

end

theorem takeSnapshot_metrics {change : Change} {replies : Replies} {body snapshot : Json}
    (answered : replies.metrics = .answered 200 body)
    (taken : takeSnapshot change replies = .ok snapshot) :
    Json.get? "metrics" snapshot = some body := by
  rw [takeSnapshot, answered] at taken
  dsimp only at taken
  rw [if_pos rfl, snapshotRouting.eq_def] at taken
  cases routed : replies.routing with
  | raised error =>
    rw [routed] at taken
    cases taken
  | httpError =>
    rw [routed] at taken
    cases taken
    rfl
  | answered status routing =>
    rw [routed] at taken
    cases taken
    split
    · rfl
    · rfl

theorem validate_result (decoders : Decoders) {change : Change} {before : TaskMetrics}
    (measured : Json.get? "metrics" change.snapshot = some before.body) (after : TaskMetrics) :
    ∃ report, validate decoders change (.answered 200 after.body) = .ok report ∧
      report.result ≠ .insufficientData ∧
      (report.result = .failed ↔
        maxEscalationIncrease < seenEscalation after - seenEscalation before ∨
          maxConfidenceDecrease < seenConfidence before - seenConfidence after) := by
  obtain ⟨report, compared, decides, result⟩ :=
    @compareMetrics_result decoders change.id before after
  refine ⟨report, ?_, decides, result⟩
  have read : getField change.snapshot "metrics" (.obj []) = .ok before.body := by
    rw [getField.eq_def]
    cases taken : change.snapshot with
    | obj fields =>
      rw [taken] at measured
      have found : Json.field? "metrics" fields = some before.body := measured
      dsimp only
      rw [found]
      rfl
    | null | bool value | num value | str value | arr items =>
      rw [taken] at measured
      cases measured
  have nonempty : ∀ metrics : TaskMetrics, truthy metrics.body = true := fun metrics => rfl
  rw [validate, read]
  dsimp only [bind, Except.bind]
  rw [if_pos (nonempty before), fetchCurrentMetrics, if_pos rfl]
  dsimp only
  rw [if_pos (nonempty after)]
  exact compared

/-- Validating a change from the two records that the gateway builds of a task's last hour is
right exactly if both hours have requests, and the failure rate or the latency got worse than
allowed only together with the escalation rate or the confidence. -/
theorem validates_truly_iff (decoders : Decoders) (change : Change) (before after : MetricsStore)
    (takenAt now : Rat) (task : String) (replies : Replies)
    (answered : replies.metrics = .answered 200 (before.getTaskMetrics takenAt task).body)
    (taken : takeSnapshot change replies = .ok change.snapshot) :
    ∃ report,
      validate decoders change (.answered 200 (after.getTaskMetrics now task).body) = .ok report ∧
        (ValidatesTruly report.result (lastHour before takenAt task) (lastHour after now task) ↔
          lastHour before takenAt task ≠ [] ∧ lastHour after now task ≠ [] ∧
            (Regresses (lastHour before takenAt task) (lastHour after now task) →
              RegressesVisibly (lastHour before takenAt task) (lastHour after now task))) := by
  obtain ⟨report, validated, decides, result⟩ :=
    validate_result decoders (takeSnapshot_metrics answered taken) (after.getTaskMetrics now task)
  refine ⟨report, validated, ?_⟩
  by_cases earlier : lastHour before takenAt task = []
  · apply iff_of_false
    · exact fun truly => decides (truly.withholds (.inl earlier))
    · exact fun requests => requests.1 earlier
  · by_cases later : lastHour after now task = []
    · apply iff_of_false
      · exact fun truly => decides (truly.withholds (.inr later))
      · exact fun requests => requests.2.1 later
    · have seenBefore := seen_of_requests earlier
      have seenAfter := seen_of_requests later
      rw [seenBefore.1, seenBefore.2, seenAfter.1, seenAfter.2] at result
      have visible : report.result = .failed ↔
          RegressesVisibly (lastHour before takenAt task) (lastHour after now task) := result
      constructor
      · intro truly
        exact ⟨earlier, later, fun regresses =>
          visible.mp ((truly.decides earlier later).mpr regresses)⟩
      · rintro ⟨_, _, together⟩
        refine ⟨fun _ _ => ?_, fun none => ?_⟩
        · exact visible.trans ⟨.inl, together⟩
        · exact absurd none (by simp [earlier, later])

def singleRequest (error : Bool) : MetricsStore where
  records := [{
    timestamp := 0
    task := "evaluate"
    modelUsed := "mid-model"
    tierUsed := "mid"
    latencyMs := 100
    error
    escalated := false
    confidence := 9 / 10 }]

def measuredChange : Change where
  id := "chg_1"
  changeType := .routing
  applyTier := .auto
  task := "evaluate"
  snapshot := .obj [("taken_at", .num 0), ("change_id", .str "chg_1"),
    ("metrics", ((singleRequest false).getTaskMetrics 0 "evaluate").body)]
  proposedAt := 0

/-- The replies that its snapshot was taken from. -/
def measuringReplies : Replies where
  metrics := .answered 200 ((singleRequest false).getTaskMetrics 0 "evaluate").body
  routing := .answered 405 (.obj [])
  execute := .answered 200 (.obj [])
  appliedAt := 0

/-- Decoders that read nothing. -/
def noDecoders : Decoders where
  loads := fun _ => .error .jsonDecodeError
  floatOfString := fun _ => none
  reprOf := fun _ => ""

/-- A change after which every request fails passes, and so does one without requests after
it. -/
theorem failing_change_passes : (validate noDecoders measuredChange (.answered 200
        ((singleRequest true).getTaskMetrics 0 "evaluate").body)).toOption.map
          ValidationReport.result = some .passed ∧
      ¬ ValidatesTruly .passed (lastHour (singleRequest false) 0 "evaluate")
        (lastHour (singleRequest true) 0 "evaluate") ∧
      (validate noDecoders measuredChange (.answered 200
        (MetricsStore.getTaskMetrics {} 0 "evaluate").body)).toOption.map
          ValidationReport.result = some .passed ∧
      ¬ ValidatesTruly .passed (lastHour (singleRequest false) 0 "evaluate")
        (lastHour {} 0 "evaluate") := by
  refine ⟨by decide +kernel, ?_, by decide +kernel, ?_⟩
  · intro truly
    have fails : maxFailureIncrease < trueFailureRate (lastHour (singleRequest true) 0 "evaluate") -
        trueFailureRate (lastHour (singleRequest false) 0 "evaluate") := by
      decide +kernel
    have failed := (truly.decides (by decide +kernel) (by decide +kernel)).mpr
      (.inr (.inl fails))
    cases failed
  · intro truly
    have withheld := truly.withholds (.inr rfl)
    cases withheld

/-- A change with the same requests before and after it. -/
theorem validates_truly_iff_single : ∃ report, validate noDecoders measuredChange
          (.answered 200 ((singleRequest false).getTaskMetrics 0 "evaluate").body) = .ok report ∧
        (ValidatesTruly report.result (lastHour (singleRequest false) 0 "evaluate")
            (lastHour (singleRequest false) 0 "evaluate") ↔
          lastHour (singleRequest false) 0 "evaluate" ≠ [] ∧
            lastHour (singleRequest false) 0 "evaluate" ≠ [] ∧
            (Regresses (lastHour (singleRequest false) 0 "evaluate")
                (lastHour (singleRequest false) 0 "evaluate") →
              RegressesVisibly (lastHour (singleRequest false) 0 "evaluate")
                (lastHour (singleRequest false) 0 "evaluate"))) :=
  validates_truly_iff noDecoders measuredChange (singleRequest false) (singleRequest false) 0 0
    "evaluate" measuringReplies rfl rfl

end Onpremai.Observer
