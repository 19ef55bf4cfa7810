import Mathlib.Algebra.BigOperators.Group.List.Basic
import Onpremai.Library.Grouping
import Onpremai.Observer.Validation

/-!
# Issue detection

Log entries are grouped by task, by model and by tenant, every group is measured, and threshold
rules turn the measures into issues.  What is measured of a group does not depend on the order of
its entries, so the issues are the same for every order of the log.
-/

namespace Onpremai.Observer.IssueDetector

open Onpremai.Library

/-- What metrics read of a log entry, in exact numbers. -/
structure Sample where
  task : String
  modelUsed : String
  tenantId : String
  escalated : Bool := false
  latencyMs : Int := 0
  confidence : Rat := 0
  success : Bool := true
  error : Bool := false
  parseSuccess : Bool := true
  costUsd : Rat := 0

structure TaskMetrics where
  task : String
  sampleCount : Nat := 0
  avgConfidence : Rat := 0
  escalationRate : Rat := 0
  failureRate : Rat := 0
  parseFailureRate : Rat := 0
  avgLatencyMs : Rat := 0
  p95LatencyMs : Rat := 0
  avgCostUsd : Rat := 0
  totalCostUsd : Rat := 0
  errorRate : Rat := 0

structure ModelMetrics where
  model : String
  sampleCount : Nat := 0
  errorRate : Rat := 0
  avgLatencyMs : Rat := 0
  p95LatencyMs : Rat := 0
  avgCostUsd : Rat := 0
  totalCostUsd : Rat := 0
  availability : Rat := 1

structure TenantMetrics where
  tenantId : String
  sampleCount : Nat := 0
  totalCostUsd : Rat := 0
  avgCostUsd : Rat := 0
  escalationRate : Rat := 0
  avgConfidence : Rat := 0

structure AggregatedMetrics where
  byTask : Dict String TaskMetrics := .empty
  byModel : Dict String ModelMetrics := .empty
  byTenant : Dict String TenantMetrics := .empty
  totalEntries : Nat := 0

/-- `statistics.mean(values) if values else 0.0`. -/
def mean (values : List Rat) : Rat := values.sum / values.length

/-- `count / len(entries) if len(entries) > 0 else 0.0`. -/
def rate (test : Sample → Bool) (entries : List Sample) : Rat :=
  entries.countP test / entries.length

def confidences (entries : List Sample) : List Rat :=
  (entries.map Sample.confidence).filter (0 < ·)

def latencies (entries : List Sample) : List Int := entries.map Sample.latencyMs

def costs (entries : List Sample) : List Rat := entries.map Sample.costUsd

def computeTaskMetrics (task : String) (entries : List Sample) : TaskMetrics where
  task := task
  sampleCount := entries.length
  avgConfidence := mean (confidences entries)
  escalationRate := rate Sample.escalated entries
  failureRate := rate (!·.success) entries
  parseFailureRate := rate (!·.parseSuccess) entries
  avgLatencyMs := mean ((latencies entries).map (↑))
  p95LatencyMs := percentile (latencies entries) (95 / 100)
  avgCostUsd := mean (costs entries)
  totalCostUsd := (costs entries).sum
  errorRate := rate Sample.error entries

def computeModelMetrics (model : String) (entries : List Sample) : ModelMetrics where
  model := model
  sampleCount := entries.length
  errorRate := rate Sample.error entries
  avgLatencyMs := mean ((latencies entries).map (↑))
  p95LatencyMs := percentile (latencies entries) (95 / 100)
  avgCostUsd := mean (costs entries)
  totalCostUsd := (costs entries).sum
  availability := if entries = [] then 1 else rate Sample.success entries

def computeTenantMetrics (tenantId : String) (entries : List Sample) : TenantMetrics where
  tenantId := tenantId
  sampleCount := entries.length
  totalCostUsd := (costs entries).sum
  avgCostUsd := mean (costs entries)
  escalationRate := rate Sample.escalated entries
  avgConfidence := mean (confidences entries)

def groupsOf (field : Sample → String) (entries : List Sample) : Dict String (List Sample) :=
  .group (entries.map fun entry => (field entry, entry))

def aggregate (entries : List Sample) : AggregatedMetrics where
  byTask := (groupsOf Sample.task entries).mapEntries computeTaskMetrics
  byModel := (groupsOf Sample.modelUsed entries).mapEntries computeModelMetrics
  byTenant := (groupsOf Sample.tenantId entries).mapEntries computeTenantMetrics
  totalEntries := entries.length

/-! ## The rules -/

inductive IssueType where
  | highEscalation
  | lowConfidence
  | parseFailures
  | costSpike
  | modelErrors
  | latencySpike
  deriving DecidableEq

inductive IssueSeverity where
  | critical
  | high
  | medium
  | low

def IssueSeverity.order : IssueSeverity → Nat
  | .critical => 0
  | .high => 1
  | .medium => 2
  | .low => 3

/-- An issue, without its id and the time of its detection. -/
structure Issue where
  issueType : IssueType
  severity : IssueSeverity
  task : String := ""
  model : String := ""
  description : String
  currentValue : Rat
  thresholdValue : Rat
  baselineValue : Rat := 0
  sampleCount : Nat
  metrics : List (String × Json)

/-- How numbers are written in a description: `:.0%`, `:.1f` and `:.2f`. -/
structure Formats where
  percent : Rat → String
  oneDigit : Rat → String
  twoDigits : Rat → String

structure DetectionSettings where
  detectEscalationRate : Rat := 2 / 5
  detectLowConfidence : Rat := 7 / 10
  detectParseFailureRate : Rat := 3 / 20
  detectCostSpikeMultiplier : Rat := 2
  detectErrorRate : Rat := 1 / 20
  detectLatencySpikeMultiplier : Rat := 2
  detectMinSamples : Int := 10

section

variable (formats : Formats) (settings : DetectionSettings) (baseline : Dict String TaskMetrics)

def rateIssue (issueType : IssueType) (severity : IssueSeverity) (raised : Bool)
    (taskMetrics : TaskMetrics) (description name : String) (value threshold : Rat)
    (ofBaseline : TaskMetrics → Rat) : List Issue :=
  if raised then
    [{ issueType, severity, task := taskMetrics.task
       description := "Task '" ++ taskMetrics.task ++ "' " ++ description
       currentValue := value
       thresholdValue := threshold
       baselineValue := ((baseline.get? taskMetrics.task).map ofBaseline).getD 0
       sampleCount := taskMetrics.sampleCount
       metrics := [(name, .num value), ("sample_count", .num taskMetrics.sampleCount)] }]
  else []

def spikeIssue (issueType : IssueType) (taskMetrics : TaskMetrics)
    (measure currentName baselineName ratioName : String) (of : TaskMetrics → Rat)
    (multiplier : Rat) : List Issue :=
  match baseline.get? taskMetrics.task with
  | none => []
  | some before =>
    let ratio := of taskMetrics / of before
    if 0 < of before ∧ multiplier < ratio then
      [{ issueType
         severity := .medium
         task := taskMetrics.task
         description := "Task '" ++ taskMetrics.task ++ "' " ++ measure ++ " is " ++
           formats.oneDigit ratio ++ "x baseline (threshold: " ++ formats.oneDigit multiplier ++
           "x)"
         currentValue := ratio
         thresholdValue := multiplier
         baselineValue := 1
         sampleCount := taskMetrics.sampleCount
         metrics := [(currentName, .num (of taskMetrics)), (baselineName, .num (of before)),
           (ratioName, .num ratio)] }]
    else []

def detectTaskIssues (taskMetrics : TaskMetrics) : List Issue :=
  rateIssue baseline .highEscalation .high
      (settings.detectEscalationRate < taskMetrics.escalationRate) taskMetrics
      ("has " ++ formats.percent taskMetrics.escalationRate ++ " escalation rate (threshold: " ++
        formats.percent settings.detectEscalationRate ++ ")")
      "escalation_rate" taskMetrics.escalationRate settings.detectEscalationRate
      TaskMetrics.escalationRate ++
    rateIssue baseline .lowConfidence .medium
      (taskMetrics.avgConfidence < settings.detectLowConfidence) taskMetrics
      ("has avg confidence " ++ formats.twoDigits taskMetrics.avgConfidence ++ " (threshold: " ++
        formats.twoDigits settings.detectLowConfidence ++ ")")
      "avg_confidence" taskMetrics.avgConfidence settings.detectLowConfidence
      TaskMetrics.avgConfidence ++
    rateIssue baseline .parseFailures .high
      (settings.detectParseFailureRate < taskMetrics.parseFailureRate) taskMetrics
      ("has " ++ formats.percent taskMetrics.parseFailureRate ++
        " parse failure rate (threshold: " ++ formats.percent settings.detectParseFailureRate ++
        ")")
      "parse_failure_rate" taskMetrics.parseFailureRate settings.detectParseFailureRate
      TaskMetrics.parseFailureRate ++
    spikeIssue formats baseline .costSpike taskMetrics "cost" "current_avg_cost"
      "baseline_avg_cost" "cost_ratio" TaskMetrics.avgCostUsd
      settings.detectCostSpikeMultiplier ++
    spikeIssue formats baseline .latencySpike taskMetrics "P95 latency" "current_p95_ms"
      "baseline_p95_ms" "latency_ratio" TaskMetrics.p95LatencyMs
      settings.detectLatencySpikeMultiplier

def detectModelIssues (modelMetrics : ModelMetrics) : List Issue :=
  if settings.detectErrorRate < modelMetrics.errorRate then
    [{ issueType := .modelErrors
       severity := .critical
       model := modelMetrics.model
       description := "Model '" ++ modelMetrics.model ++ "' has " ++
         formats.percent modelMetrics.errorRate ++ " error rate (threshold: " ++
         formats.percent settings.detectErrorRate ++ ")"
       currentValue := modelMetrics.errorRate
       thresholdValue := settings.detectErrorRate
       sampleCount := modelMetrics.sampleCount
       metrics := [("error_rate", .num modelMetrics.errorRate),
         ("sample_count", .num modelMetrics.sampleCount), ("model", .str modelMetrics.model)] }]
  else []

def detect (metrics : AggregatedMetrics) : List Issue :=
  let taskIssues := metrics.byTask.entries.flatMap fun entry =>
    if entry.2.sampleCount < settings.detectMinSamples then []
    else detectTaskIssues formats settings baseline entry.2
  let modelIssues := metrics.byModel.entries.flatMap fun entry =>
    if entry.2.sampleCount < settings.detectMinSamples then []
    else detectModelIssues formats settings entry.2
  (taskIssues ++ modelIssues).mergeSort fun first second =>
    decide (first.severity.order ≤ second.severity.order)

end

section

variable (formats : Formats) (settings : DetectionSettings) (baseline : Dict String TaskMetrics)

def issuesOf (entries : List Sample) : List Issue :=
  detect formats settings baseline (aggregate entries)

def Issue.Elsewhere (task model : String) (issue : Issue) : Prop :=
  if issue.issueType = .modelErrors then issue.model ≠ model else issue.task ≠ task

instance (task model : String) : DecidablePred (Issue.Elsewhere task model) := fun issue =>
  inferInstanceAs (Decidable (if issue.issueType = .modelErrors then issue.model ≠ model
    else issue.task ≠ task))

/-- One of the latencies, which at least 95 percent of them do not exceed. -/
def IsP95 (entries : List Sample) (value : Rat) : Prop :=
  ∃ latency ∈ latencies entries, value = latency ∧
    95 / 100 * (entries.length : Rat) ≤ (latencies entries).countP (· ≤ latency)

def Partitions {Metrics : Type} (groups : Dict String Metrics) (sampleCount : Metrics → Nat)
    (totalCostUsd : Metrics → Rat) (entries : List Sample) : Prop :=
  (groups.values.map sampleCount).sum = entries.length ∧
    (groups.values.map totalCostUsd).sum = (costs entries).sum

structure DetectsWell (entries : List Sample) : Prop where
  tasks : Partitions (aggregate entries).byTask TaskMetrics.sampleCount
    TaskMetrics.totalCostUsd entries
  models : Partitions (aggregate entries).byModel ModelMetrics.sampleCount
    ModelMetrics.totalCostUsd entries
  tenants : Partitions (aggregate entries).byTenant TenantMetrics.sampleCount
    TenantMetrics.totalCostUsd entries
  taskLatency : ∀ task metrics, (aggregate entries).byTask.get? task = some metrics →
    IsP95 (entries.filter (·.task = task)) metrics.p95LatencyMs
  modelLatency : ∀ model metrics, (aggregate entries).byModel.get? model = some metrics →
    IsP95 (entries.filter (·.modelUsed = model)) metrics.p95LatencyMs
  sorted : (issuesOf formats settings baseline entries).Pairwise fun earlier later =>
    earlier.severity.order ≤ later.severity.order
  anyOrder : ∀ permuted, entries.Perm permuted →
    (issuesOf formats settings baseline entries).Perm
      (issuesOf formats settings baseline permuted)
  separate : ∀ task model added, (∀ entry ∈ added, entry.task = task ∧ entry.modelUsed = model) →
    ∀ extended, (entries ++ added).Perm extended →
      ((issuesOf formats settings baseline entries).filter (·.Elsewhere task model)).Perm
        ((issuesOf formats settings baseline extended).filter (·.Elsewhere task model))

end

section

variable {field : Sample → String} {entries : List Sample}

theorem get?_groupsOf (key : String) : (groupsOf field entries).get? key =
    if entries.filter (field · = key) = [] then none
    else some (entries.filter (field · = key)) := by
  rw [groupsOf, Dict.get?_group, List.filter_map]
  simp [Function.comp_def]

theorem mem_keys_groupsOf {key : String} :
    key ∈ (groupsOf field entries).keys ↔ entries.filter (field · = key) ≠ [] := by
  rw [Dict.mem_keys_iff, get?_groupsOf]
  split
  · next none => simp [none]
  · next some => simpa using some

theorem entries_groupsOf : (groupsOf field entries).entries =
    (groupsOf field entries).keys.map fun key => (key, entries.filter (field · = key)) := by
  rw [Dict.keys, List.map_map]
  conv_lhs => rw [← List.map_id (groupsOf field entries).entries]
  apply List.map_congr_left
  intro group member
  have held := (Dict.mem_entries_iff _ group.1 group.2).mp member
  rw [get?_groupsOf] at held
  split at held
  · cases held
  · exact Prod.ext rfl (Option.some.inj held).symm

theorem values_groupsOf_perm : (groupsOf field entries).values.flatten.Perm entries := by
  apply (Dict.values_group_perm _).trans
  simp [Function.comp_def]

theorem partitions_groupsOf {Metrics : Type} {compute : String → List Sample → Metrics}
    {sampleCount : Metrics → Nat} {totalCostUsd : Metrics → Rat}
    (counts : ∀ key group, sampleCount (compute key group) = group.length)
    (sums : ∀ key group, totalCostUsd (compute key group) = (costs group).sum) :
    Partitions ((groupsOf field entries).mapEntries compute) sampleCount totalCostUsd entries := by
  have perm := @values_groupsOf_perm field entries
  constructor
  · rw [← perm.length_eq]
    simp [Dict.values, Dict.mapEntries, counts, List.length_flatten, Function.comp_def]
  · rw [costs, ← (perm.map Sample.costUsd).sum_eq]
    simp [Dict.values, Dict.mapEntries, sums, costs, List.map_flatten, List.sum_flatten, Function.comp_def]

theorem flatMap_groupsOf_perm {rule : String → List Sample → List Issue} (keep : String → Bool)
    (blind : ∀ key first second, first.Perm second → rule key first = rule key second)
    {others : List Sample} (same : ∀ key, keep key = true →
      (entries.filter (field · = key)).Perm (others.filter (field · = key))) :
    (((groupsOf field entries).entries.filter (keep ·.1)).flatMap fun group =>
        rule group.1 group.2).Perm
      (((groupsOf field others).entries.filter (keep ·.1)).flatMap fun group =>
        rule group.1 group.2) := by
  rw [entries_groupsOf, entries_groupsOf, List.filter_map, List.filter_map, List.flatMap_map,
    List.flatMap_map]
  have keys : ((groupsOf field entries).keys.filter keep).Perm
      ((groupsOf field others).keys.filter keep) := by
    apply (List.perm_ext_iff_of_nodup ((groupsOf field entries).nodupKeys.filter _)
      ((groupsOf field others).nodupKeys.filter _)).mpr
    intro key
    rw [List.mem_filter, List.mem_filter]
    apply and_congr_left
    intro kept
    change key ∈ (groupsOf field entries).keys ↔ key ∈ (groupsOf field others).keys
    rw [mem_keys_groupsOf, mem_keys_groupsOf, ← List.length_pos_iff, ← List.length_pos_iff,
      (same key kept).length_eq]
  have rules : ∀ key ∈ (groupsOf field entries).keys.filter keep,
      rule key (entries.filter (field · = key)) = rule key (others.filter (field · = key)) :=
    fun key member => blind key _ _ (same key (List.mem_filter.mp member).2)
  simp only [Function.comp_def]
  rw [List.flatMap_congr rules]
  exact keys.flatMap_right _

end

theorem mean_perm {values others : List Rat} (perm : values.Perm others) :
    mean values = mean others := by
  rw [mean, mean, perm.sum_eq, perm.length_eq]

theorem percentile_perm {values others : List Int} (perm : values.Perm others) (pct : Rat) :
    percentile values pct = percentile others pct := by
  have sorted : values.insertionSort (· ≤ ·) = others.insertionSort (· ≤ ·) := by
    apply List.Perm.eq_of_sortedLE
    · exact List.sortedLE_insertionSort
    · exact List.sortedLE_insertionSort
    · exact (List.perm_insertionSort _ _).trans (perm.trans (List.perm_insertionSort _ _).symm)
  rw [percentile, percentile, sorted]

section

variable {first second : List Sample} (perm : first.Perm second)

include perm

theorem rate_perm (test : Sample → Bool) : rate test first = rate test second := by
  rw [rate, rate, perm.countP_eq, perm.length_eq]

theorem computeTaskMetrics_perm (task : String) :
    computeTaskMetrics task first = computeTaskMetrics task second := by
  have latency := perm.map Sample.latencyMs
  have cost := perm.map Sample.costUsd
  simp only [computeTaskMetrics, perm.length_eq, rate_perm perm, confidences, latencies, costs,
    mean_perm ((perm.map Sample.confidence).filter _), mean_perm (latency.map _),
    percentile_perm latency, mean_perm cost, cost.sum_eq]

theorem computeModelMetrics_perm (model : String) :
    computeModelMetrics model first = computeModelMetrics model second := by
  have latency := perm.map Sample.latencyMs
  have cost := perm.map Sample.costUsd
  simp only [computeModelMetrics, perm.length_eq, rate_perm perm, latencies, costs,
    mean_perm (latency.map _),
    percentile_perm latency, mean_perm cost, cost.sum_eq,
    ← List.length_eq_zero_iff]

end

theorem isP95_percentile {entries : List Sample} (some : entries ≠ []) :
    IsP95 entries (percentile (latencies entries) (95 / 100)) := by
  have perm := List.perm_insertionSort (· ≤ ·) (latencies entries)
  have ordered := List.pairwise_insertionSort (· ≤ ·) (latencies entries)
  have size : ((latencies entries).insertionSort (· ≤ ·)).length = entries.length := by
    simp [latencies]
  have positive := List.length_pos_iff.mpr some
  rw [percentile]
  generalize (latencies entries).insertionSort (· ≤ ·) = sorted at *
  obtain ⟨index, place⟩ : ∃ index, index =
    min ((sorted.length : Rat) * (95 / 100)).floor.toNat (sorted.length - 1) := ⟨_, rfl⟩
  have inside : index < sorted.length := by omega
  rw [← place, List.getElem?_eq_getElem inside]
  refine ⟨sorted[index], perm.mem_iff.mp (List.getElem_mem inside), rfl, ?_⟩
  have below : index + 1 ≤ (latencies entries).countP (· ≤ sorted[index]) := by
    rw [← perm.countP_eq]
    have all : (sorted.take (index + 1)).countP (· ≤ sorted[index]) = index + 1 := by
      rw [List.countP_eq_length.mpr, List.length_take, Nat.min_eq_left inside]
      intro latency member
      obtain ⟨before, bound, rfl⟩ := List.mem_take_iff_getElem.mp member
      simp only [decide_eq_true_eq]
      rcases Nat.lt_or_ge before index with earlier | same
      · exact List.pairwise_iff_getElem.mp ordered before index _ _ earlier
      · have : before = index := by omega
        simp [this]
    rw [← all]
    exact (List.take_sublist _ _).countP_le
  have enough : 95 / 100 * (entries.length : Rat) ≤ (index : Rat) + 1 := by
    rw [← size]
    rcases Nat.le_total ((sorted.length : Rat) * (95 / 100)).floor.toNat (sorted.length - 1) with
      floor | last
    · rw [place, Nat.min_eq_left floor]
      have room := Rat.lt_floor_add_one ((sorted.length : Rat) * (95 / 100))
      have least : (((sorted.length : Rat) * (95 / 100)).floor : Rat) ≤
          ((sorted.length : Rat) * (95 / 100)).floor.toNat := by
        exact_mod_cast Int.self_le_toNat _
      push_cast at room
      linarith
    · have whole : index + 1 = sorted.length := by omega
      have size : (index : Rat) + 1 = sorted.length := by exact_mod_cast whole
      rw [size]
      have positive : (0 : Rat) ≤ sorted.length := Nat.cast_nonneg _
      linarith
  calc 95 / 100 * (entries.length : Rat) ≤ (index : Rat) + 1 := enough
    _ ≤ _ := by exact_mod_cast below

theorem isP95_of_get? {Metrics : Type} {compute : String → List Sample → Metrics}
    {p95LatencyMs : Metrics → Rat} (same : ∀ key group,
      p95LatencyMs (compute key group) = percentile (latencies group) (95 / 100))
    {field : Sample → String} {entries : List Sample} {key : String} {metrics : Metrics}
    (found : ((groupsOf field entries).mapEntries compute).get? key = some metrics) :
    IsP95 (entries.filter (field · = key)) (p95LatencyMs metrics) := by
  rw [Dict.get?_mapEntries, get?_groupsOf] at found
  split at found
  · cases found
  · next some =>
    cases found
    rw [same]
    exact isP95_percentile some

/-! ### Issues -/

section

variable (formats : Formats) (settings : DetectionSettings) (baseline : Dict String TaskMetrics)

def taskRule (task : String) (group : List Sample) : List Issue :=
  if group.length < settings.detectMinSamples then []
  else detectTaskIssues formats settings baseline (computeTaskMetrics task group)

def modelRule (model : String) (group : List Sample) : List Issue :=
  if group.length < settings.detectMinSamples then []
  else detectModelIssues formats settings (computeModelMetrics model group)

theorem issuesOf_perm (entries : List Sample) : (issuesOf formats settings baseline entries).Perm
    (((groupsOf Sample.task entries).entries.flatMap fun group =>
        taskRule formats settings baseline group.1 group.2) ++
      (groupsOf Sample.modelUsed entries).entries.flatMap fun group =>
        modelRule formats settings group.1 group.2) := by
  apply (List.mergeSort_perm _ _).trans
  simp only [aggregate, Dict.mapEntries, List.flatMap_map]
  exact .refl _

theorem subject_of_mem_rateIssue {issueType : IssueType} {severity : IssueSeverity}
    {raised : Bool} {taskMetrics : TaskMetrics} {description name : String}
    {value threshold : Rat} {ofBaseline : TaskMetrics → Rat} {issue : Issue}
    (member : issue ∈ rateIssue baseline issueType severity raised taskMetrics description name
      value threshold ofBaseline) :
    issue.issueType = issueType ∧ issue.task = taskMetrics.task := by
  rw [rateIssue] at member
  split at member
  · rw [List.mem_singleton.mp member]
    exact ⟨rfl, rfl⟩
  · cases member

theorem subject_of_mem_spikeIssue {issueType : IssueType} {taskMetrics : TaskMetrics}
    {measure currentName baselineName ratioName : String} {of : TaskMetrics → Rat}
    {multiplier : Rat} {issue : Issue} (member : issue ∈ spikeIssue formats baseline issueType
      taskMetrics measure currentName baselineName ratioName of multiplier) :
    issue.issueType = issueType ∧ issue.task = taskMetrics.task := by
  rw [spikeIssue] at member
  split at member
  · cases member
  · dsimp only at member
    split at member
    · rw [List.mem_singleton.mp member]
      exact ⟨rfl, rfl⟩
    · cases member

theorem subject_of_mem_taskRule {task : String} {group : List Sample} {issue : Issue}
    (member : issue ∈ taskRule formats settings baseline task group) :
    issue.issueType ≠ .modelErrors ∧ issue.task = task := by
  rw [taskRule] at member
  split at member
  · cases member
  · simp only [detectTaskIssues, List.mem_append] at member
    rcases member with (((rated | rated) | rated) | spike) | spike
    · simp [subject_of_mem_rateIssue baseline rated, computeTaskMetrics]
    · simp [subject_of_mem_rateIssue baseline rated, computeTaskMetrics]
    · simp [subject_of_mem_rateIssue baseline rated, computeTaskMetrics]
    · simp [subject_of_mem_spikeIssue formats baseline spike, computeTaskMetrics]
    · simp [subject_of_mem_spikeIssue formats baseline spike, computeTaskMetrics]

theorem subject_of_mem_modelRule {model : String} {group : List Sample} {issue : Issue}
    (member : issue ∈ modelRule formats settings model group) :
    issue.issueType = .modelErrors ∧ issue.model = model := by
  rw [modelRule] at member
  split at member
  · cases member
  · rw [detectModelIssues] at member
    split at member
    · rw [List.mem_singleton.mp member]
      exact ⟨rfl, rfl⟩
    · cases member

theorem filter_flatMap_of_agree {groups : List (String × List Sample)}
    {rule : String → List Sample → List Issue} {pass : Issue → Bool} {keep : String → Bool}
    (agree : ∀ key group, ∀ issue ∈ rule key group, pass issue = keep key) :
    (groups.flatMap fun group => rule group.1 group.2).filter pass =
      (groups.filter (keep ·.1)).flatMap fun group => rule group.1 group.2 := by
  induction groups with
  | nil => rfl
  | cons group rest ih =>
    rw [List.flatMap_cons, List.filter_append, ih]
    cases kept : keep group.1 with
    | true =>
      have all : (rule group.1 group.2).filter pass = rule group.1 group.2 :=
        List.filter_eq_self.mpr fun issue member => by rw [agree _ _ issue member, kept]
      simp [all, kept]
    | false =>
      have none : (rule group.1 group.2).filter pass = [] :=
        List.filter_eq_nil_iff.mpr fun issue member => by simp [agree _ _ issue member, kept]
      simp [none, kept]

theorem filter_issuesOf_perm (task model : String) (entries : List Sample) :
    ((issuesOf formats settings baseline entries).filter (·.Elsewhere task model)).Perm
      ((((groupsOf Sample.task entries).entries.filter (fun group => decide (group.1 ≠ task))).flatMap fun group =>
          taskRule formats settings baseline group.1 group.2) ++
        ((groupsOf Sample.modelUsed entries).entries.filter (fun group => decide (group.1 ≠ model))).flatMap
          fun group => modelRule formats settings group.1 group.2) := by
  apply ((issuesOf_perm formats settings baseline entries).filter _).trans
  have tasks : ∀ key group, ∀ issue ∈ taskRule formats settings baseline key group,
      decide (issue.Elsewhere task model) = decide (key ≠ task) := by
    intro key group issue member
    simp [Issue.Elsewhere, subject_of_mem_taskRule formats settings baseline member]
  have models : ∀ key group, ∀ issue ∈ modelRule formats settings key group,
      decide (issue.Elsewhere task model) = decide (key ≠ model) := by
    intro key group issue member
    simp [Issue.Elsewhere, subject_of_mem_modelRule formats settings member]
  rw [List.filter_append, filter_flatMap_of_agree tasks, filter_flatMap_of_agree models]

theorem taskRule_perm (task : String) {first second : List Sample} (perm : first.Perm second) :
    taskRule formats settings baseline task first =
      taskRule formats settings baseline task second := by
  rw [taskRule, taskRule, perm.length_eq, computeTaskMetrics_perm perm]

theorem modelRule_perm (model : String) {first second : List Sample} (perm : first.Perm second) :
    modelRule formats settings model first = modelRule formats settings model second := by
  rw [modelRule, modelRule, perm.length_eq, computeModelMetrics_perm perm]

theorem filter_eq_of_added {field : Sample → String} {value key : String}
    {entries added extended : List Sample} (own : ∀ entry ∈ added, field entry = value)
    (perm : (entries ++ added).Perm extended) (differ : key ≠ value) :
    (entries.filter (field · = key)).Perm (extended.filter (field · = key)) := by
  have none : added.filter (field · = key) = [] := by
    apply List.filter_eq_nil_iff.mpr
    intro entry member
    simpa [own entry member] using differ.symm
  simpa [none] using perm.filter (field · = key)

/-- The metrics partition the entries, percentiles are what they say, and the issues depend
neither on the order of the entries nor on entries of other tasks and models. -/
theorem detectsWell (entries : List Sample) : DetectsWell formats settings baseline entries := by
  have taskBlind := fun key first second => @taskRule_perm formats settings baseline key first second
  have modelBlind := fun key first second => @modelRule_perm formats settings key first second
  constructor
  · exact partitions_groupsOf (fun _ _ => rfl) (fun _ _ => rfl)
  · exact partitions_groupsOf (fun _ _ => rfl) (fun _ _ => rfl)
  · exact partitions_groupsOf (fun _ _ => rfl) (fun _ _ => rfl)
  · exact fun task metrics => isP95_of_get? fun _ _ => rfl
  · exact fun model metrics => isP95_of_get? fun _ _ => rfl
  · apply (List.pairwise_mergeSort _ _ _).imp
    · exact fun le => of_decide_eq_true le
    · intro a b c
      simpa using fun first second => Nat.le_trans first second
    · intro a b
      simpa using Nat.le_total _ _
  · intro permuted perm
    apply (issuesOf_perm formats settings baseline entries).trans
    apply List.Perm.trans _ (issuesOf_perm formats settings baseline permuted).symm
    apply List.Perm.append
    · simpa using flatMap_groupsOf_perm (fun _ => true) taskBlind fun key _ => perm.filter _
    · simpa using flatMap_groupsOf_perm (fun _ => true) modelBlind fun key _ => perm.filter _
  · intro task model added own extended perm
    apply (filter_issuesOf_perm formats settings baseline task model entries).trans
    apply List.Perm.trans _ (filter_issuesOf_perm formats settings baseline task model extended).symm
    apply List.Perm.append
    · apply flatMap_groupsOf_perm (fun key => decide (key ≠ task)) taskBlind
      intro key differ
      exact filter_eq_of_added (fun entry member => (own entry member).1) perm
        (of_decide_eq_true differ)
    · apply flatMap_groupsOf_perm (fun key => decide (key ≠ model)) modelBlind
      intro key differ
      exact filter_eq_of_added (fun entry member => (own entry member).2) perm
        (of_decide_eq_true differ)

end

end Onpremai.Observer.IssueDetector
