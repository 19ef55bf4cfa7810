import Mathlib.Algebra.Order.Ring.Rat
import Onpremai.Library.Dict
import Onpremai.Library.Text

/-!
# Metrics store

Records of the requests that were served or failed, and the summaries that the admin
endpoints give of them.
-/

namespace Onpremai.Gateway

open Onpremai.Library

/-- A request metric entry, with the fields that the summaries read. -/
structure MetricsRecord where
  timestamp : Rat
  task : String
  modelUsed : String
  tierUsed : String
  latencyMs : Int
  error : Bool
  escalated : Bool
  confidence : Rat
  deriving DecidableEq, Repr

/-- Response of the metrics endpoint. -/
structure MetricsResponse where
  window : String
  totalRequests : Nat := 0
  byTask : Dict String Nat := .empty
  byModel : Dict String Nat := .empty
  byTier : Dict String Nat := .empty
  avgLatencyMs : Rat := 0
  errorRate : Rat := 0
  escalationRate : Rat := 0

/-- The averages of a task's metrics. -/
structure TaskAverages where
  avgLatencyMs : Rat
  avgConfidence : Rat
  errorRate : Rat
  escalationRate : Rat
  deriving DecidableEq, Repr

/-- Metrics of a task; there are no averages without requests. -/
structure TaskMetrics where
  task : String
  totalRequests : Nat := 0
  averages : Option TaskAverages := none
  deriving DecidableEq, Repr

/-- In-memory metrics. -/
structure MetricsStore where
  records : List MetricsRecord := []

/-- How often every name occurs. -/
def tally (names : List String) : Dict String Nat :=
  names.foldl (fun counts name => counts.set name ((counts.get? name).getD 0 + 1)) .empty

/-- `int(text)`. -/
def parseCount (text : String) : Except String Int :=
  match (Text.strip text).toInt? with
  | some value => .ok value
  | none => .error "invalid literal for int() with base 10"

namespace MetricsStore

def maxRecords : Nat := 100000

def parseWindow (window : String) : Except String Int :=
  let count := parseCount (String.ofList window.toList.dropLast)
  if Text.endsWith "h" window then do
    let hours ← count
    return hours * 3600
  else if Text.endsWith "m" window then do
    let minutes ← count
    return minutes * 60
  else if Text.endsWith "s" window then count
  else .ok 3600

variable (store : MetricsStore)

/-- Record a request; of too many records the most recent half is kept. -/
def record (entry : MetricsRecord) : MetricsStore :=
  let records := store.records ++ [entry]
  if maxRecords < records.length then { records := records.drop (maxRecords / 2) } else { records }

def since (cutoff : Rat) : List MetricsRecord :=
  store.records.filter fun record => decide (cutoff ≤ record.timestamp)

def getSummary (now : Rat) (window : String) : Except String MetricsResponse := do
  let windowSeconds ← parseWindow window
  let filtered := store.since (now - windowSeconds)
  if filtered.isEmpty then return { window }
  else
    let total := filtered.length
    return {
      window
      totalRequests := total
      byTask := tally (filtered.map MetricsRecord.task)
      byModel := tally (filtered.map MetricsRecord.modelUsed)
      byTier := tally (filtered.map MetricsRecord.tierUsed)
      avgLatencyMs := (filtered.map fun record => (record.latencyMs : Rat)).sum / total
      errorRate := filtered.countP MetricsRecord.error / total
      escalationRate := filtered.countP MetricsRecord.escalated / total }

def getTaskMetrics (now : Rat) (task : String) : TaskMetrics :=
  let filtered := (store.since (now - 3600)).filter fun record => decide (record.task = task)
  if filtered.isEmpty then { task }
  else
    let total := filtered.length
    { task
      totalRequests := total
      averages := some
        { avgLatencyMs := (filtered.map fun record => (record.latencyMs : Rat)).sum / total
          avgConfidence := (filtered.map MetricsRecord.confidence).sum / total
          errorRate := filtered.countP MetricsRecord.error / total
          escalationRate := filtered.countP MetricsRecord.escalated / total } }

variable {store}

theorem getSummary_eq_empty_iff (now : Rat) (window : String) :
    MetricsStore.getSummary {} now window = store.getSummary now window ↔
      ∀ seconds, parseWindow window = .ok seconds → store.since (now - seconds) = [] := by
  rw [getSummary, getSummary]
  cases parseWindow window with
  | error error =>
    apply iff_of_true rfl
    intro seconds parsed
    cases parsed
  | ok seconds =>
    change (Except.ok _ : Except String MetricsResponse) = _ ↔ _
    cases found : store.since (now - seconds) with
    | nil =>
      apply iff_of_true
      · change _ = ite ((store.since (now - seconds)).isEmpty = true) _ _
        rw [found]
        rfl
      · intro other parsed
        cases parsed
        exact found
    | cons record rest =>
      apply iff_of_false
      · intro same
        change _ = ite ((store.since (now - seconds)).isEmpty = true) _ _ at same
        rw [found, if_neg Bool.noConfusion] at same
        have totals := congrArg MetricsResponse.totalRequests (Except.ok.inj same)
        cases totals
      · intro none
        have empty := none seconds rfl
        rw [found] at empty
        cases empty

theorem getTaskMetrics_eq_empty_iff (now : Rat) (task : String) :
    MetricsStore.getTaskMetrics {} now task = store.getTaskMetrics now task ↔
      (store.since (now - 3600)).filter (fun record => decide (record.task = task)) = [] := by
  rw [getTaskMetrics.eq_def store]
  dsimp only
  cases found : (store.since (now - 3600)).filter fun record => decide (record.task = task) with
  | nil => exact iff_of_true rfl rfl
  | cons record rest =>
    apply iff_of_false
    · intro same
      have totals := congrArg TaskMetrics.totalRequests same
      cases totals
    · intro empty
      cases empty

end MetricsStore

end Onpremai.Gateway
