import Mathlib.Data.Multiset.Defs
import Mathlib.Data.String.Basic
import Onpremai.Observer.IssueDetector

/-!
# Drift detection

The confidences of two windows are compared, model by model and task by task.  Both kinds of
entities share one table, told apart by what stands before the colon of a key.
-/

namespace Onpremai.Observer.DriftDetector

open Onpremai.Library
open Onpremai.Observer.IssueDetector

/-- The library functions of the test, which see the samples in no order. -/
structure Statistics where
  ks2samp : Multiset Rat → Multiset Rat → Rat × Rat
  stdev : Multiset Rat → Rat

/-- Result of a drift detection test for a single model or task. -/
structure DriftResult where
  entityType : String
  entityId : String
  ksStatistic : Rat
  pValue : Rat
  driftDetected : Bool
  baselineSampleCount : Nat
  currentSampleCount : Nat
  baselineMean : Rat
  currentMean : Rat
  baselineStd : Rat
  currentStd : Rat

structure DriftReport where
  results : List DriftResult
  totalEntitiesChecked : Nat
  driftedEntities : Nat
  thresholdPValue : Rat

structure Detector where
  baselineData : Dict String (List Rat) := .empty
  currentData : Dict String (List Rat) := .empty
  lastReport : Option DriftReport := none

structure DriftSettings where
  driftThresholdKsPvalue : Rat := 1 / 20
  detectMinSamples : Int := 10

/-- What drifts: a model or a task. -/
inductive Entity where
  | model
  | task
  deriving DecidableEq

namespace Entity

def value : Entity → String
  | .model => "model"
  | .task => "task"

def field : Entity → Sample → String
  | .model => Sample.modelUsed
  | .task => Sample.task

def key (entity : Entity) (name : String) : String := entity.value ++ ":" ++ name

end Entity

/-- What an entry adds to a window, group by model and group by task. -/
def samplesOf (entry : Sample) : List (String × Rat) :=
  if entry.confidence ≤ 0 then []
  else [Entity.model, Entity.task].map fun entity =>
    (entity.key (entity.field entry), entry.confidence)

/-- The confidences of a window under a key. -/
def samplesAt (key : String) (entries : List Sample) : List Rat :=
  ((entries.flatMap samplesOf).filter (·.1 = key)).map Prod.snd

def ingest (entries : List Sample) : Dict String (List Rat) := .group (entries.flatMap samplesOf)

/-- `key.split(":", 1)`. -/
def splitKey (key : String) : String × String :=
  if ':' ∈ key.toList then
    (String.ofList (key.toList.takeWhile (· ≠ ':')),
      String.ofList ((key.toList.dropWhile (· ≠ ':')).drop 1))
  else ("unknown", key)

section

variable (statistics : Statistics) (settings : DriftSettings)

/-- `statistics.stdev(samples) if len(samples) > 1 else 0.0`. -/
def deviation (samples : List Rat) : Rat :=
  if 1 < samples.length then statistics.stdev samples else 0

/-- Run KS test for a single entity. -/
def runKsTest (key : String) (baseline current : List Rat) : DriftResult where
  entityType := (splitKey key).1
  entityId := (splitKey key).2
  ksStatistic := (statistics.ks2samp baseline current).1
  pValue := (statistics.ks2samp baseline current).2
  driftDetected := (statistics.ks2samp baseline current).2 < settings.driftThresholdKsPvalue
  baselineSampleCount := baseline.length
  currentSampleCount := current.length
  baselineMean := mean baseline
  currentMean := mean current
  baselineStd := deviation statistics baseline
  currentStd := deviation statistics current

def resultOf (key : String) (baseline current : List Rat) : Option DriftResult :=
  if baseline.length < settings.detectMinSamples ∨ current.length < settings.detectMinSamples then
    none
  else some (runKsTest statistics settings key baseline current)

/-- The entities present in both windows, sorted. -/
def allKeys (baselineData currentData : Dict String (List Rat)) : List String :=
  (baselineData.keys.filter (· ∈ currentData.keys)).insertionSort (· ≤ ·)

/-- Run KS test across all entities with both baseline and current data. -/
def detect (baselineData currentData : Dict String (List Rat)) : DriftReport :=
  let results := (allKeys baselineData currentData).filterMap fun key =>
    resultOf statistics settings key ((baselineData.get? key).getD [])
      ((currentData.get? key).getD [])
  { results
    totalEntitiesChecked := results.length
    driftedEntities := results.countP DriftResult.driftDetected
    thresholdPValue := settings.driftThresholdKsPvalue }

def reportOn (baseline current : List Sample) : DriftReport :=
  detect statistics settings (ingest baseline) (ingest current)

def firstHalf (entries : List Sample) : List Sample := entries.take (entries.length / 2)

def secondHalf (entries : List Sample) : List Sample := entries.drop (entries.length / 2)

/-- Daily model fit, on the entries of a day. -/
def runModelFit (detector : Detector) (entries : List Sample) : Detector :=
  if entries = [] then detector
  else
    let baselineData := ingest (firstHalf entries)
    let currentData := ingest (secondHalf entries)
    { baselineData, currentData
      lastReport := some (detect statistics settings baselineData currentData) }

/-- The last drift report after the model fits of some days. -/
def lastReport (days : List (List Sample)) : Option DriftReport :=
  (run (runModelFit statistics settings) {} days).lastReport

/-- The confidences above zero that an entity has in a window. -/
def confidencesOf (entity : Entity) (name : String) (entries : List Sample) : List Rat :=
  confidences (entries.filter (entity.field · = name))

def testOf (baseline current : List Sample) (entity : Entity) (name : String) : DriftResult :=
  runKsTest statistics settings (entity.key name) (confidencesOf entity name baseline)
    (confidencesOf entity name current)

/-- A window has confidences of the entity, and as many as a test needs. -/
def Sampled (entity : Entity) (name : String) (window : List Sample) : Prop :=
  confidencesOf entity name window ≠ [] ∧
    settings.detectMinSamples ≤ (confidencesOf entity name window).length

/-- A report holds the tests of the models and tasks that can be tested, each once and under
its own name, whatever the order of the entries. -/
structure Reports (baseline current : List Sample) (report : DriftReport) : Prop where
  exact : ∀ result, result ∈ report.results ↔ ∃ entity name,
    (Sampled settings entity name baseline ∧ Sampled settings entity name current) ∧
      result = testOf statistics settings baseline current entity name
  named : ∀ entity name,
    (testOf statistics settings baseline current entity name).entityType = entity.value ∧
      (testOf statistics settings baseline current entity name).entityId = name
  once : (report.results.map fun result => (result.entityType, result.entityId)).Nodup
  anyOrder : ∀ baseline' current', baseline.Perm baseline' → current.Perm current' →
    reportOn statistics settings baseline' current' = report

/-- The last report is about the two halves of the last day that had entries. -/
structure FitsDaily (days : List (List Sample)) : Prop where
  reported : ∀ report, lastReport statistics settings days = some report →
    ∃ earlier day later, days = earlier ++ day :: later ∧ day ≠ [] ∧
      (∀ quiet ∈ later, quiet = []) ∧
      Reports statistics settings (firstHalf day) (secondHalf day) report
  silent : lastReport statistics settings days = none → ∀ day ∈ days, day = []

end

@[simp] theorem splitKey_key (entity : Entity) (name : String) :
    splitKey (entity.key name) = (entity.value, name) := by
  cases entity with
  | model => simp [splitKey, Entity.key, Entity.value]
  | task => simp [splitKey, Entity.key, Entity.value]

theorem value_injective {one two : Entity} (same : one.value = two.value) : one = two := by
  cases one <;> cases two <;> simp_all [Entity.value]

@[simp] theorem key_eq_iff {one two : Entity} {name other : String} :
    one.key name = two.key other ↔ one = two ∧ name = other := by
  constructor
  · intro same
    have split := congrArg splitKey same
    rw [splitKey_key, splitKey_key, Prod.mk.injEq] at split
    exact ⟨value_injective split.1, split.2⟩
  · rintro ⟨rfl, rfl⟩
    rfl

theorem map_filter_samplesOf (entity : Entity) (name : String) (entry : Sample) :
    ((samplesOf entry).filter (·.1 = entity.key name)).map Prod.snd =
      confidencesOf entity name [entry] := by
  rw [samplesOf, confidencesOf, confidences]
  by_cases own : entity.field entry = name
  · by_cases positive : entry.confidence ≤ 0
    · simp [positive, own]
    · cases entity with
      | model => simp [positive, own, not_le.mp positive]
      | task => simp [positive, own, not_le.mp positive]
  · cases entity with
    | model => simp [own, apply_ite]
    | task => simp [own, apply_ite]

theorem confidencesOf_append (entity : Entity) (name : String) (earlier later : List Sample) :
    confidencesOf entity name (earlier ++ later) =
      confidencesOf entity name earlier ++ confidencesOf entity name later := by
  simp [confidencesOf, confidences]

@[simp] theorem samplesAt_key (entity : Entity) (name : String) (entries : List Sample) :
    samplesAt (entity.key name) entries = confidencesOf entity name entries := by
  induction entries with
  | nil => rfl
  | cons entry rest ih =>
    rw [samplesAt] at ih ⊢
    rw [List.flatMap_cons, List.filter_append, List.map_append, ih, map_filter_samplesOf,
      ← confidencesOf_append, List.singleton_append]

section

variable {statistics : Statistics} {settings : DriftSettings} {baseline current : List Sample}

theorem get?_ingest (key : String) (entries : List Sample) : (ingest entries).get? key =
    if samplesAt key entries = [] then none else some (samplesAt key entries) := by
  rw [ingest, Dict.get?_group]
  simp only [samplesAt, List.map_eq_nil_iff]

@[simp] theorem getD_ingest (key : String) (entries : List Sample) :
    ((ingest entries).get? key).getD [] = samplesAt key entries := by
  rw [get?_ingest]
  split
  · next none => exact none.symm
  · rfl

@[simp] theorem mem_keys_ingest {key : String} {entries : List Sample} :
    key ∈ (ingest entries).keys ↔ samplesAt key entries ≠ [] := by
  rw [Dict.mem_keys_iff, get?_ingest]
  split
  · next none => simp [none]
  · next some => simpa using some

theorem exists_key {key : String} {entries : List Sample} (some : samplesAt key entries ≠ []) :
    ∃ entity name, key = Entity.key entity name := by
  obtain ⟨sample, inside⟩ := List.exists_mem_of_ne_nil _ (mt List.map_eq_nil_iff.mpr some)
  rw [List.mem_filter, List.mem_flatMap] at inside
  obtain ⟨⟨entry, -, added⟩, same⟩ := inside
  rw [samplesOf] at added
  split at added
  · cases added
  · obtain ⟨entity, -, rfl⟩ := List.mem_map.mp added
    exact ⟨entity, entity.field entry, (of_decide_eq_true same).symm⟩

theorem samplesAt_perm {first second : List Sample} (perm : first.Perm second) (key : String) :
    (samplesAt key first).Perm (samplesAt key second) :=
  ((perm.flatMap_right _).filter _).map _

@[simp] theorem mem_allKeys {baselineData currentData : Dict String (List Rat)} {key : String} :
    key ∈ allKeys baselineData currentData ↔
      key ∈ baselineData.keys ∧ key ∈ currentData.keys := by
  simp [allKeys]

theorem nodup_allKeys {baselineData currentData : Dict String (List Rat)} :
    (allKeys baselineData currentData).Nodup :=
  (List.perm_insertionSort _ _).nodup_iff.mpr (baselineData.nodupKeys.filter _)

theorem resultOf_eq_some {key : String} {one two : List Rat} {result : DriftResult} :
    resultOf statistics settings key one two = some result ↔
      (settings.detectMinSamples ≤ one.length ∧ settings.detectMinSamples ≤ two.length) ∧
        result = runKsTest statistics settings key one two := by
  rw [resultOf, ← not_lt, ← not_lt, ← not_or]
  split
  · next short => simp [short]
  · next long => simp [long, eq_comm]

theorem mem_results {result : DriftResult} :
    result ∈ (reportOn statistics settings baseline current).results ↔
      ∃ entity name,
        (Sampled settings entity name baseline ∧ Sampled settings entity name current) ∧
          result = testOf statistics settings baseline current entity name := by
  rw [reportOn, detect, List.mem_filterMap]
  constructor
  · intro ⟨key, member, found⟩
    rw [mem_allKeys, mem_keys_ingest, mem_keys_ingest] at member
    obtain ⟨entity, name, rfl⟩ := exists_key member.1
    rw [getD_ingest, getD_ingest, resultOf_eq_some] at found
    simp only [samplesAt_key] at member found
    exact ⟨entity, name, ⟨⟨member.1, found.1.1⟩, member.2, found.1.2⟩, found.2⟩
  · intro ⟨entity, name, ⟨ofBaseline, ofCurrent⟩, same⟩
    have found := resultOf_eq_some.mpr ⟨⟨ofBaseline.2, ofCurrent.2⟩, same⟩
    exact ⟨entity.key name, by simp [ofBaseline.1, ofCurrent.1], by simpa using found⟩

theorem nodup_results : ((reportOn statistics settings baseline current).results.map
    fun result => (result.entityType, result.entityId)).Nodup := by
  rw [reportOn, detect, List.Nodup, List.pairwise_map, List.pairwise_filterMap]
  apply List.Pairwise.imp_of_mem _ nodup_allKeys
  intro one two ofOne ofTwo different result found other foundOther same
  -- A result carries the two parts of the key it was made for, and these give the key back.
  obtain ⟨entity, name, rfl⟩ := exists_key (mem_keys_ingest.mp (mem_allKeys.mp ofOne).1)
  obtain ⟨entity', name', rfl⟩ := exists_key (mem_keys_ingest.mp (mem_allKeys.mp ofTwo).1)
  rw [(resultOf_eq_some.mp found).2, (resultOf_eq_some.mp foundOther).2] at same
  simp only [runKsTest, splitKey_key, Prod.mk.injEq] at same
  exact different (key_eq_iff.mpr ⟨value_injective same.1, same.2⟩)

theorem resultOf_perm {key : String} {one two three four : List Rat} (left : one.Perm two)
    (right : three.Perm four) : resultOf statistics settings key one three =
      resultOf statistics settings key two four := by
  have first : (one : Multiset Rat) = two := Multiset.coe_eq_coe.mpr left
  have second : (three : Multiset Rat) = four := Multiset.coe_eq_coe.mpr right
  simp only [resultOf, runKsTest, deviation, first, second, mean_perm left, mean_perm right,
    left.length_eq, right.length_eq]

section

variable {baseline' current' : List Sample} (ofBaseline : baseline.Perm baseline')
  (ofCurrent : current.Perm current')
include ofBaseline ofCurrent

theorem allKeys_perm :
    allKeys (ingest baseline) (ingest current) = allKeys (ingest baseline') (ingest current') := by
  have perm : (allKeys (ingest baseline) (ingest current)).Perm
      (allKeys (ingest baseline') (ingest current')) := by
    apply (List.perm_ext_iff_of_nodup nodup_allKeys nodup_allKeys).mpr
    intro key
    simp only [mem_allKeys, mem_keys_ingest, ← List.length_pos_iff,
      (samplesAt_perm ofBaseline key).length_eq, (samplesAt_perm ofCurrent key).length_eq]
  exact perm.eq_of_sortedLE List.sortedLE_insertionSort List.sortedLE_insertionSort

theorem reportOn_perm : reportOn statistics settings baseline current =
    reportOn statistics settings baseline' current' := by
  have results (key : String) := @resultOf_perm statistics settings key _ _ _ _
    (samplesAt_perm ofBaseline key) (samplesAt_perm ofCurrent key)
  simp only [reportOn, detect, allKeys_perm ofBaseline ofCurrent, getD_ingest, results]

end

theorem reports_reportOn (baseline current : List Sample) : Reports statistics settings baseline
    current (reportOn statistics settings baseline current) where
  exact := fun _ => mem_results
  named := fun entity name => by simp [testOf, runKsTest]
  once := nodup_results
  anyOrder := fun _ _ ofBaseline ofCurrent => (reportOn_perm ofBaseline ofCurrent).symm

theorem lastReport_concat (days : List (List Sample)) (day : List Sample) :
    lastReport statistics settings (days ++ [day]) =
      if day = [] then lastReport statistics settings days
      else some (reportOn statistics settings (firstHalf day) (secondHalf day)) := by
  rw [lastReport, run_concat, runModelFit]
  split
  · rfl
  · rfl

theorem fitsDaily (days : List (List Sample)) : FitsDaily statistics settings days := by
  induction days using List.reverseRecOn with
  | nil => exact ⟨nofun, nofun⟩
  | append_singleton days day ih =>
    by_cases quiet : day = []
    · constructor
      · intro report last
        rw [lastReport_concat, if_pos quiet] at last
        obtain ⟨earlier, busy, later, rfl, some, after, reports⟩ := ih.reported report last
        exact ⟨earlier, busy, later ++ [day], by simp, some,
          by simpa [or_imp, forall_and] using ⟨after, quiet⟩, reports⟩
      · intro none
        rw [lastReport_concat, if_pos quiet] at none
        simpa [or_imp, forall_and] using ⟨ih.silent none, quiet⟩
    · constructor
      · intro report last
        rw [lastReport_concat, if_neg quiet] at last
        cases last
        exact ⟨days, day, [], rfl, quiet, nofun, reports_reportOn _ _⟩
      · rw [lastReport_concat, if_neg quiet]
        exact nofun

end

end Onpremai.Observer.DriftDetector
