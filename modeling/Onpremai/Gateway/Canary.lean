import Onpremai.Gateway.Models

/-!
# Canary manager

A share of a task's requests goes to a canary model.  Experiments are kept under the key
they were started with: a task, or an agent and a task.
-/

namespace Onpremai.Gateway

open Onpremai.Library

/-- A single recorded sample from a request. -/
structure Sample where
  confidence : Rat
  latencyMs : Int
  error : Bool
  escalated : Bool
  costUsd : Rat
  deriving DecidableEq, Repr

/-- What a request was routed to. -/
inductive Variant where
  | control
  | canary
  deriving DecidableEq, Repr

/-- Tracking state for one canary experiment. -/
structure CanaryExperiment where
  taskKey : String
  config : CanaryConfig
  startedAt : Rat
  controlSamples : List Sample := []
  canarySamples : List Sample := []
  deriving DecidableEq, Repr

namespace CanaryExperiment

variable (experiment : CanaryExperiment)

def updateConfig (config : CanaryConfig) : CanaryExperiment :=
  { experiment with config }

def record (sample : Sample) : Variant → CanaryExperiment
  | .canary => { experiment with canarySamples := experiment.canarySamples ++ [sample] }
  | .control => { experiment with controlSamples := experiment.controlSamples ++ [sample] }

@[simp] theorem taskKey_record (sample : Sample) (variant : Variant) :
    (experiment.record sample variant).taskKey = experiment.taskKey := by
  cases variant with
  | canary => rfl
  | control => rfl

end CanaryExperiment

/-- The experiments, each under its own key. -/
structure CanaryManager where
  experiments : Dict String CanaryExperiment := .empty
  keyed : ∀ key experiment, experiments.get? key = some experiment →
    experiment.taskKey = key := by
      intro key experiment found
      cases found

theorem keyed_empty (key : String) (experiment : CanaryExperiment)
    (found : (Dict.empty : Dict String CanaryExperiment).get? key = some experiment) :
    experiment.taskKey = key := by
  cases found

namespace CanaryManager

variable (manager : CanaryManager)

def get? (key : String) : Option CanaryExperiment := manager.experiments.get? key

def put (experiment : CanaryExperiment) : CanaryManager where
  experiments := manager.experiments.set experiment.taskKey experiment
  keyed := by
    intro key other found
    rw [Dict.get?_set] at found
    split at found
    · next same =>
      cases found
      exact same
    · exact manager.keyed key other found

def restrict (keep : String → Bool) : CanaryManager where
  experiments := manager.experiments.restrict keep
  keyed := by
    intro key experiment found
    rw [Dict.get?_restrict] at found
    split at found
    · exact manager.keyed key experiment found
    · cases found

@[simp] theorem get?_put (experiment : CanaryExperiment) (key : String) :
    (manager.put experiment).get? key =
      if experiment.taskKey = key then some experiment else manager.get? key :=
  Dict.get?_set _ _ _ _

@[simp] theorem get?_restrict (keep : String → Bool) (key : String) :
    (manager.restrict keep).get? key = if keep key = true then manager.get? key else none :=
  Dict.get?_restrict _ _ _

def synced (now : Rat) (key : String) (config : CanaryConfig) :
    Option CanaryExperiment → CanaryExperiment
  | none => { taskKey := key, config, startedAt := now }
  | some experiment => experiment.updateConfig config

/-- Add or update the experiment of an entry. -/
def syncEntry (now : Rat) (entry : String × CanaryConfig) : CanaryManager :=
  manager.put (synced now entry.1 entry.2 (manager.get? entry.1))

def updateFromConfig (now : Rat) (config : RoutingConfig) : CanaryManager :=
  config.canary.entries.foldl (fun manager entry => manager.syncEntry now entry)
    (manager.restrict fun key => decide (key ∈ config.canary.keys))

def experimentOf (agent task : String) : Option CanaryExperiment :=
  manager.get? (agent ++ "/" ++ task) <|> manager.get? task

/-- Whether a request goes to the canary model, by a roll from 1 to 100. -/
def shouldUseCanary (agent task : String) (roll : Nat) : Bool × Variant :=
  match manager.experimentOf agent task with
  | none => (false, .control)
  | some experiment =>
    if roll ≤ experiment.config.trafficPct then (true, .canary) else (false, .control)

def getCanaryModelId (agent task : String) : Option String :=
  (manager.experimentOf agent task).map fun experiment => experiment.config.model

def recordResult (agent task : String) (variant : Variant) (sample : Sample) : CanaryManager :=
  match manager.experimentOf agent task with
  | none => manager
  | some experiment => manager.put (experiment.record sample variant)

def findExperiment (task : String) : Option CanaryExperiment :=
  match manager.get? task with
  | some experiment => some experiment
  | none =>
    (manager.experiments.entries.find? fun entry => Text.contains task entry.1).map Prod.snd

def setCanary (now : Rat) (taskKey model : String) (trafficPct minSamples : Nat) : CanaryManager :=
  manager.put { taskKey, config := { model, trafficPct, minSamples }, startedAt := now }

def removeFound (task : String) : Option CanaryManager :=
  (manager.findExperiment task).map fun experiment =>
    manager.restrict fun key => decide (key ≠ experiment.taskKey)

def promoteCanary (task : String) : Option CanaryManager := manager.removeFound task

def rollbackCanary (task : String) : Option CanaryManager := manager.removeFound task

variable {manager}

theorem taskKey_synced {key : String} {found : Option CanaryExperiment}
    (keyed : ∀ experiment, found = some experiment → experiment.taskKey = key) (now : Rat)
    (config : CanaryConfig) : (synced now key config found).taskKey = key := by
  cases found with
  | none => rfl
  | some experiment => exact keyed experiment rfl

theorem taskKey_of_get? {key : String} {experiment : CanaryExperiment}
    (found : manager.get? key = some experiment) : experiment.taskKey = key :=
  manager.keyed key experiment found

theorem get?_syncEntry (now : Rat) (entry : String × CanaryConfig) (key : String) :
    (manager.syncEntry now entry).get? key =
      if entry.1 = key then some (synced now key entry.2 (manager.get? key))
      else manager.get? key := by
  rw [syncEntry, get?_put, taskKey_synced fun _ => taskKey_of_get?]
  split
  · next same => rw [same]
  · rfl

theorem get?_foldl_syncEntry (now : Rat) {entries : List (String × CanaryConfig)}
    (nodup : (entries.map Prod.fst).Nodup) (manager : CanaryManager) (key : String) :
    (entries.foldl (fun manager entry => manager.syncEntry now entry) manager).get? key =
      (Dict.findEntry key entries).elim (manager.get? key) fun config =>
        some (synced now key config (manager.get? key)) := by
  induction entries generalizing manager with
  | nil => rfl
  | cons entry rest ih =>
    rw [List.map_cons, List.nodup_cons] at nodup
    rw [List.foldl_cons, ih nodup.2, get?_syncEntry, Dict.findEntry]
    split
    · next same =>
      rw [← same, Dict.findEntry_of_notMem nodup.1]
      rfl
    · rfl

theorem get?_updateFromConfig (manager : CanaryManager) (now : Rat) (config : RoutingConfig)
    (key : String) :
    (manager.updateFromConfig now config).get? key =
      (config.canary.get? key).map fun configured =>
        synced now key configured (manager.get? key) := by
  have member := config.canary.mem_keys_iff key
  rw [updateFromConfig, get?_foldl_syncEntry now config.canary.nodupKeys, get?_restrict]
  change (config.canary.get? key).elim _ _ = _
  cases configured : config.canary.get? key with
  | none =>
    rw [configured] at member
    have absent : decide (key ∈ config.canary.keys) = false := by
      rw [decide_eq_false_iff_not, member]
      exact Bool.noConfusion
    rw [absent]
    rfl
  | some found =>
    rw [configured] at member
    have present : decide (key ∈ config.canary.keys) = true := by
      rw [decide_eq_true_iff, member]
      rfl
    rw [present]
    rfl

theorem findExperiment_spec {task : String} {experiment : CanaryExperiment}
    (found : manager.findExperiment task = some experiment) :
    manager.get? experiment.taskKey = some experiment ∧ (experiment.taskKey = task ∨
        manager.get? task = none ∧ Text.contains task experiment.taskKey = true) := by
  rw [findExperiment] at found
  split at found
  · next exact exactly =>
    cases found
    rw [manager.keyed task _ exactly]
    exact ⟨exactly, .inl rfl⟩
  · next missing =>
    rcases Option.map_eq_some_iff.mp found with ⟨entry, first, made⟩
    have stored : manager.get? entry.1 = some entry.2 :=
      (manager.experiments.mem_entries_iff entry.1 entry.2).mp (List.mem_of_find?_eq_some first)
    have keyed := manager.keyed entry.1 entry.2 stored
    have contained := List.find?_some first
    rw [← made, keyed]
    exact ⟨stored, .inr ⟨missing, contained⟩⟩

theorem get?_removeFound {task : String} {after : CanaryManager}
    (removed : manager.removeFound task = some after) :
    ∃ experiment, manager.findExperiment task = some experiment ∧
      ∀ key, after.get? key = if key = experiment.taskKey then none else manager.get? key := by
  rcases Option.map_eq_some_iff.mp removed with ⟨experiment, found, made⟩
  refine ⟨experiment, found, ?_⟩
  intro key
  rw [← made, get?_restrict]
  simp only [decide_eq_true_eq, ite_not]

theorem get?_recordResult (agent task : String) (variant : Variant) (sample : Sample)
    (key : String) :
    (manager.recordResult agent task variant sample).get? key =
      (manager.experimentOf agent task).elim (manager.get? key) fun experiment =>
        if experiment.taskKey = key then some (experiment.record sample variant)
        else manager.get? key := by
  rw [recordResult]
  cases manager.experimentOf agent task with
  | none => rfl
  | some experiment =>
    dsimp only [Option.elim]
    rw [get?_put, CanaryExperiment.taskKey_record]

theorem get?_of_experimentOf {agent task : String} {experiment : CanaryExperiment}
    (found : manager.experimentOf agent task = some experiment) :
    manager.get? experiment.taskKey = some experiment := by
  rw [experimentOf] at found
  cases both : manager.get? (agent ++ "/" ++ task) with
  | some other =>
    rw [both] at found
    cases found
    rw [manager.keyed _ _ both]
    exact both
  | none =>
    rw [both] at found
    have alone : manager.get? task = some experiment := found
    rw [manager.keyed _ _ alone]
    exact alone

end CanaryManager

end Onpremai.Gateway
