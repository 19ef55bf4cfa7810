import Onpremai.Gateway.Application
import Onpremai.Gateway.ConfigUpdates

/-!
# Canary experiments over time

One might expect that an operation on a task concerns the experiment of exactly that key,
that an experiment runs until its own task is promoted or rolled back, and that a promoted
model is the primary model from then on.  By design the manager finds an experiment by a
part of its key, a start replaces an experiment that runs, and a sync removes what the
configuration does not list.
-/

namespace Onpremai.Gateway

open Onpremai.Library

def AppMove.canaryTask : AppMove → Option String
  | .admin _ _ (.setCanary task _) => some task
  | .admin _ _ (.promoteCanary task) => some task
  | .admin _ _ (.rollbackCanary task) => some task
  | _ => none

def AppMove.Concludes (move : AppMove) (task : String) : Prop :=
  ∃ now file, move = .admin now file (.promoteCanary task) ∨
    move = .admin now file (.rollbackCanary task)

/-- The experiment goes on: it has the samples that it had, and perhaps more. -/
structure CanaryExperiment.Continues (before after : CanaryExperiment) : Prop where
  started : after.startedAt = before.startedAt
  control : before.controlSamples <+: after.controlSamples
  canary : before.canarySamples <+: after.canarySamples

/-- The model that a request without an experiment is sent to first. -/
def RoutingConfig.primaryModel (config : RoutingConfig) (agent task tenantId : String) :
    Option String :=
  let resolution := config.resolve agent task tenantId
  ((orderedModels (config.getModelsForTier resolution.tier)
    (resolution.modelConfig.map ModelConfig.id)).head?).map ModelConfig.id

section

variable (process : Process) (app : GatewayApp) (moves : List AppMove)

def ChangesOnlyTask : Prop := ∀ earlier move later, moves = earlier ++ move :: later →
    ∀ task, move.canaryTask = some task → ∀ key, key ≠ task →
      ((run (GatewayApp.step process) app earlier).step process move).canary.get? key =
        (run (GatewayApp.step process) app earlier).canary.get? key

/-- An experiment goes on until its task is promoted or rolled back. -/
def StaysActive : Prop := ∀ earlier middle later, moves = earlier ++ middle ++ later →
    ∀ task experiment,
      (run (GatewayApp.step process) app earlier).canary.get? task = some experiment →
      (∀ move ∈ middle, ¬ move.Concludes task) →
        ∃ after, (run (GatewayApp.step process) app (earlier ++ middle)).canary.get? task =
          some after ∧ experiment.Continues after

def PromotesToPrimary : Prop := ∀ earlier now file task later,
    moves = earlier ++ .admin now file (.promoteCanary task) :: later → ∀ experiment,
        (run (GatewayApp.step process) app earlier).canary.get? task = some experiment →
        ∀ agent tenantId, ((run (GatewayApp.step process) app earlier).step process
              (.admin now file (.promoteCanary task))).config.primaryModel agent task tenantId =
            some experiment.config.model

end

section

variable (process : Process)

def GatewayApp.syncedWith (app : GatewayApp) : AppMove → Option RoutingConfig
  | .admin now file (.updateRouting body) =>
    let outcome := updateRoutingRoute process now file app.loader body
    if outcome.2.acknowledged then some outcome.1.config else none
  | .admin now file .reload => some (reload process now app.loader file).1.config
  | .fileChanged now file => (onFileChanged process now app.loader file).2
  | _ => none

def GatewayApp.Ends (app : GatewayApp) (move : AppMove) (key : String) : Prop :=
  (∃ now file body, move = .admin now file (.setCanary key body)) ∨
    (∃ task experiment, move.Concludes task ∧ app.canary.findExperiment task = some experiment ∧
      experiment.taskKey = key) ∨
    ∃ config, app.syncedWith process move = some config ∧ config.canary.get? key = none

/-- What the operations on experiments do in a state. -/
structure CanaryFrame (app : GatewayApp) (move : AppMove) : Prop where
  set : ∀ now file task body, move = .admin now file (.setCanary task body) →
    (app.step process move).canary.get? task =
        some { taskKey := task
               config := { model := body.model, trafficPct := body.trafficPct
                           minSamples := body.minSamples }
               startedAt := now } ∧
      ∀ key, key ≠ task → (app.step process move).canary.get? key = app.canary.get? key
  remove : ∀ task, move.Concludes task → ∀ experiment,
    app.canary.findExperiment task = some experiment →
      (app.step process move).canary.get? experiment.taskKey = none ∧
        ∀ key, key ≠ experiment.taskKey →
          (app.step process move).canary.get? key = app.canary.get? key
  finds : ∀ task, move.Concludes task → ∀ experiment,
    app.canary.findExperiment task = some experiment → experiment.taskKey = task ∨
        app.canary.get? task = none ∧ Text.contains task experiment.taskKey = true
  missing : ∀ task, move.Concludes task → app.canary.findExperiment task = none →
    app.step process move = app
  goesOn : ∀ key experiment, app.canary.get? key = some experiment → ¬ app.Ends process move key →
      ∃ after, (app.step process move).canary.get? key = some after ∧ experiment.Continues after

/-- Over a run, every operation does what it should do, and an experiment goes on through
every stretch of moves that does not end it. -/
structure CanaryLaws (app : GatewayApp) (moves : List AppMove) : Prop where
  frame : ∀ earlier move later, moves = earlier ++ move :: later →
    CanaryFrame process (run (GatewayApp.step process) app earlier) move
  active : ∀ earlier middle later, moves = earlier ++ middle ++ later → ∀ key experiment,
      (run (GatewayApp.step process) app earlier).canary.get? key = some experiment →
      Allowed (GatewayApp.step process) (fun app move => ¬ app.Ends process move key)
          (run (GatewayApp.step process) app earlier) middle →
        ∃ after, (run (GatewayApp.step process) app (earlier ++ middle)).canary.get? key =
          some after ∧ experiment.Continues after

end

/-! ## Steps -/

section

variable {process : Process}

theorem CanaryExperiment.Continues.refl (experiment : CanaryExperiment) :
    experiment.Continues experiment :=
  ⟨rfl, List.prefix_rfl, List.prefix_rfl⟩

theorem CanaryExperiment.Continues.trans {first second third : CanaryExperiment}
    (before : first.Continues second) (after : second.Continues third) :
    first.Continues third where
  started := after.started.trans before.started
  control := before.control.trans after.control
  canary := before.canary.trans after.canary

theorem CanaryExperiment.continues_record (experiment : CanaryExperiment) (sample : Sample)
    (variant : Variant) : experiment.Continues (experiment.record sample variant) := by
  cases variant with
  | canary => exact ⟨rfl, List.prefix_rfl, List.prefix_append _ _⟩
  | control => exact ⟨rfl, List.prefix_append _ _, List.prefix_rfl⟩

theorem CanaryManager.continues_updateFromConfig {manager : CanaryManager} {now : Rat}
    {config : RoutingConfig} {key : String} {experiment : CanaryExperiment}
    (found : manager.get? key = some experiment) (listed : config.canary.get? key ≠ none) :
    ∃ after, (manager.updateFromConfig now config).get? key = some after ∧
      experiment.Continues after := by
  rw [get?_updateFromConfig, found]
  cases configured : config.canary.get? key with
  | none => exact absurd configured listed
  | some canary =>
    exact ⟨experiment.updateConfig canary, rfl, rfl, List.prefix_rfl, List.prefix_rfl⟩

variable {app : GatewayApp} {move : AppMove}

theorem step_of_concludes {task : String} (concludes : move.Concludes task) :
    ∃ status, app.step process move =
      (app.canaryReply status task (app.canary.removeFound task)).1 := by
  rcases concludes with ⟨now, file, promotes | rollsBack⟩
  · rw [promotes]
    exact ⟨"promoted", rfl⟩
  · rw [rollsBack]
    exact ⟨"rolled_back", rfl⟩

theorem step_concludes_found {task : String} (concludes : move.Concludes task)
    {experiment : CanaryExperiment} (found : app.canary.findExperiment task = some experiment)
    (key : String) :
    (app.step process move).canary.get? key =
      if key = experiment.taskKey then none else app.canary.get? key := by
  rcases @step_of_concludes process app move task concludes with ⟨status, stepped⟩
  rw [stepped]
  cases removed : app.canary.removeFound task with
  | none =>
    rw [CanaryManager.removeFound, found] at removed
    cases removed
  | some after =>
    rcases CanaryManager.get?_removeFound removed with ⟨other, same, frame⟩
    rw [found] at same
    cases same
    exact frame key

theorem step_concludes_missing {task : String} (concludes : move.Concludes task)
    (missing : app.canary.findExperiment task = none) : app.step process move = app := by
  rcases @step_of_concludes process app move task concludes with ⟨status, stepped⟩
  rw [stepped, CanaryManager.removeFound, missing]
  rfl

theorem reload_told {now : Rat} {loader : ConfigLoader} {file : ConfigFile}
    {config : RoutingConfig} (told : (reload process now loader file).2 = some config) :
    (reload process now loader file).1.config = config := by
  rw [reload] at told ⊢
  cases file with
  | missing => cases told
  | unreadable error => cases told
  | holds document =>
    cases loaded : load process now loader (.holds document) with
    | error error =>
      rw [loaded] at told
      cases told
    | ok outcome =>
      rcases bind_eq_ok.mp loaded with ⟨parsed, -, made⟩
      rw [loaded] at told
      cases made
      cases told
      rfl

theorem continues_afterLoad {now : Rat} {loaded : ConfigLoader × Option RoutingConfig}
    {key : String} {experiment : CanaryExperiment}
    (found : app.canary.get? key = some experiment)
    (listed : ∀ config, loaded.2 = some config → config.canary.get? key ≠ none) :
    ∃ after, (app.afterLoad now loaded).canary.get? key = some after ∧
      experiment.Continues after := by
  rw [GatewayApp.afterLoad]
  cases told : loaded.2 with
  | none => exact ⟨experiment, found, .refl experiment⟩
  | some config => exact CanaryManager.continues_updateFromConfig found (listed config told)

theorem continues_step {key : String} {experiment : CanaryExperiment}
    (found : app.canary.get? key = some experiment) (unended : ¬ app.Ends process move key) :
    ∃ after, (app.step process move).canary.get? key = some after ∧
      experiment.Continues after := by
  have listed (config : RoutingConfig) (synced : app.syncedWith process move = some config) :
      config.canary.get? key ≠ none := by
    intro unlisted
    exact unended (.inr (.inr ⟨config, synced, unlisted⟩))
  have stays {task : String} (concludes : move.Concludes task) :
      ∃ after, (app.step process move).canary.get? key = some after ∧
        experiment.Continues after := by
    refine ⟨experiment, ?_, .refl experiment⟩
    cases finds : app.canary.findExperiment task with
    | none =>
      rw [step_concludes_missing concludes finds]
      exact found
    | some other =>
      rw [step_concludes_found concludes finds, if_neg]
      · exact found
      · intro same
        exact unended (.inr (.inl ⟨task, other, concludes, finds, same.symm⟩))
  cases move with
  | fileChanged now file => exact continues_afterLoad found listed
  | healthChecked modelId healthy elapsedMs =>
    refine ⟨experiment, ?_, .refl experiment⟩
    rw [GatewayApp.step, GatewayApp.checked]
    cases app.adapters.get? modelId with
    | none => exact found
    | some adapter => exact found
  | enableModel modelId =>
    refine ⟨experiment, ?_, .refl experiment⟩
    rw [GatewayApp.step, GatewayApp.enabled]
    cases app.health.enableModel app.config modelId with
    | none => exact found
    | some changed => exact found
  | recordResult agent task variant sample =>
    change ∃ after, (app.canary.recordResult agent task variant sample).get? key = some after ∧ _
    rw [CanaryManager.get?_recordResult]
    cases concerned : app.canary.experimentOf agent task with
    | none => exact ⟨experiment, found, .refl experiment⟩
    | some other =>
      dsimp only [Option.elim]
      split
      · next same =>
        have stored := CanaryManager.get?_of_experimentOf concerned
        rw [same, found] at stored
        cases stored
        exact ⟨_, rfl, experiment.continues_record sample variant⟩
      · exact ⟨experiment, found, .refl experiment⟩
  | admin now file request =>
    cases request with
    | updateThreshold task confidenceThreshold => exact ⟨experiment, found, .refl experiment⟩
    | promoteCanary task => exact stays ⟨now, file, .inl rfl⟩
    | rollbackCanary task => exact stays ⟨now, file, .inr rfl⟩
    | setCanary task body =>
      refine ⟨experiment, ?_, .refl experiment⟩
      change (app.canary.setCanary now task body.model body.trafficPct
        body.minSamples).get? key = some experiment
      rw [CanaryManager.setCanary, CanaryManager.get?_put, if_neg]
      · exact found
      · intro same
        have restarts : task = key := same
        rw [restarts] at unended
        exact unended (.inl ⟨now, file, body, rfl⟩)
    | disableModel modelId =>
      refine ⟨experiment, ?_, .refl experiment⟩
      rw [GatewayApp.step, GatewayApp.handle]
      cases app.health.disableModel app.config modelId with
      | none => exact found
      | some changed => exact found
    | updateRouting body =>
      rw [GatewayApp.syncedWith] at listed
      rw [GatewayApp.step, GatewayApp.handle]
      split
      · next acknowledged =>
        rw [if_pos acknowledged] at listed
        exact continues_afterLoad found listed
      · exact ⟨experiment, found, .refl experiment⟩
    | reload =>
      have present := listed _ rfl
      rcases @continues_afterLoad app now (reload process now app.loader file) key experiment
        found (by
          intro config told
          rw [← reload_told told]
          exact present) with ⟨loaded, stored, goesOn⟩
      have config : (app.afterLoad now (reload process now app.loader file)).config =
          (reload process now app.loader file).1.config := by
        rw [GatewayApp.afterLoad]
        cases (reload process now app.loader file).2 with
        | none => rfl
        | some config => rfl
      rw [← config] at present
      rcases @CanaryManager.continues_updateFromConfig _ now _ key loaded stored present with
        ⟨after, synced, later⟩
      exact ⟨after, synced, goesOn.trans later⟩

theorem canaryFrame (process : Process) (app : GatewayApp) (move : AppMove) :
    CanaryFrame process app move where
  set := by
    intro now file task body starts
    rw [starts]
    change (app.canary.setCanary now task body.model body.trafficPct body.minSamples).get? task =
        _ ∧ ∀ key, key ≠ task →
          (app.canary.setCanary now task body.model body.trafficPct body.minSamples).get? key = _
    rw [CanaryManager.setCanary]
    constructor
    · rw [CanaryManager.get?_put, if_pos rfl]
    · intro key other
      rw [CanaryManager.get?_put, if_neg (Ne.symm other)]
  remove := by
    intro task concludes experiment found
    constructor
    · rw [step_concludes_found concludes found, if_pos rfl]
    · intro key other
      rw [step_concludes_found concludes found, if_neg other]
  finds := by
    intro task _ experiment found
    exact (CanaryManager.findExperiment_spec found).2
  missing := by
    intro task concludes
    exact step_concludes_missing concludes
  goesOn := by
    intro key experiment
    exact continues_step

theorem continues_run {moves : List AppMove} {key : String} {experiment : CanaryExperiment}
    (found : app.canary.get? key = some experiment)
    (unended : Allowed (GatewayApp.step process) (fun app move => ¬ app.Ends process move key)
      app moves) :
    ∃ after, (run (GatewayApp.step process) app moves).canary.get? key = some after ∧
      experiment.Continues after := by
  induction moves generalizing app experiment with
  | nil => exact ⟨experiment, found, .refl experiment⟩
  | cons move rest ih =>
    rcases continues_step found unended.1 with ⟨middle, stored, goesOn⟩
    rcases ih stored unended.2 with ⟨after, last, later⟩
    exact ⟨after, last, goesOn.trans later⟩

end

/-- In every run the operations on experiments do what they are meant to do. -/
theorem canaryLaws (process : Process) (app : GatewayApp) (moves : List AppMove) :
    CanaryLaws process app moves where
  frame := by
    intro earlier move later _
    exact canaryFrame process _ move
  active := by
    intro earlier middle later _ key experiment found unended
    rw [run_append]
    exact continues_run found unended

def startCanary (task : String) : AppMove :=
  .admin 0 .missing (.setCanary task { model := "new-model" })

def twoModelApp : GatewayApp where
  loader :=
    { config := { tiers := .ofList [("mid", [{ id := "old-model" }, { id := "new-model" }])] } }
  canary := { experiments := .empty, keyed := keyed_empty }

/-- A promotion of one task removes the experiment of another one, a reload removes an
experiment, and a promoted model is still the second of its tier. -/
theorem operations_reach_further : ¬ ChangesOnlyTask bareProcess twoModelApp
      [startCanary "reclassify", .admin 1 .missing (.promoteCanary "classify")] ∧
    ¬ StaysActive bareProcess twoModelApp
      [startCanary "classify", .admin 1 .missing .reload] ∧
    ¬ PromotesToPrimary bareProcess twoModelApp
      [startCanary "classify", .admin 1 .missing (.promoteCanary "classify")] := by
  constructor
  · intro only
    have same := only [startCanary "reclassify"] _ [] rfl "classify" rfl "reclassify" (by decide)
    have removed := congrArg Option.isSome same
    exact absurd removed (by decide)
  constructor
  · intro stays
    rcases stays [startCanary "classify"] [.admin 1 .missing .reload] [] rfl "classify" _ rfl
      (by
        intro move member
        rw [List.mem_singleton.mp member]
        rintro ⟨now, file, same | same⟩
        · cases same
        · cases same) with ⟨after, found, -⟩
    have active := congrArg Option.isSome found
    rw [Option.isSome_some] at active
    exact absurd active (by decide)
  · intro promotes
    have primary := promotes [startCanary "classify"] 1 .missing "classify" [] rfl _ rfl
      "agent-eval" "acme"
    exact absurd primary (by decide)

end Onpremai.Gateway
