import Onpremai.Gateway.Application
import Onpremai.Gateway.ConfigUpdates

/-!
# What a load brings

A configuration that is read from the file lists every model as healthy and enabled.  The
application routes by it from then on; the health manager keeps the states of the models
that it still lists, and the adapters stay.
-/

namespace Onpremai.Gateway

open Onpremai.Library Onpremai.Library.Python

def RoutingConfig.Fresh (config : RoutingConfig) : Prop :=
  ∀ ref model, config.modelAt ref = some model → model.healthy = true ∧ model.enabled = true

def GatewayApp.brings (process : Process) (app : GatewayApp) : AppMove → Option RoutingConfig
  | .admin now file (.updateRouting body) =>
    let outcome := updateRoutingRoute process now file app.loader body
    if outcome.2.acknowledged then some outcome.1.config else none
  | .admin now file .reload => (reload process now app.loader file).2
  | .fileChanged now file => (onFileChanged process now app.loader file).2
  | _ => none

section

variable {process : Process}

theorem parseModelConfig_flags {raw : Json} {model : ModelConfig}
    (parsed : parseModelConfig raw = .ok model) : model.healthy = true ∧ model.enabled = true := by
  simp only [parseModelConfig, bind_eq_ok] at parsed
  rcases parsed with ⟨_, _, _, _, _, _, _, _, _, _, _, _, _, _, made⟩
  cases made
  exact ⟨rfl, rfl⟩

theorem parseTierConfig_flags {raw : Json} {models : List ModelConfig}
    (parsed : parseTierConfig raw = .ok models) {model : ModelConfig} (member : model ∈ models) :
    model.healthy = true ∧ model.enabled = true := by
  rcases bind_eq_ok.mp parsed with ⟨rawModels, _, ran⟩
  rcases exists_of_mem_mapM ran member with ⟨item, _, made⟩
  exact parseModelConfig_flags made

theorem parseTiers_flags {raw : Json} {tiers : Dict String (List ModelConfig)}
    (parsed : parseTiers raw = .ok tiers) {tier : String} {models : List ModelConfig}
    (found : tiers.get? tier = some models) {model : ModelConfig} (member : model ∈ models) :
    model.healthy = true ∧ model.enabled = true := by
  rcases bind_eq_ok.mp parsed with ⟨entries, _, rest⟩
  rcases bind_eq_ok.mp rest with ⟨made, ran, returned⟩
  cases returned
  rw [Dict.get?_ofFields] at found
  rcases exists_of_mem_mapM ran (Dict.mem_of_findEntry_eq_some found) with ⟨entry, _, entryRan⟩
  rcases bind_eq_ok.mp entryRan with ⟨read, tierRan, same⟩
  cases same
  exact parseTierConfig_flags tierRan member

theorem fresh_of_parse {raw : Json} {config : RoutingConfig}
    (parsed : parseRoutingConfig process raw = .ok config) : config.Fresh := by
  simp only [parseRoutingConfig, bind_eq_ok] at parsed
  rcases parsed with ⟨tiers, ⟨_, _, tiersRead⟩, _, _, _, _, _, _, _, _, _, _, _, _, _, _, _, _,
    made⟩
  cases made
  intro ref model listed
  rcases Option.bind_eq_some_iff.mp listed with ⟨models, stored, at_⟩
  exact parseTiers_flags tiersRead stored (List.mem_of_getElem? at_)

theorem load_cases {now : Rat} {loader : ConfigLoader} {file : ConfigFile}
    {loaded : ConfigLoader × Option RoutingConfig}
    (ran : load process now loader file = .ok loaded) :
    loaded = (loader, none) ∨
      loaded.1.config.Fresh ∧ loaded.2 = some loaded.1.config := by
  cases file with
  | missing =>
    cases ran
    exact .inl rfl
  | unreadable error => cases ran
  | holds document =>
    rcases bind_eq_ok.mp ran with ⟨config, parsed, returned⟩
    cases returned
    exact .inr ⟨fresh_of_parse parsed, rfl⟩

section

variable (now : Rat) (loader : ConfigLoader) (file : ConfigFile)

theorem reload_cases : reload process now loader file = (loader, none) ∨
      (reload process now loader file).1.config.Fresh ∧
        (reload process now loader file).2 = some (reload process now loader file).1.config := by
  rw [reload]
  cases ran : load process now loader file with
  | error error => exact .inl rfl
  | ok loaded => exact load_cases ran

theorem onFileChanged_cases : onFileChanged process now loader file = (loader, none) ∨
      (onFileChanged process now loader file).1.config.Fresh ∧
        (onFileChanged process now loader file).2 =
          some (onFileChanged process now loader file).1.config := by
  rw [onFileChanged]
  split
  · exact .inl rfl
  · exact reload_cases now loader file

end

theorem fresh_of_updateRouting {now : Rat} {file : ConfigFile}
    {updates : List (String × Json)} {updated : ConfigLoader}
    (ran : updateRouting process now file updates = .ok updated) : updated.config.Fresh := by
  simp only [updateRouting, bind_eq_ok] at ran
  rcases ran with ⟨rawData, _, merged, _, config, parsed, returned⟩
  cases returned
  exact fresh_of_parse parsed

theorem fresh_of_updateRoutingRoute {now : Rat} {file : ConfigFile} {loader : ConfigLoader}
    {body : RoutingUpdateRequest}
    (acknowledged : (updateRoutingRoute process now file loader body).2.acknowledged = true) :
    (updateRoutingRoute process now file loader body).1.config.Fresh := by
  rw [updateRoutingRoute] at acknowledged ⊢
  split
  · next empty =>
    rw [if_pos empty] at acknowledged
    cases acknowledged
  · next given =>
    rw [if_neg given] at acknowledged
    cases ran : updateRouting process now file body.updates with
    | ok updated => exact fresh_of_updateRouting ran
    | error error =>
      rw [ran] at acknowledged
      cases acknowledged

end

/-! ## Taking a configuration over -/

/-- An application goes over to a configuration: the states of the models that it lists are
kept, and they refer to it. -/
structure GatewayApp.TakesOver (before after : GatewayApp) (config : RoutingConfig) : Prop where
  routes : after.config = config
  states : ∀ modelId, after.health.get? modelId =
    (config.lastPosition modelId).map fun position =>
      HealthManager.tracked position.1 (before.health.get? modelId)
  unhealthyThreshold : after.health.unhealthyThreshold = before.health.unhealthyThreshold
  healthyThreshold : after.health.healthyThreshold = before.health.healthyThreshold

section

variable {process : Process} {app : GatewayApp} {move : AppMove}

theorem HealthManager.thresholds_foldl_track (positions : List (ModelRef × ModelConfig))
    (manager : HealthManager) :
    (positions.foldl track manager).unhealthyThreshold = manager.unhealthyThreshold ∧
      (positions.foldl track manager).healthyThreshold = manager.healthyThreshold := by
  induction positions generalizing manager with
  | nil => exact ⟨rfl, rfl⟩
  | cons position rest ih => exact ih (manager.track position)

theorem takesOver_onConfigReload (now : Rat) {config : RoutingConfig}
    (kept : app.config = config) : app.TakesOver (app.onConfigReload now config) config where
  routes := kept
  states := HealthManager.get?_updateFromConfig app.health config
  unhealthyThreshold := (HealthManager.thresholds_foldl_track config.positions app.health).1
  healthyThreshold := (HealthManager.thresholds_foldl_track config.positions app.health).2

theorem GatewayApp.TakesOver.again {before middle after : GatewayApp} {config : RoutingConfig}
    (first : before.TakesOver middle config) (second : middle.TakesOver after config) :
    before.TakesOver after config where
  routes := second.routes
  states := by
    intro modelId
    rw [second.states, first.states]
    cases config.lastPosition modelId with
    | none => rfl
    | some position =>
      cases before.health.get? modelId with
      | none => rfl
      | some state => rfl
  unhealthyThreshold := second.unhealthyThreshold.trans first.unhealthyThreshold
  healthyThreshold := second.healthyThreshold.trans first.healthyThreshold

theorem takesOver_afterLoad (now : Rat) {loaded : ConfigLoader × Option RoutingConfig}
    (told : loaded.2 = some loaded.1.config) :
    app.TakesOver (app.afterLoad now loaded) loaded.1.config := by
  rw [GatewayApp.afterLoad, told]
  have taken : ({ app with loader := loaded.1 } : GatewayApp).TakesOver _ loaded.1.config :=
    takesOver_onConfigReload now rfl
  exact ⟨taken.routes, taken.states, taken.unhealthyThreshold, taken.healthyThreshold⟩

theorem takesOver_reload (now : Rat) (file : ConfigFile) :
    app.TakesOver (app.step process (.admin now file .reload))
      (reload process now app.loader file).1.config := by
  change app.TakesOver ((app.afterLoad now (reload process now app.loader file)).onConfigReload
    now _) _
  rcases @reload_cases process now app.loader file with kept | read
  · rw [kept]
    exact takesOver_onConfigReload now rfl
  · have first := @takesOver_afterLoad app now _ read.2
    rw [first.routes]
    exact first.again (takesOver_onConfigReload now first.routes)

theorem takesOver_of_brings {config : RoutingConfig}
    (brought : app.brings process move = some config) :
    config.Fresh ∧ app.TakesOver (app.step process move) config := by
  cases move with
  | fileChanged now file =>
    rw [GatewayApp.brings] at brought
    rcases @onFileChanged_cases process now app.loader file with kept | read
    · rw [kept] at brought
      cases brought
    · rw [read.2] at brought
      cases brought
      exact ⟨read.1, takesOver_afterLoad now read.2⟩
  | healthChecked modelId healthy elapsedMs => cases brought
  | enableModel modelId => cases brought
  | recordResult agent task variant sample => cases brought
  | admin now file request =>
    cases request with
    | updateRouting body =>
      rw [GatewayApp.brings] at brought
      split at brought
      · next acknowledged =>
        cases brought
        rw [GatewayApp.step, GatewayApp.handle, if_pos acknowledged]
        constructor
        · exact fresh_of_updateRoutingRoute acknowledged
        · exact @takesOver_afterLoad app now (_, some _) rfl
      · cases brought
    | reload =>
      rw [GatewayApp.brings] at brought
      rcases @reload_cases process now app.loader file with kept | read
      · rw [kept] at brought
        cases brought
      · rw [read.2] at brought
        cases brought
        exact ⟨read.1, takesOver_reload now file⟩
    | updateThreshold task confidenceThreshold => cases brought
    | setCanary task body => cases brought
    | promoteCanary task => cases brought
    | rollbackCanary task => cases brought
    | disableModel modelId => cases brought

/-- A change of the experiments alone. -/
theorem canaryReply_frame (status task : String) (removed : Option CanaryManager) :
    (app.canaryReply status task removed).1.config = app.config ∧
      (app.canaryReply status task removed).1.health = app.health ∧
      (app.canaryReply status task removed).1.adapters = app.adapters := by
  cases removed with
  | none => exact ⟨rfl, rfl, rfl⟩
  | some canary => exact ⟨rfl, rfl, rfl⟩

theorem takesOver_or_frame
    (unchecked : ∀ modelId healthy elapsedMs, move ≠ .healthChecked modelId healthy elapsedMs)
    (undisabled : ∀ now file modelId, move ≠ .admin now file (.disableModel modelId)) :
    (∃ config, app.TakesOver (app.step process move) config) ∨
      (app.step process move).health = app.health := by
  cases move with
  | healthChecked modelId healthy elapsedMs =>
    exact absurd rfl (unchecked modelId healthy elapsedMs)
  | enableModel modelId =>
    rw [GatewayApp.step, GatewayApp.enabled, HealthManager.enableModel]
    cases app.health.get? modelId with
    | none => exact .inr rfl
    | some found => exact .inr rfl
  | recordResult agent task variant sample => exact .inr rfl
  | fileChanged now file =>
    rcases @onFileChanged_cases process now app.loader file with kept | read
    · rw [GatewayApp.step, kept]
      exact .inr rfl
    · exact .inl ⟨_, takesOver_afterLoad now read.2⟩
  | admin now file request =>
    cases request with
    | disableModel modelId => exact absurd rfl (undisabled now file modelId)
    | updateThreshold task confidenceThreshold => exact .inr rfl
    | setCanary task body => exact .inr rfl
    | promoteCanary task => exact .inr (canaryReply_frame _ _ _).2.1
    | rollbackCanary task => exact .inr (canaryReply_frame _ _ _).2.1
    | reload => exact .inl ⟨_, takesOver_reload now file⟩
    | updateRouting body =>
      rw [GatewayApp.step, GatewayApp.handle]
      split
      · exact .inl ⟨_, @takesOver_afterLoad app now (_, some _) rfl⟩
      · exact .inr rfl

@[simp] theorem adapters_step : (app.step process move).adapters = app.adapters := by
  have afterLoad (now : Rat) (loaded : ConfigLoader × Option RoutingConfig) :
      (app.afterLoad now loaded).adapters = app.adapters := by
    rw [GatewayApp.afterLoad]
    cases loaded.2 with
    | none => rfl
    | some config => rfl
  cases move with
  | fileChanged now file => exact afterLoad now _
  | healthChecked modelId healthy elapsedMs =>
    rw [GatewayApp.step, GatewayApp.checked]
    cases app.adapters.get? modelId with
    | none => rfl
    | some adapter => rfl
  | enableModel modelId =>
    rw [GatewayApp.step, GatewayApp.enabled]
    cases app.health.enableModel app.config modelId with
    | none => rfl
    | some changed => rfl
  | recordResult agent task variant sample => rfl
  | admin now file request =>
    cases request with
    | updateRouting body =>
      rw [GatewayApp.step, GatewayApp.handle]
      split
      · exact afterLoad now _
      · rfl
    | updateThreshold task confidenceThreshold => rfl
    | reload => exact afterLoad now (reload process now app.loader file)
    | setCanary task body => rfl
    | promoteCanary task => exact (canaryReply_frame _ _ _).2.2
    | rollbackCanary task => exact (canaryReply_frame _ _ _).2.2
    | disableModel modelId =>
      rw [GatewayApp.step, GatewayApp.handle]
      cases app.health.disableModel app.config modelId with
      | none => rfl
      | some changed => rfl

def RoutingConfig.Reflagged (before after : RoutingConfig) : Prop :=
  ∃ ref change, (∀ model : ModelConfig, ∃ healthy enabled,
    change model = { model with healthy, enabled }) ∧ after = before.modifyAt ref change

theorem config_step_kept (kept : app.brings process move = none) :
    (app.step process move).config = app.config ∨
      app.config.Reflagged (app.step process move).config := by
  cases move with
  | healthChecked modelId healthy elapsedMs =>
    rw [GatewayApp.step, GatewayApp.checked]
    cases app.adapters.get? modelId with
    | none => exact .inl rfl
    | some adapter =>
      dsimp only
      cases tracked : app.health.get? modelId with
      | none =>
        rw [HealthManager.checkSingleModel, tracked]
        exact .inl rfl
      | some found =>
        rcases app.health.checkSingleModel_cases app.config tracked healthy elapsedMs with
          ⟨newState, -, -, ⟨checks, -⟩ | ⟨checks, -⟩⟩
        · rw [checks]
          exact .inl rfl
        · rw [checks]
          exact .inr ⟨_, _, fun model => ⟨healthy, model.enabled, rfl⟩, rfl⟩
  | enableModel modelId =>
    rw [GatewayApp.step, GatewayApp.enabled, HealthManager.enableModel]
    cases app.health.get? modelId with
    | none => exact .inl rfl
    | some found => exact .inr ⟨_, _, fun model => ⟨model.healthy, true, rfl⟩, rfl⟩
  | recordResult agent task variant sample => exact .inl rfl
  | fileChanged now file =>
    rcases @onFileChanged_cases process now app.loader file with same | read
    · rw [GatewayApp.step, same]
      exact .inl rfl
    · rw [GatewayApp.brings, read.2] at kept
      cases kept
  | admin now file request =>
    cases request with
    | disableModel modelId =>
      rw [GatewayApp.step, GatewayApp.handle, HealthManager.disableModel]
      cases app.health.get? modelId with
      | none => exact .inl rfl
      | some found => exact .inr ⟨_, _, fun model => ⟨model.healthy, false, rfl⟩, rfl⟩
    | updateThreshold task confidenceThreshold => exact .inl rfl
    | setCanary task body => exact .inl rfl
    | promoteCanary task => exact .inl (canaryReply_frame _ _ _).1
    | rollbackCanary task => exact .inl (canaryReply_frame _ _ _).1
    | updateRouting body =>
      rw [GatewayApp.brings] at kept
      split at kept
      · cases kept
      · next refused =>
        rw [GatewayApp.step, GatewayApp.handle, if_neg refused]
        exact .inl rfl
    | reload =>
      rcases @reload_cases process now app.loader file with same | read
      · have taken := @takesOver_reload process app now file
        rw [same] at taken
        exact .inl taken.routes
      · rw [GatewayApp.brings, read.2] at kept
        cases kept

theorem takesOver_lifespan {settings : GatewaySettings} {now : Rat} {file : ConfigFile}
    (started : GatewayApp.lifespan process settings now file = .ok app) :
    app.config.Fresh ∧ GatewayApp.TakesOver {} app app.config := by
  rcases bind_eq_ok.mp started with ⟨loaded, ran, made⟩
  cases made
  constructor
  · have fresh : loaded.1.config.Fresh := by
      rcases load_cases ran with kept | read
      · rw [kept]
        intro ref model listed
        cases listed
      · exact read.1
    intro ref model listed
    change (withDefaultKeys settings loaded.1.config).modelAt ref = some model at listed
    rw [modelAt_withDefaultKeys] at listed
    rcases Option.map_eq_some_iff.mp listed with ⟨before, found, same⟩
    rw [← same, withDefaultKey_eq]
    exact fresh ref before found
  · constructor
    · rfl
    · exact HealthManager.get?_updateFromConfig {} _
    · exact (HealthManager.thresholds_foldl_track _ {}).1
    · exact (HealthManager.thresholds_foldl_track _ {}).2

end

def midTierFile (models : List Json) : ConfigFile :=
  .holds (.obj [("tiers", .obj [("mid", .obj [("models", .arr models)])])])

def oneModelFile : ConfigFile := midTierFile [.obj [("id", .str "local")]]

/-- The application that starts with one model. -/
def oneModelApp : GatewayApp := (GatewayApp.lifespan bareProcess {} 0 oneModelFile).toOption.get rfl

end Onpremai.Gateway
