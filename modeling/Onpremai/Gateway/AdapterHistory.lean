import Onpremai.Gateway.Reloads

/-!
# Adapters over time

The adapters are created when the application starts, and a load creates none.  Every model
that can be selected has the adapter of its own definition exactly as long as the loads bring
only models that the application started with.
-/

namespace Onpremai.Gateway

open Onpremai.Library

section

variable (settings : GatewaySettings)

def AdaptersCurrent (app : GatewayApp) : Prop :=
  ∀ ref model, app.config.modelAt ref = some model → model.enabled = true → model.healthy = true →
      app.adapters.get? model.id = some (createProviderAdapter settings model)

def KnownModels (first config : RoutingConfig) : Prop :=
  ∀ ref model, config.modelAt ref = some model → ∃ place original,
    first.modelAt place = some original ∧
      createProviderAdapter settings original = createProviderAdapter settings model

/-- Models with the same id have the same definition. -/
def IdsAgree (config : RoutingConfig) : Prop :=
  ∀ ref other first second, config.modelAt ref = some first → config.modelAt other = some second →
    first.id = second.id → createProviderAdapter settings first = createProviderAdapter settings second

variable {settings} {first config : RoutingConfig}

theorem get?_registerAll_iff (agree : IdsAgree settings first) (model : ModelConfig) :
    (registerAll settings first).get? model.id = some (createProviderAdapter settings model) ↔
      ∃ place original, first.modelAt place = some original ∧
        createProviderAdapter settings original = createProviderAdapter settings model := by
  rw [get?_registerAll]
  constructor
  · intro found
    rcases Option.map_eq_some_iff.mp found with ⟨position, last, made⟩
    exact ⟨position.1, position.2, (RoutingConfig.modelAt_of_lastPosition last).1, made⟩
  · rintro ⟨place, original, listed, made⟩
    have sameId : original.id = model.id := congrArg ProviderAdapter.modelId made
    rcases RoutingConfig.exists_lastPosition listed with ⟨position, last⟩
    rcases RoutingConfig.modelAt_of_lastPosition last with ⟨lastListed, lastId⟩
    rw [← sameId, last, Option.map_some, ← made,
      agree position.1 place position.2 original lastListed listed lastId]

theorem KnownModels.reflagged {after : RoutingConfig} (known : KnownModels settings first config)
    (flags : config.Reflagged after) : KnownModels settings first after := by
  rcases flags with ⟨ref, change, onlyFlags, made⟩
  intro place model listed
  rw [made, RoutingConfig.modelAt_modifyAt] at listed
  split at listed
  · rcases Option.map_eq_some_iff.mp listed with ⟨before, found, same⟩
    rcases onlyFlags before with ⟨healthy, enabled, changed⟩
    have sameAdapter : createProviderAdapter settings before =
        createProviderAdapter settings model := by
      rw [← same, changed]
      exact (createProviderAdapter_flags before healthy enabled).symm
    rw [← sameAdapter]
    exact known place before found
  · exact known place model listed

/-! ## Runs -/

variable {process : Process} {app : GatewayApp} {move : AppMove}

def Registered (settings : GatewaySettings) (first : RoutingConfig) (app : GatewayApp) : Prop :=
  app.adapters = registerAll settings first ∧ KnownModels settings first app.config

theorem Registered.adaptersCurrent (agree : IdsAgree settings first)
    (registered : Registered settings first app) : AdaptersCurrent settings app := by
  intro ref model listed _ _
  rw [registered.1, get?_registerAll_iff agree]
  exact registered.2 ref model listed

theorem AdaptersCurrent.knownModels (agree : IdsAgree settings first)
    (adapters : app.adapters = registerAll settings first) (fresh : app.config.Fresh)
    (current : AdaptersCurrent settings app) : KnownModels settings first app.config := by
  intro ref model listed
  rcases fresh ref model listed with ⟨healthy, enabled⟩
  have found := current ref model listed enabled healthy
  rw [adapters] at found
  exact (get?_registerAll_iff agree model).mp found

theorem Registered.step_kept (registered : Registered settings first app)
    (kept : app.brings process move = none) :
    Registered settings first (app.step process move) := by
  refine ⟨adapters_step.trans registered.1, ?_⟩
  rcases config_step_kept kept with same | flags
  · rw [same]
    exact registered.2
  · exact registered.2.reflagged flags

theorem adaptersCurrent_step (agree : IdsAgree settings first)
    (registered : Registered settings first app) :
    AdaptersCurrent settings (app.step process move) ↔
      ∀ config, app.brings process move = some config → KnownModels settings first config := by
  constructor
  · intro current config brought
    rcases takesOver_of_brings brought with ⟨fresh, taken⟩
    rw [← taken.routes] at fresh ⊢
    exact current.knownModels agree (adapters_step.trans registered.1) fresh
  · intro known
    cases told : app.brings process move with
    | none => exact (registered.step_kept told).adaptersCurrent agree
    | some config =>
      have taken := (takesOver_of_brings told).2
      have after : Registered settings first (app.step process move) :=
        ⟨adapters_step.trans registered.1, by rw [taken.routes]; exact known config told⟩
      exact after.adaptersCurrent agree

theorem registered_step (agree : IdsAgree settings first)
    (registered : Registered settings first app)
    (current : AdaptersCurrent settings (app.step process move)) :
    Registered settings first (app.step process move) := by
  cases told : app.brings process move with
  | none => exact registered.step_kept told
  | some config =>
    have adapters : (app.step process move).adapters = registerAll settings first :=
      adapters_step.trans registered.1
    rcases takesOver_of_brings told with ⟨fresh, taken⟩
    rw [← taken.routes] at fresh
    exact ⟨adapters, current.knownModels agree adapters fresh⟩

theorem adapters_lifespan {now : Rat} {file : ConfigFile}
    (started : GatewayApp.lifespan process settings now file = .ok app) :
    app.adapters = registerAll settings app.config := by
  rcases bind_eq_ok.mp started with ⟨loaded, -, made⟩
  cases made
  exact (registerAll_withDefaultKeys loaded.1.config).symm

theorem adaptersCurrent_start (fresh : app.config.Fresh)
    (adapters : app.adapters = registerAll settings app.config) :
    AdaptersCurrent settings app ↔ IdsAgree settings app.config := by
  constructor
  · intro current ref other first second firstListed secondListed same
    have firstFlags := fresh ref first firstListed
    have secondFlags := fresh other second secondListed
    have firstFound := current ref first firstListed firstFlags.2 firstFlags.1
    have secondFound := current other second secondListed secondFlags.2 secondFlags.1
    rw [same, secondFound] at firstFound
    exact (Option.some.inj firstFound).symm
  · intro agree
    have registered : Registered settings app.config app :=
      ⟨adapters, fun ref model listed => ⟨ref, model, listed, rfl⟩⟩
    exact registered.adaptersCurrent agree

end

/-- Over every run from a start of the application, every model that can be selected has the
adapter of its current definition exactly when the models of the start with the same id agree
and every load brings only models of the start. -/
theorem adaptersCurrent_iff {process : Process} {settings : GatewaySettings} {now : Rat}
    {file : ConfigFile} {app : GatewayApp}
    (started : GatewayApp.lifespan process settings now file = .ok app) (moves : List AppMove) :
    (∀ earlier later, moves = earlier ++ later →
        AdaptersCurrent settings (run (GatewayApp.step process) app earlier)) ↔
      IdsAgree settings app.config ∧
        Allowed (GatewayApp.step process) (fun state move =>
          ∀ config, state.brings process move = some config →
            KnownModels settings app.config config) app moves := by
  have adapters := adapters_lifespan started
  have atStart := adaptersCurrent_start (takesOver_lifespan started).1 adapters
  have passed (agree : IdsAgree settings app.config) :=
    @passed_supported_iff _ _ (GatewayApp.step process)
      (fun state move => ∀ config, state.brings process move = some config →
        KnownModels settings app.config config)
      (Registered settings app.config) (AdaptersCurrent settings)
      (fun _ _ registered _ => adaptersCurrent_step agree registered)
      (fun _ _ registered _ => registered_step agree registered) app
      ⟨adapters, fun ref model listed => ⟨ref, model, listed, rfl⟩⟩ (atStart.mpr agree) moves
  constructor
  · intro every
    have agree := atStart.mp (every [] moves rfl)
    exact ⟨agree, (passed agree).mp every⟩
  · rintro ⟨agree, allowed⟩
    exact (passed agree).mpr allowed

theorem adaptersCurrent_iff_oneModel :
    GatewayApp.lifespan bareProcess {} 0 oneModelFile = .ok oneModelApp ∧
      ((∀ earlier later, [AppMove.admin 5 oneModelFile .reload] = earlier ++ later →
          AdaptersCurrent {} (run (GatewayApp.step bareProcess) oneModelApp earlier)) ↔
        IdsAgree {} oneModelApp.config ∧
          Allowed (GatewayApp.step bareProcess) (fun state move =>
            ∀ config, state.brings bareProcess move = some config →
              KnownModels {} oneModelApp.config config) oneModelApp
            [.admin 5 oneModelFile .reload]) :=
  ⟨rfl, @adaptersCurrent_iff bareProcess {} 0 oneModelFile oneModelApp rfl _⟩

def addedModelFile : ConfigFile :=
  midTierFile [.obj [("id", .str "local")], .obj [("id", .str "new")]]

def movedModelFile : ConfigFile :=
  midTierFile [.obj [("id", .str "local"), ("endpoint", .str "http://vllm-2:8000")]]

/-- A model that a change of the file adds has no adapter, and a model that moves keeps the
adapter of its former endpoint. -/
theorem loads_leave_adapters : GatewayApp.lifespan bareProcess {} 0 oneModelFile = .ok oneModelApp ∧
      ¬ (∀ earlier later, [AppMove.fileChanged 5 addedModelFile] = earlier ++ later →
        AdaptersCurrent {} (run (GatewayApp.step bareProcess) oneModelApp earlier)) ∧
      ¬ (∀ earlier later, [AppMove.admin 5 movedModelFile .reload] = earlier ++ later →
        AdaptersCurrent {} (run (GatewayApp.step bareProcess) oneModelApp earlier)) := by
  refine ⟨rfl, ?_, ?_⟩
  · intro current
    have found := current [.fileChanged 5 addedModelFile] [] rfl ⟨"mid", 1⟩ { id := "new" }
      (by decide +kernel) rfl rfl
    have missing : (run (GatewayApp.step bareProcess) oneModelApp
        [.fileChanged 5 addedModelFile]).adapters.get? "new" = none := by
      decide +kernel
    rw [missing] at found
    cases found
  · intro current
    have found := current [.admin 5 movedModelFile .reload] [] rfl ⟨"mid", 0⟩
      { id := "local", endpoint := "http://vllm-2:8000" } (by decide) rfl rfl
    have former : ((run (GatewayApp.step bareProcess) oneModelApp
        [.admin 5 movedModelFile .reload]).adapters.get? "local").map
          ProviderAdapter.endpoint = some "" := by
      decide
    rw [found] at former
    exact absurd former (by decide)

end Onpremai.Gateway
