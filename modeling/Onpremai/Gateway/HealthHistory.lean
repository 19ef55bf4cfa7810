import Onpremai.Gateway.Reloads

/-!
# Models in rotation

The router reads the flags of the configuration, and the health manager reads its own states.  A
load brings new flags and keeps the states, a check and an administrator change the flags of one
place only, and an enabled model gets its flag back before it is checked.
-/

namespace Onpremai.Gateway

open Onpremai.Library

def SelectsRightly (config : RoutingConfig) (health : HealthManager) (disabled : List String) :
    Prop :=
  ∀ tier model, model ∈ config.getModelsForTier tier →
    (∀ state, health.get? model.id = some state → state.healthy = true) ∧ model.id ∉ disabled

def RoutingConfig.ListedOnce (config : RoutingConfig) (modelId : String) : Prop :=
  ∀ ref other first second, config.modelAt ref = some first → config.modelAt other = some second →
    first.id = modelId → second.id = modelId → ref = other

/-- The manager refers to the last place of every model; the models at other places are as
they were read, and a disabled model has its flag. -/
structure FlagsAgree (config : RoutingConfig) (health : HealthManager)
    (disabled : List String) : Prop where
  refs : ∀ modelId, (health.get? modelId).map ModelState.modelConfig =
    (config.lastPosition modelId).map Prod.fst
  elsewhere : ∀ ref model, config.modelAt ref = some model →
    (health.get? model.id).map ModelState.modelConfig ≠ some ref →
      model.healthy = true ∧ model.enabled = true
  withheld : ∀ modelId ∈ disabled, ∀ state, health.get? modelId = some state →
    ∀ model, config.modelAt state.modelConfig = some model → model.enabled = false

section

variable {config : RoutingConfig} {health : HealthManager} {disabled : List String}

theorem selectsRightly_iff : SelectsRightly config health disabled ↔
      ∀ ref model, config.modelAt ref = some model → model.healthy = true → model.enabled = true →
          (∀ state, health.get? model.id = some state → state.healthy = true) ∧
            model.id ∉ disabled := by
  constructor
  · intro rightly ref model listed healthy enabled
    exact rightly ref.tier model
      (RoutingConfig.mem_getModelsForTier_iff.mpr ⟨⟨ref.index, listed⟩, healthy, enabled⟩)
  · intro rightly tier model selected
    rcases RoutingConfig.mem_getModelsForTier_iff.mp selected with
      ⟨⟨index, listed⟩, healthy, enabled⟩
    exact rightly _ model listed healthy enabled

theorem FlagsAgree.modelAt_ref (agree : FlagsAgree config health disabled) {modelId : String}
    {state : ModelState} (found : health.get? modelId = some state) :
    ∃ model, config.modelAt state.modelConfig = some model ∧ model.id = modelId := by
  have same := agree.refs modelId
  rw [found] at same
  rcases Option.map_eq_some_iff.mp same.symm with ⟨position, last, made⟩
  cases position with
  | mk ref model =>
    rcases RoutingConfig.modelAt_of_lastPosition last with ⟨listed, sameId⟩
    refine ⟨model, ?_, sameId⟩
    rw [← listed, ← made]

section

variable {before after : GatewayApp}

theorem selectsRightly_takesOver (fresh : config.Fresh) (taken : before.TakesOver after config) :
    SelectsRightly config after.health disabled ↔ ∀ ref model, config.modelAt ref = some model →
        (∀ state, before.health.get? model.id = some state → state.healthy = true) ∧
          model.id ∉ disabled := by
  rw [selectsRightly_iff]
  constructor
  · intro rightly ref model listed
    rcases fresh ref model listed with ⟨healthy, enabled⟩
    rcases rightly ref model listed healthy enabled with ⟨states, free⟩
    refine ⟨?_, free⟩
    intro state found
    rcases RoutingConfig.exists_lastPosition listed with ⟨position, last⟩
    apply states { state with modelConfig := position.1 }
    rw [taken.states, last, found]
    rfl
  · intro rightly ref model listed _ _
    rcases rightly ref model listed with ⟨states, free⟩
    refine ⟨?_, free⟩
    intro state found
    rw [taken.states] at found
    rcases Option.map_eq_some_iff.mp found with ⟨position, _, made⟩
    cases kept : before.health.get? model.id with
    | none =>
      rw [kept] at made
      cases made
      rfl
    | some earlier =>
      rw [kept] at made
      cases made
      exact states earlier kept

theorem flagsAgree_takesOver (fresh : config.Fresh)
    (taken : before.TakesOver after config)
    (rightly : SelectsRightly config after.health disabled) :
    FlagsAgree config after.health disabled where
  refs := by
    intro modelId
    rw [taken.states, Option.map_map]
    cases config.lastPosition modelId with
    | none => rfl
    | some position =>
      cases before.health.get? modelId with
      | none => rfl
      | some state => rfl
  elsewhere := by
    intro ref model listed _
    exact fresh ref model listed
  withheld := by
    intro modelId member state found
    rw [taken.states] at found
    rcases Option.map_eq_some_iff.mp found with ⟨position, last, _⟩
    -- a disabled model that the configuration lists would be selected
    rcases RoutingConfig.modelAt_of_lastPosition last with ⟨listed, same⟩
    rcases fresh _ _ listed with ⟨healthy, enabled⟩
    have free := (selectsRightly_iff.mp rightly _ _ listed healthy enabled).2
    rw [same] at free
    exact absurd member free

theorem get?_takesOver_same
    (agree : FlagsAgree config before.health disabled) (taken : before.TakesOver after config)
    (modelId : String) : after.health.get? modelId = before.health.get? modelId := by
  have same := agree.refs modelId
  rw [taken.states]
  cases last : config.lastPosition modelId with
  | none =>
    rw [last] at same
    exact (Option.map_eq_none_iff.mp same).symm
  | some position =>
    rw [last] at same
    rcases Option.map_eq_some_iff.mp same with ⟨state, found, made⟩
    rw [found, Option.map_some, ← made]
    rfl

end

end

/-! ## A change at one place -/

/-- One model's state and the flags at the place it refers to are changed, and nothing
else. -/
structure ChangesAt (config after : RoutingConfig) (health later : HealthManager)
    (modelId : String) (state newState : ModelState) (change : ModelConfig → ModelConfig) :
    Prop where
  found : health.get? modelId = some state
  sameRef : newState.modelConfig = state.modelConfig
  sameId : ∀ model, (change model).id = model.id
  modelAt : ∀ ref, after.modelAt ref =
    if ref = state.modelConfig then (config.modelAt ref).map change else config.modelAt ref
  lastRef : ∀ other, (after.lastPosition other).map Prod.fst =
    (config.lastPosition other).map Prod.fst
  states : ∀ other, later.get? other =
    if modelId = other then some newState else health.get? other

section

variable {config after : RoutingConfig} {health later : HealthManager}
  {disabled withdrawn : List String} {modelId : String} {state newState : ModelState}
  {change : ModelConfig → ModelConfig}

theorem changesAt_put (found : health.get? modelId = some state)
    (sameRef : newState.modelConfig = state.modelConfig) :
    ChangesAt config config health (health.put modelId newState) modelId state newState
      (fun model => model) where
  found := found
  sameRef := sameRef
  sameId := fun _ => rfl
  modelAt := by
    intro ref
    rw [Option.map_id', ite_self]
  lastRef := fun _ => rfl
  states := fun other => health.get?_put modelId other newState

theorem changesAt_modifyAt (found : health.get? modelId = some state)
    (sameRef : newState.modelConfig = state.modelConfig)
    (sameId : ∀ model, (change model).id = model.id) :
    ChangesAt config (config.modifyAt state.modelConfig change) health
      (health.put modelId newState) modelId state newState change where
  found := found
  sameRef := sameRef
  sameId := sameId
  modelAt := fun ref => RoutingConfig.modelAt_modifyAt state.modelConfig ref change
  lastRef := RoutingConfig.lastRef_modifyAt state.modelConfig sameId
  states := fun other => health.get?_put modelId other newState

theorem changesAt_flags (found : health.get? modelId = some state)
    (sameId : ∀ model, (change model).id = model.id) :
    ChangesAt config (config.modifyAt state.modelConfig change) health health modelId state
      state change where
  found := found
  sameRef := rfl
  sameId := sameId
  modelAt := fun ref => RoutingConfig.modelAt_modifyAt state.modelConfig ref change
  lastRef := RoutingConfig.lastRef_modifyAt state.modelConfig sameId
  states := by
    intro other
    split
    · next same => rw [← same, found]
    · rfl

theorem exists_elsewhere (agree : FlagsAgree config health disabled)
    (found : health.get? modelId = some state) :
    ¬ config.ListedOnce modelId ↔
      ∃ ref model, config.modelAt ref = some model ∧ model.id = modelId ∧
        ref ≠ state.modelConfig := by
  rcases agree.modelAt_ref found with ⟨model, listed, sameId⟩
  constructor
  · intro twice
    by_contra nowhere
    have only (ref : ModelRef) (other : ModelConfig) (at_ : config.modelAt ref = some other)
        (same : other.id = modelId) : ref = state.modelConfig := by
      by_contra apart
      exact nowhere ⟨ref, other, at_, same, apart⟩
    apply twice
    intro ref other first second firstAt secondAt firstId secondId
    rw [only ref first firstAt firstId, only other second secondAt secondId]
  · rintro ⟨ref, other, at_, same, apart⟩ once
    exact apart (once ref state.modelConfig other model at_ listed same sameId)

theorem selectsRightly_changesAt (agree : FlagsAgree config health disabled)
    (rightly : SelectsRightly config health disabled)
    (changes : ChangesAt config after health later modelId state newState change)
    (others : ∀ other, other ≠ modelId → (other ∈ withdrawn ↔ other ∈ disabled)) :
    SelectsRightly after later withdrawn ↔
      (∀ model, config.modelAt state.modelConfig = some model → (change model).healthy = true →
        (change model).enabled = true → newState.healthy = true ∧ modelId ∉ withdrawn) ∧
      (¬ config.ListedOnce modelId → newState.healthy = true ∧ modelId ∉ withdrawn) := by
  rcases agree.modelAt_ref changes.found with ⟨model, listed, sameId⟩
  rw [selectsRightly_iff] at rightly ⊢
  rw [exists_elsewhere agree changes.found]
  have inRotation (rest : (∀ state, later.get? modelId = some state → state.healthy = true) ∧
      modelId ∉ withdrawn) : newState.healthy = true ∧ modelId ∉ withdrawn := by
    refine ⟨?_, rest.2⟩
    apply rest.1 newState
    rw [changes.states, if_pos rfl]
  constructor
  · intro right
    constructor
    · intro other at_ healthy enabled
      rw [listed] at at_
      cases at_
      have result := right state.modelConfig (change model)
        (by rw [changes.modelAt, if_pos rfl, listed]; rfl) healthy enabled
      rw [changes.sameId, sameId] at result
      exact inRotation result
    · rintro ⟨ref, other, at_, same, apart⟩
      have untouched : (health.get? other.id).map ModelState.modelConfig ≠ some ref := by
        rw [same, changes.found]
        intro refers
        cases refers
        exact apart rfl
      rcases agree.elsewhere ref other at_ untouched with ⟨healthy, enabled⟩
      have result := right ref other (by rw [changes.modelAt, if_neg apart, at_]) healthy enabled
      rw [same] at result
      exact inRotation result
  · rintro ⟨here, elsewhere⟩ ref found listedAfter healthy enabled
    have allowed (may : newState.healthy = true ∧ modelId ∉ withdrawn) :
        (∀ state, later.get? modelId = some state → state.healthy = true) ∧
          modelId ∉ withdrawn := by
      refine ⟨?_, may.2⟩
      intro later laterFound
      rw [changes.states, if_pos rfl] at laterFound
      cases laterFound
      exact may.1
    rw [changes.modelAt] at listedAfter
    split at listedAfter
    · next place =>
      rw [place, listed] at listedAfter
      cases listedAfter
      rw [changes.sameId, sameId]
      exact allowed (here model listed healthy enabled)
    · next apart =>
      by_cases same : found.id = modelId
      · rw [same]
        exact allowed (elsewhere ⟨ref, found, listedAfter, same, apart⟩)
      · rcases rightly ref found listedAfter healthy enabled with ⟨states, free⟩
        rw [others found.id same]
        refine ⟨?_, free⟩
        intro kept keptFound
        rw [changes.states, if_neg (Ne.symm same)] at keptFound
        exact states kept keptFound

theorem flagsAgree_changesAt (agree : FlagsAgree config health disabled)
    (changes : ChangesAt config after health later modelId state newState change)
    (others : ∀ other, other ≠ modelId → (other ∈ withdrawn ↔ other ∈ disabled))
    (withheld : modelId ∈ withdrawn → ∀ model, config.modelAt state.modelConfig = some model →
      (change model).enabled = false) : FlagsAgree after later withdrawn := by
  rcases agree.modelAt_ref changes.found with ⟨model, listed, sameId⟩
  have refs (other : String) : (later.get? other).map ModelState.modelConfig =
      (health.get? other).map ModelState.modelConfig := by
    rw [changes.states]
    split
    · next same =>
      rw [← same, changes.found, Option.map_some, Option.map_some, changes.sameRef]
    · rfl
  constructor
  · intro other
    rw [refs, changes.lastRef]
    exact agree.refs other
  · intro ref found listedAfter untouched
    rw [refs] at untouched
    rw [changes.modelAt] at listedAfter
    split at listedAfter
    · next place =>
      rw [place, listed] at listedAfter
      cases listedAfter
      rw [changes.sameId, sameId, changes.found, place] at untouched
      exact absurd rfl untouched
    · exact agree.elsewhere ref found listedAfter untouched
  · intro other member laterState laterFound found listedAfter
    rw [changes.states] at laterFound
    split at laterFound
    · next same =>
      cases laterFound
      rw [changes.sameRef, changes.modelAt, if_pos rfl, listed] at listedAfter
      cases listedAfter
      exact withheld (same ▸ member) model listed
    · next differ =>
      have kept := (others other (Ne.symm differ)).mp member
      rcases agree.modelAt_ref laterFound with ⟨second, secondAt, secondId⟩
      rw [changes.modelAt] at listedAfter
      split at listedAfter
      · next place =>
        -- two models at one place
        rw [place, listed] at secondAt
        cases secondAt
        exact absurd (sameId.symm.trans secondId) differ
      · exact agree.withheld other kept laterState laterFound found listedAfter

end

/-! ## Runs -/

/-- An application, with the models that an administrator disabled and did not enable
again. -/
structure Rotation where
  app : GatewayApp
  disabled : List String := []

namespace Rotation

variable (process : Process) (state : Rotation)

def disabledAfter : AppMove → List String
  | .admin _ _ (.disableModel modelId) =>
    if (state.app.health.get? modelId).isSome then modelId :: state.disabled
    else state.disabled
  | .enableModel modelId =>
    if (state.app.health.get? modelId).isSome then
      state.disabled.filter fun other => decide (other ≠ modelId)
    else state.disabled
  | _ => state.disabled

def step (move : AppMove) : Rotation where
  app := state.app.step process move
  disabled := state.disabledAfter move

def Rightly : Prop := SelectsRightly state.app.config state.app.health state.disabled

def Agrees : Prop := FlagsAgree state.app.config state.app.health state.disabled

def Permits : AppMove → Prop
  | .healthChecked modelId false _ =>
    state.app.adapters.get? modelId ≠ none →
      ∀ found, state.app.health.get? modelId = some found → found.healthy = true →
        state.app.health.unhealthyThreshold ≤ found.consecutiveFailures + 1 →
          state.app.config.ListedOnce modelId
  | .admin _ _ (.disableModel modelId) =>
    ∀ found, state.app.health.get? modelId = some found → state.app.config.ListedOnce modelId
  | .enableModel modelId =>
    ∀ found, state.app.health.get? modelId = some found →
      ∀ model, state.app.config.modelAt found.modelConfig = some model →
        model.healthy = true → found.healthy = true
  | move =>
    ∀ config, state.app.brings process move = some config →
      ∀ ref model, config.modelAt ref = some model →
        (∀ found, state.app.health.get? model.id = some found → found.healthy = true) ∧
          model.id ∉ state.disabled

variable {process state} {move : AppMove}

theorem step_frame (agree : state.Agrees) (rightly : state.Rightly)
    (config : (state.step process move).app.config = state.app.config)
    (states : ∀ modelId, (state.step process move).app.health.get? modelId =
      state.app.health.get? modelId)
    (disabled : (state.step process move).disabled = state.disabled)
    (permits : state.Permits process move) :
    ((state.step process move).Rightly ↔ state.Permits process move) ∧
      ((state.step process move).Rightly → (state.step process move).Agrees) := by
  rw [Rightly, Agrees, config, disabled]
  constructor
  · apply iff_of_true _ permits
    intro tier model selected
    rw [states]
    exact rightly tier model selected
  · intro _
    constructor
    · intro modelId
      rw [states]
      exact agree.refs modelId
    · intro ref model listed
      rw [states]
      exact agree.elsewhere ref model listed
    · intro modelId member
      rw [states]
      exact agree.withheld modelId member

theorem step_brings (rightly : state.Rightly) {config : RoutingConfig}
    (brought : state.app.brings process move = some config)
    (disabled : (state.step process move).disabled = state.disabled) :
    ((state.step process move).Rightly ↔ ∀ ref model, config.modelAt ref = some model →
        (∀ found, state.app.health.get? model.id = some found → found.healthy = true) ∧
          model.id ∉ state.disabled) ∧
      ((state.step process move).Rightly → (state.step process move).Agrees) := by
  rcases takesOver_of_brings brought with ⟨fresh, taken⟩
  have config : (state.step process move).app.config = config := taken.routes
  rw [Rightly, Agrees, config, disabled]
  exact ⟨selectsRightly_takesOver fresh taken, flagsAgree_takesOver fresh taken⟩

theorem step_changesAt (agree : state.Agrees) (rightly : state.Rightly) {modelId : String}
    {found newState : ModelState} {change : ModelConfig → ModelConfig}
    (changes : ChangesAt state.app.config (state.step process move).app.config state.app.health
      (state.step process move).app.health modelId found newState change)
    (others : ∀ other, other ≠ modelId →
      (other ∈ (state.step process move).disabled ↔ other ∈ state.disabled))
    (withheld : modelId ∈ (state.step process move).disabled →
      ∀ model, state.app.config.modelAt found.modelConfig = some model →
        (change model).enabled = false)
    (permits : state.Permits process move ↔
      (∀ model, state.app.config.modelAt found.modelConfig = some model →
        (change model).healthy = true → (change model).enabled = true →
          newState.healthy = true ∧ modelId ∉ (state.step process move).disabled) ∧
      (¬ state.app.config.ListedOnce modelId →
        newState.healthy = true ∧ modelId ∉ (state.step process move).disabled)) :
    ((state.step process move).Rightly ↔ state.Permits process move) ∧
      ((state.step process move).Rightly → (state.step process move).Agrees) := by
  constructor
  · rw [permits]
    exact selectsRightly_changesAt agree rightly changes others
  · intro _
    exact flagsAgree_changesAt agree changes others withheld

theorem rightly_elsewhere (agree : state.Agrees) (rightly : state.Rightly) {modelId : String}
    {found : ModelState} (tracked : state.app.health.get? modelId = some found)
    (twice : ¬ state.app.config.ListedOnce modelId) :
    found.healthy = true ∧ modelId ∉ state.disabled := by
  rcases (exists_elsewhere agree tracked).mp twice with ⟨ref, model, listed, same, apart⟩
  have untouched : (state.app.health.get? model.id).map ModelState.modelConfig ≠ some ref := by
    rw [same, tracked]
    intro refers
    cases refers
    exact apart rfl
  rcases agree.elsewhere ref model listed untouched with ⟨healthy, enabled⟩
  rcases selectsRightly_iff.mp rightly ref model listed healthy enabled with ⟨states, free⟩
  rw [same] at states free
  exact ⟨states found tracked, free⟩

theorem step_counted (agree : state.Agrees) (rightly : state.Rightly) {modelId : String}
    {found newState : ModelState}
    (changes : ChangesAt state.app.config (state.step process move).app.config state.app.health
      (state.step process move).app.health modelId found newState (fun model => model))
    (sameHealth : newState.healthy = found.healthy)
    (disabled : (state.step process move).disabled = state.disabled)
    (permits : state.Permits process move) :
    ((state.step process move).Rightly ↔ state.Permits process move) ∧
      ((state.step process move).Rightly → (state.step process move).Agrees) := by
  apply step_changesAt agree rightly changes
  · intro other _
    rw [disabled]
  · intro member model listed
    rw [disabled] at member
    exact agree.withheld modelId member found changes.found model listed
  · apply iff_of_true permits
    rw [disabled, sameHealth]
    constructor
    · intro model listed healthy enabled
      rcases agree.modelAt_ref changes.found with ⟨other, otherListed, sameId⟩
      rw [listed] at otherListed
      cases otherListed
      rcases selectsRightly_iff.mp rightly _ model listed healthy enabled with ⟨states, free⟩
      rw [sameId] at states free
      exact ⟨states found changes.found, free⟩
    · exact rightly_elsewhere agree rightly changes.found

section

variable {app : GatewayApp} {modelId : String} (healthy : Bool) (elapsedMs : Int)

theorem checked_eq_self (idle : app.adapters.get? modelId = none ∨ app.health.get? modelId = none) :
    app.checked modelId healthy elapsedMs = app := by
  rw [GatewayApp.checked]
  cases registered : app.adapters.get? modelId with
  | none => rfl
  | some adapter =>
    rw [registered] at idle
    rcases idle with missing | untracked
    · cases missing
    · rw [HealthManager.checkSingleModel, untracked]
      rfl

theorem checked_eq (registered : app.adapters.get? modelId ≠ none) :
    (app.checked modelId healthy elapsedMs).config =
        (app.health.checkSingleModel app.config modelId healthy elapsedMs).1 ∧
      (app.checked modelId healthy elapsedMs).health =
        (app.health.checkSingleModel app.config modelId healthy elapsedMs).2 := by
  rw [GatewayApp.checked]
  cases found : app.adapters.get? modelId with
  | none => exact absurd found registered
  | some adapter => exact ⟨rfl, rfl⟩

end

theorem step_checked (agree : state.Agrees) (rightly : state.Rightly) (modelId : String)
    (healthy : Bool) (elapsedMs : Int) :
    ((state.step process (.healthChecked modelId healthy elapsedMs)).Rightly ↔
        state.Permits process (.healthChecked modelId healthy elapsedMs)) ∧
      ((state.step process (.healthChecked modelId healthy elapsedMs)).Rightly →
        (state.step process (.healthChecked modelId healthy elapsedMs)).Agrees) := by
  have passed : state.Permits process (.healthChecked modelId true elapsedMs) := by
    intro config brought
    cases brought
  by_cases idle : state.app.adapters.get? modelId = none ∨ state.app.health.get? modelId = none
  · have still : (state.step process (.healthChecked modelId healthy elapsedMs)).app =
        state.app := checked_eq_self healthy elapsedMs idle
    apply step_frame agree rightly (congrArg GatewayApp.config still)
      (fun other => congrArg (fun app => app.health.get? other) still) rfl
    cases healthy with
    | true => exact passed
    | false =>
      intro registered found tracked
      rcases idle with missing | untracked
      · exact absurd missing registered
      · rw [untracked] at tracked
        cases tracked
  · rw [not_or] at idle
    rcases Option.ne_none_iff_exists'.mp idle.2 with ⟨found, tracked⟩
    have effect : (state.step process (.healthChecked modelId healthy elapsedMs)).app.config = _ ∧
        (state.step process (.healthChecked modelId healthy elapsedMs)).app.health = _ :=
      checked_eq healthy elapsedMs idle.1
    rcases effect with ⟨config, health⟩
    rcases state.app.health.checkSingleModel_cases state.app.config tracked healthy elapsedMs with
      ⟨newState, sameRef, -, ⟨checks, sameHealth, early⟩ | ⟨checks, turned, late⟩⟩
    · rw [checks] at config health
      have changes : ChangesAt state.app.config
          (state.step process (.healthChecked modelId healthy elapsedMs)).app.config
          state.app.health (state.step process (.healthChecked modelId healthy elapsedMs)).app.health
          modelId found newState (fun model => model) := by
        rw [config, health]
        exact changesAt_put tracked sameRef
      apply step_counted agree rightly changes sameHealth rfl
      cases healthy with
      | true => exact passed
      | false =>
        intro _ other otherTracked regarded reached
        rw [tracked] at otherTracked
        cases otherTracked
        exact absurd reached (early rfl regarded)
    · rw [checks] at config health
      have changes : ChangesAt state.app.config
          (state.step process (.healthChecked modelId healthy elapsedMs)).app.config
          state.app.health (state.step process (.healthChecked modelId healthy elapsedMs)).app.health
          modelId found newState (fun model => { model with healthy }) := by
        rw [config, health]
        exact changesAt_modifyAt tracked sameRef fun _ => rfl
      apply step_changesAt agree rightly changes (fun _ _ => Iff.rfl)
      · intro member model listed
        exact agree.withheld modelId member found tracked model listed
      · rw [turned]
        cases healthy with
        | true =>
          apply iff_of_true passed
          constructor
          · intro model listed _ enabled
            refine ⟨rfl, ?_⟩
            intro member
            have withheld := agree.withheld modelId member found tracked model listed
            have shown : model.enabled = true := enabled
            rw [shown] at withheld
            cases withheld
          · intro twice
            exact ⟨rfl, (rightly_elsewhere agree rightly tracked twice).2⟩
        | false =>
          constructor
          · intro permits
            constructor
            · intro model _ regarded
              cases regarded
            · intro twice
              exact absurd (permits idle.1 found tracked (late rfl).1 (late rfl).2) twice
          · rintro ⟨-, elsewhere⟩ _ other _ _ _
            by_contra twice
            cases (elsewhere twice).1

theorem step_disableModel (agree : state.Agrees) (rightly : state.Rightly) (now : Rat)
    (file : ConfigFile) (modelId : String) :
    ((state.step process (.admin now file (.disableModel modelId))).Rightly ↔
        state.Permits process (.admin now file (.disableModel modelId))) ∧
      ((state.step process (.admin now file (.disableModel modelId))).Rightly →
        (state.step process (.admin now file (.disableModel modelId))).Agrees) := by
  cases tracked : state.app.health.get? modelId with
  | none =>
    have still : (state.step process (.admin now file (.disableModel modelId))).app =
        state.app := by
      rw [step, GatewayApp.step, GatewayApp.handle, HealthManager.disableModel, tracked]
      rfl
    apply step_frame agree rightly (congrArg GatewayApp.config still)
      (fun other => congrArg (fun app => app.health.get? other) still)
    · rw [step, disabledAfter, tracked]
      rfl
    · intro found other
      rw [tracked] at other
      cases other
  | some found =>
    have effect : (state.step process (.admin now file (.disableModel modelId))).app.config =
          state.app.config.modifyAt found.modelConfig
            (fun model => { model with enabled := false }) ∧
        (state.step process (.admin now file (.disableModel modelId))).app.health =
          state.app.health.put modelId { found with healthy := false } := by
      rw [step, GatewayApp.step, GatewayApp.handle, HealthManager.disableModel, tracked]
      exact ⟨rfl, rfl⟩
    have disabled : (state.step process (.admin now file (.disableModel modelId))).disabled =
        modelId :: state.disabled := by
      rw [step, disabledAfter, tracked]
      rfl
    have changes : ChangesAt state.app.config
        (state.step process (.admin now file (.disableModel modelId))).app.config
        state.app.health
        (state.step process (.admin now file (.disableModel modelId))).app.health modelId found
        { found with healthy := false } (fun model => { model with enabled := false }) := by
      rw [effect.1, effect.2]
      exact changesAt_modifyAt tracked rfl fun _ => rfl
    apply step_changesAt agree rightly changes
    · intro other differ
      rw [disabled, List.mem_cons]
      simp [differ]
    · intro _ model _
      rfl
    · constructor
      · intro permits
        constructor
        · intro model _ _ enabled
          cases enabled
        · intro twice
          exact absurd (permits found tracked) twice
      · rintro ⟨-, elsewhere⟩ other _
        by_contra twice
        cases (elsewhere twice).1

theorem step_enableModel (agree : state.Agrees) (rightly : state.Rightly) (modelId : String) :
    ((state.step process (.enableModel modelId)).Rightly ↔
        state.Permits process (.enableModel modelId)) ∧
      ((state.step process (.enableModel modelId)).Rightly →
        (state.step process (.enableModel modelId)).Agrees) := by
  cases tracked : state.app.health.get? modelId with
  | none =>
    have still : (state.step process (.enableModel modelId)).app = state.app := by
      rw [step, GatewayApp.step, GatewayApp.enabled, HealthManager.enableModel, tracked]
      rfl
    apply step_frame agree rightly (congrArg GatewayApp.config still)
      (fun other => congrArg (fun app => app.health.get? other) still)
    · rw [step, disabledAfter, tracked]
      rfl
    · intro found other
      rw [tracked] at other
      cases other
  | some found =>
    have effect : (state.step process (.enableModel modelId)).app.config =
          state.app.config.modifyAt found.modelConfig
            (fun model => { model with enabled := true }) ∧
        (state.step process (.enableModel modelId)).app.health = state.app.health := by
      rw [step, GatewayApp.step, GatewayApp.enabled, HealthManager.enableModel, tracked]
      exact ⟨rfl, rfl⟩
    have disabled : (state.step process (.enableModel modelId)).disabled =
        state.disabled.filter fun other => decide (other ≠ modelId) := by
      rw [step, disabledAfter, tracked]
      rfl
    have free : modelId ∉ (state.step process (.enableModel modelId)).disabled := by
      rw [disabled]
      simp
    have changes : ChangesAt state.app.config
        (state.step process (.enableModel modelId)).app.config state.app.health
        (state.step process (.enableModel modelId)).app.health modelId found found
        (fun model => { model with enabled := true }) := by
      rw [effect.1, effect.2]
      exact changesAt_flags tracked fun _ => rfl
    apply step_changesAt agree rightly changes
    · intro other differ
      rw [disabled]
      simp [differ]
    · intro member
      exact absurd member free
    · constructor
      · intro permits
        constructor
        · intro model listed healthy _
          exact ⟨permits found tracked model listed healthy, free⟩
        · intro twice
          exact ⟨(rightly_elsewhere agree rightly tracked twice).1, free⟩
      · rintro ⟨here, -⟩ other otherTracked model listed healthy
        rw [tracked] at otherTracked
        cases otherTracked
        exact (here model listed healthy rfl).1

theorem permits_brings {config : RoutingConfig}
    (brought : state.app.brings process move = some config) :
    (state.Permits process move ↔ ∀ ref model, config.modelAt ref = some model →
        (∀ found, state.app.health.get? model.id = some found → found.healthy = true) ∧
          model.id ∉ state.disabled) ∧
      (state.step process move).disabled = state.disabled := by
  have only (permits : Prop)
      (condition : permits ↔ ∀ other, state.app.brings process move = some other →
        ∀ ref model, other.modelAt ref = some model →
          (∀ found, state.app.health.get? model.id = some found → found.healthy = true) ∧
            model.id ∉ state.disabled) :
      permits ↔ ∀ ref model, config.modelAt ref = some model →
        (∀ found, state.app.health.get? model.id = some found → found.healthy = true) ∧
          model.id ∉ state.disabled := by
    rw [condition, brought]
    constructor
    · intro all
      exact all config rfl
    · intro all other same
      cases same
      exact all
  cases move with
  | healthChecked modelId healthy elapsedMs => cases brought
  | enableModel modelId => cases brought
  | recordResult agent task variant sample => cases brought
  | fileChanged now file => exact ⟨only _ Iff.rfl, rfl⟩
  | admin now file request =>
    cases request with
    | updateRouting body => exact ⟨only _ Iff.rfl, rfl⟩
    | reload => exact ⟨only _ Iff.rfl, rfl⟩
    | updateThreshold task confidenceThreshold => cases brought
    | setCanary task body => cases brought
    | promoteCanary task => cases brought
    | rollbackCanary task => cases brought
    | disableModel modelId => cases brought

theorem step_kept (agree : state.Agrees) (rightly : state.Rightly)
    (kept : state.app.brings process move = none)
    (config : (state.step process move).app.config = state.app.config)
    (states : ∀ modelId, (state.step process move).app.health.get? modelId =
      state.app.health.get? modelId)
    (disabled : (state.step process move).disabled = state.disabled)
    (condition : state.Permits process move ↔ ∀ other, state.app.brings process move = some other →
        ∀ ref model, other.modelAt ref = some model →
          (∀ found, state.app.health.get? model.id = some found → found.healthy = true) ∧
            model.id ∉ state.disabled) :
    ((state.step process move).Rightly ↔ state.Permits process move) ∧
      ((state.step process move).Rightly → (state.step process move).Agrees) := by
  apply step_frame agree rightly config states disabled
  rw [condition, kept]
  intro other brought
  cases brought

theorem step_iff (agree : state.Agrees) (rightly : state.Rightly) :
    ((state.step process move).Rightly ↔ state.Permits process move) ∧
      ((state.step process move).Rightly → (state.step process move).Agrees) := by
  cases told : state.app.brings process move with
  | some config =>
    rcases permits_brings told with ⟨condition, disabled⟩
    rw [condition]
    exact step_brings rightly told disabled
  | none =>
    cases move with
    | healthChecked modelId healthy elapsedMs =>
      exact step_checked agree rightly modelId healthy elapsedMs
    | enableModel modelId => exact step_enableModel agree rightly modelId
    | recordResult agent task variant sample =>
      exact step_kept agree rightly told rfl (fun _ => rfl) rfl Iff.rfl
    | fileChanged now file =>
      have kept : state.app.step process (.fileChanged now file) = state.app := by
        rcases @onFileChanged_cases process now state.app.loader file with same | read
        · rw [GatewayApp.step, same]
          rfl
        · rw [GatewayApp.brings, read.2] at told
          cases told
      exact step_kept agree rightly told (congrArg GatewayApp.config kept)
        (fun other => congrArg (fun app => app.health.get? other) kept) rfl Iff.rfl
    | admin now file request =>
      cases request with
      | disableModel modelId => exact step_disableModel agree rightly now file modelId
      | updateThreshold task confidenceThreshold =>
        exact step_kept agree rightly told rfl (fun _ => rfl) rfl Iff.rfl
      | setCanary task body =>
        exact step_kept agree rightly told rfl (fun _ => rfl) rfl Iff.rfl
      | promoteCanary task =>
        have frame := @canaryReply_frame state.app "promoted" task
          (state.app.canary.promoteCanary task)
        exact step_kept agree rightly told frame.1
          (fun other => congrArg (fun health => health.get? other) frame.2.1) rfl Iff.rfl
      | rollbackCanary task =>
        have frame := @canaryReply_frame state.app "rolled_back" task
          (state.app.canary.rollbackCanary task)
        exact step_kept agree rightly told frame.1
          (fun other => congrArg (fun health => health.get? other) frame.2.1) rfl Iff.rfl
      | updateRouting body =>
        have kept : state.app.step process (.admin now file (.updateRouting body)) =
            state.app := by
          rw [GatewayApp.brings] at told
          split at told
          · cases told
          · next refused => rw [GatewayApp.step, GatewayApp.handle, if_neg refused]
        exact step_kept agree rightly told (congrArg GatewayApp.config kept)
          (fun other => congrArg (fun app => app.health.get? other) kept) rfl Iff.rfl
      | reload =>
        have taken := @takesOver_reload process state.app now file
        rcases @reload_cases process now state.app.loader file with same | read
        · rw [same] at taken
          exact step_kept agree rightly told taken.routes (get?_takesOver_same agree taken)
            rfl Iff.rfl
        · rw [GatewayApp.brings, read.2] at told
          cases told

theorem rightly_lifespan {settings : GatewaySettings} {now : Rat} {file : ConfigFile}
    {app : GatewayApp} (started : GatewayApp.lifespan process settings now file = .ok app) :
    ({ app } : Rotation).Agrees ∧ ({ app } : Rotation).Rightly := by
  rcases takesOver_lifespan started with ⟨fresh, taken⟩
  have rightly : SelectsRightly app.config app.health [] := by
    rw [selectsRightly_takesOver fresh taken]
    intro ref model _
    constructor
    · intro found untracked
      cases untracked
    · exact List.not_mem_nil
  exact ⟨flagsAgree_takesOver fresh taken rightly, rightly⟩

end Rotation

/-! ## Failing checks -/

def AppMove.failsCheck (modelId : String) : AppMove → Bool
  | .healthChecked other healthy _ => decide (other = modelId) && !healthy
  | _ => false

/-- A model stays in rotation rightly: in every state the selection is right, and a model that
is tracked and checked without success after a load is excluded once its failing checks reach
the threshold. -/
structure KeepsRotation (process : Process) (app : GatewayApp) (moves : List AppMove) :
    Prop where
  rightly : ∀ earlier later, moves = earlier ++ later →
    (run (Rotation.step process) { app } earlier).Rightly
  excluded : ∀ earlier move stretch later modelId, moves = earlier ++ move :: stretch ++ later →
    ((run (Rotation.step process) { app } earlier).app.brings process move).isSome = true →
    (∀ before after, stretch = before ++ after →
      ((run (Rotation.step process) { app } (earlier ++ move :: before)).app.health.get?
        modelId).isSome = true) →
    (∀ elapsedMs, AppMove.healthChecked modelId true elapsedMs ∉ stretch) →
    app.adapters.get? modelId ≠ none →
    app.health.unhealthyThreshold ≤ stretch.countP (AppMove.failsCheck modelId) →
    ∀ tier model, model ∈ (run (Rotation.step process) { app }
        (earlier ++ move :: stretch)).app.config.getModelsForTier tier → model.id ≠ modelId

section

variable {process : Process} {app : GatewayApp} {move : AppMove} {modelId : String}

section

variable (process : Process) (app : GatewayApp) (move : AppMove)

theorem states_step_cases : (∃ config, app.TakesOver (app.step process move) config) ∨
      (app.step process move).health = app.health ∨ (∃ modelId healthy elapsedMs found newState,
        move = .healthChecked modelId healthy elapsedMs ∧ app.health.get? modelId = some found ∧
          (app.step process move).health = app.health.put modelId newState ∧
          newState.consecutiveFailures = (if healthy then 0 else found.consecutiveFailures + 1) ∧
          (newState.healthy = true → healthy = false → found.healthy = true ∧
            ¬ app.health.unhealthyThreshold ≤ found.consecutiveFailures + 1)) ∨
      ∃ modelId found, app.health.get? modelId = some found ∧ (app.step process move).health =
          app.health.put modelId { found with healthy := false } := by
  by_cases check : ∃ modelId healthy elapsedMs, move = .healthChecked modelId healthy elapsedMs
  · rcases check with ⟨modelId, healthy, elapsedMs, made⟩
    rw [made]
    by_cases idle : app.adapters.get? modelId = none ∨ app.health.get? modelId = none
    · exact .inr (.inl (congrArg GatewayApp.health
        (Rotation.checked_eq_self healthy elapsedMs idle)))
    · rw [not_or] at idle
      rcases Option.ne_none_iff_exists'.mp idle.2 with ⟨found, tracked⟩
      have health : (app.step process (.healthChecked modelId healthy elapsedMs)).health = _ :=
        (Rotation.checked_eq healthy elapsedMs idle.1).2
      refine .inr (.inr (.inl ⟨modelId, healthy, elapsedMs, found, ?_⟩))
      rcases app.health.checkSingleModel_cases app.config tracked healthy elapsedMs with
        ⟨newState, -, counted, ⟨checks, sameHealth, early⟩ | ⟨checks, turned, -⟩⟩
      · rw [checks] at health
        refine ⟨newState, rfl, tracked, health, counted, ?_⟩
        intro regarded failed
        rw [sameHealth] at regarded
        exact ⟨regarded, early failed regarded⟩
      · rw [checks] at health
        refine ⟨newState, rfl, tracked, health, counted, ?_⟩
        intro regarded failed
        rw [turned, failed] at regarded
        cases regarded
  · by_cases disable : ∃ now file modelId, move = .admin now file (.disableModel modelId)
    · rcases disable with ⟨now, file, modelId, made⟩
      rw [made, GatewayApp.step, GatewayApp.handle, HealthManager.disableModel]
      cases tracked : app.health.get? modelId with
      | none => exact .inr (.inl rfl)
      | some found => exact .inr (.inr (.inr ⟨modelId, found, tracked, rfl⟩))
    · have frame := @takesOver_or_frame process app move
        (by
          intro modelId healthy elapsedMs same
          exact check ⟨modelId, healthy, elapsedMs, same⟩)
        (by
          intro now file modelId same
          exact disable ⟨now, file, modelId, same⟩)
      rcases frame with taken | same
      · exact .inl taken
      · exact .inr (.inl same)

theorem unhealthyThreshold_step :
    (app.step process move).health.unhealthyThreshold = app.health.unhealthyThreshold := by
  rcases states_step_cases process app move with
    ⟨config, taken⟩ | same | ⟨modelId, healthy, elapsedMs, found, newState, -, -, made, -⟩ |
    ⟨modelId, found, -, made⟩
  · exact taken.unhealthyThreshold
  · rw [same]
  · rw [made]
    rfl
  · rw [made]
    rfl

end

theorem failsCheck_iff : move.failsCheck modelId = true ↔
      ∃ elapsedMs, move = .healthChecked modelId false elapsedMs := by
  cases move with
  | healthChecked other healthy elapsedMs =>
    rw [AppMove.failsCheck, Bool.and_eq_true, decide_eq_true_iff]
    constructor
    · rintro ⟨same, failed⟩
      cases healthy with
      | true => cases failed
      | false => exact ⟨elapsedMs, by rw [same]⟩
    · rintro ⟨_, same⟩
      cases same
      exact ⟨rfl, rfl⟩
  | enableModel other => exact ⟨Bool.noConfusion, fun found => by cases found.choose_spec⟩
  | recordResult agent task variant sample =>
    exact ⟨Bool.noConfusion, fun found => by cases found.choose_spec⟩
  | fileChanged now file => exact ⟨Bool.noConfusion, fun found => by cases found.choose_spec⟩
  | admin now file request => exact ⟨Bool.noConfusion, fun found => by cases found.choose_spec⟩

theorem failures_failed {found later : ModelState}
    (tracked : app.health.get? modelId = some found) {elapsedMs : Int}
    (kept : (app.step process (.healthChecked modelId false elapsedMs)).health.get? modelId =
      some later)
    (registered : app.adapters.get? modelId ≠ none) (regarded : later.healthy = true) :
    found.healthy = true ∧ later.consecutiveFailures = found.consecutiveFailures + 1 ∧
      ¬ app.health.unhealthyThreshold ≤ later.consecutiveFailures := by
  have health : (app.step process (.healthChecked modelId false elapsedMs)).health = _ :=
    (Rotation.checked_eq false elapsedMs registered).2
  rcases app.health.checkSingleModel_cases app.config tracked false elapsedMs with
    ⟨newState, -, counted, ⟨checks, sameHealth, early⟩ | ⟨checks, turned, -⟩⟩
  · rw [health, checks, HealthManager.get?_put, if_pos rfl] at kept
    cases kept
    rw [sameHealth] at regarded
    have count : later.consecutiveFailures = found.consecutiveFailures + 1 := counted
    rw [count]
    exact ⟨regarded, rfl, early rfl regarded⟩
  · rw [health, checks, HealthManager.get?_put, if_pos rfl] at kept
    cases kept
    rw [turned] at regarded
    cases regarded

theorem failures_unchecked {found later : ModelState}
    (tracked : app.health.get? modelId = some found)
    (kept : (app.step process move).health.get? modelId = some later)
    (unchecked : ∀ healthy elapsedMs, move ≠ .healthChecked modelId healthy elapsedMs)
    (regarded : later.healthy = true) :
    found.healthy = true ∧ later.consecutiveFailures = found.consecutiveFailures := by
  rcases states_step_cases process app move with
    ⟨config, taken⟩ | same | ⟨other, healthy, elapsedMs, _, newState, made, -, health, -⟩ |
    ⟨other, before, -, health⟩
  · rw [taken.states, tracked] at kept
    rcases Option.map_eq_some_iff.mp kept with ⟨position, _, made⟩
    cases made
    exact ⟨regarded, rfl⟩
  · rw [same, tracked] at kept
    cases kept
    exact ⟨regarded, rfl⟩
  · rw [health, HealthManager.get?_put] at kept
    split at kept
    · next same =>
      rw [same] at made
      exact absurd made (unchecked healthy elapsedMs)
    · rw [tracked] at kept
      cases kept
      exact ⟨regarded, rfl⟩
  · rw [health, HealthManager.get?_put] at kept
    split at kept
    · cases kept
      cases regarded
    · rw [tracked] at kept
      cases kept
      exact ⟨regarded, rfl⟩

theorem failures_run {moves : List AppMove} {start : Rotation} (failed : Nat)
    (counted : ∀ found, start.app.health.get? modelId = some found → found.healthy = true →
      failed ≤ found.consecutiveFailures ∧
        (failed = 0 ∨ ¬ start.app.health.unhealthyThreshold ≤ found.consecutiveFailures))
    (tracked : ∀ earlier later, moves = earlier ++ later →
      ((run (Rotation.step process) start earlier).app.health.get? modelId).isSome = true)
    (unpassed : ∀ elapsedMs, AppMove.healthChecked modelId true elapsedMs ∉ moves)
    (registered : start.app.adapters.get? modelId ≠ none) :
    ∀ found, (run (Rotation.step process) start moves).app.health.get? modelId = some found →
      found.healthy = true →
        failed + moves.countP (AppMove.failsCheck modelId) ≤ found.consecutiveFailures ∧
          (failed + moves.countP (AppMove.failsCheck modelId) = 0 ∨
            ¬ start.app.health.unhealthyThreshold ≤ found.consecutiveFailures) := by
  induction moves generalizing start failed with
  | nil => exact counted
  | cons move rest ih =>
    have before := tracked [] (move :: rest) rfl
    have after := tracked [move] rest rfl
    rcases Option.isSome_iff_exists.mp before with ⟨first, firstTracked⟩
    have restTracked : ∀ earlier later, rest = earlier ++ later →
        ((run (Rotation.step process) (start.step process move) earlier).app.health.get?
          modelId).isSome = true := by
      intro earlier later split
      exact tracked (move :: earlier) later (by rw [split]; rfl)
    have restUnpassed : ∀ elapsedMs, AppMove.healthChecked modelId true elapsedMs ∉ rest :=
      fun elapsedMs member => unpassed elapsedMs (List.mem_cons_of_mem _ member)
    have restRegistered : (start.step process move).app.adapters.get? modelId ≠ none := by
      change (start.app.step process move).adapters.get? modelId ≠ none
      rw [adapters_step]
      exact registered
    have threshold : (start.step process move).app.health.unhealthyThreshold =
        start.app.health.unhealthyThreshold := unhealthyThreshold_step process start.app move
    rw [run_cons, List.countP_cons, ← threshold]
    cases fails : move.failsCheck modelId with
    | true =>
      rcases failsCheck_iff.mp fails with ⟨elapsedMs, made⟩
      rw [if_pos rfl, Nat.add_comm _ 1, ← Nat.add_assoc]
      apply ih (failed + 1) _ restTracked restUnpassed restRegistered
      intro found kept regarded
      rw [made] at kept
      rcases @failures_failed process _ modelId first found firstTracked elapsedMs kept
        registered regarded with ⟨healthy, count, below⟩
      have known := (counted first firstTracked healthy).1
      rw [threshold]
      exact ⟨by omega, .inr below⟩
    | false =>
      rw [if_neg Bool.noConfusion, Nat.add_zero]
      apply ih failed _ restTracked restUnpassed restRegistered
      intro found kept regarded
      have unchecked : ∀ healthy elapsedMs,
          move ≠ .healthChecked modelId healthy elapsedMs := by
        intro healthy elapsedMs made
        cases healthy with
        | true => exact unpassed elapsedMs (made ▸ List.mem_cons_self)
        | false =>
          rw [failsCheck_iff.mpr ⟨elapsedMs, made⟩] at fails
          cases fails
      rcases failures_unchecked firstTracked kept unchecked regarded with ⟨healthy, count⟩
      rw [count, threshold]
      exact counted first firstTracked healthy

end

theorem adapters_run (process : Process) (start : Rotation) (moves : List AppMove) :
    (run (Rotation.step process) start moves).app.adapters = start.app.adapters ∧
      (run (Rotation.step process) start moves).app.health.unhealthyThreshold =
        start.app.health.unhealthyThreshold := by
  apply run_always (Rotation.step process) (fun state =>
    state.app.adapters = start.app.adapters ∧
      state.app.health.unhealthyThreshold = start.app.health.unhealthyThreshold) _ ⟨rfl, rfl⟩
  intro state move kept
  exact ⟨adapters_step.trans kept.1, (unhealthyThreshold_step process state.app move).trans kept.2⟩

/-- Over every run from a start of the application, the models that are selected are healthy
and not disabled, and failing models are excluded, exactly when every move meets its
condition. -/
theorem keepsRotation_iff {process : Process} {settings : GatewaySettings} {now : Rat}
    {file : ConfigFile} {app : GatewayApp}
    (started : GatewayApp.lifespan process settings now file = .ok app) (moves : List AppMove) :
    KeepsRotation process app moves ↔
      Allowed (Rotation.step process) (fun state move => state.Permits process move) { app }
        moves := by
  rcases @Rotation.rightly_lifespan process settings now file app started with ⟨agree, rightly⟩
  have passed := @passed_supported_iff _ _ (Rotation.step process)
    (fun state move => state.Permits process move) Rotation.Agrees Rotation.Rightly
    (fun _ _ agree rightly => (Rotation.step_iff agree rightly).1)
    (fun _ _ agree rightly => (Rotation.step_iff agree rightly).2) _ agree rightly moves
  constructor
  · intro keeps
    exact passed.mp keeps.rightly
  · intro allowed
    have everywhere := passed.mpr allowed
    refine ⟨everywhere, ?_⟩
    intro earlier move stretch later modelId split brought tracked unpassed registered reached
      tier model selected same
    have frame := adapters_run process { app } (earlier ++ [move])
    have threshold : app.health.unhealthyThreshold = 3 :=
      (takesOver_lifespan started).2.unhealthyThreshold
    have continued (before : List AppMove) :
        run (Rotation.step process) { app } (earlier ++ move :: before) =
          run (Rotation.step process) (run (Rotation.step process) { app } (earlier ++ [move]))
            before := by
      rw [← run_append, List.append_assoc]
      rfl
    rcases Option.isSome_iff_exists.mp (tracked stretch [] (List.append_nil _).symm) with
      ⟨found, kept⟩
    have regarded : found.healthy = true := by
      have selects := everywhere (earlier ++ move :: stretch) later split tier model selected
      rw [same] at selects
      exact selects.1 found kept
    rw [continued] at kept
    have counted := @failures_run process modelId stretch
      (run (Rotation.step process) { app } (earlier ++ [move])) 0
      (fun _ _ _ => ⟨Nat.zero_le _, .inl rfl⟩)
      (by
        intro before after inside
        rw [← continued]
        exact tracked before after inside)
      unpassed (by rw [frame.1]; exact registered) found kept regarded
    rw [frame.2] at counted
    change _ ∧ (_ ∨ ¬ app.health.unhealthyThreshold ≤ _) at counted
    rw [threshold] at counted reached
    omega

theorem keepsRotation_iff_oneModel :
    GatewayApp.lifespan bareProcess {} 0 oneModelFile = .ok oneModelApp ∧
      (KeepsRotation bareProcess oneModelApp [.admin 5 oneModelFile .reload] ↔
        Allowed (Rotation.step bareProcess) (fun state move => state.Permits bareProcess move)
          { app := oneModelApp } [.admin 5 oneModelFile .reload]) :=
  ⟨rfl, @keepsRotation_iff bareProcess {} 0 oneModelFile oneModelApp rfl _⟩

def failingChecks : List AppMove := List.replicate 3 (.healthChecked "local" false 5000)

theorem not_keepsRotation {moves : List AppMove}
    (selected : { id := "local" } ∈
      (run (Rotation.step bareProcess) { app := oneModelApp } moves).app.config.getModelsForTier
        "mid")
    (refused : (((run (Rotation.step bareProcess) { app := oneModelApp } moves).app.health.get?
        "local").any fun state => !state.healthy) = true ∨
      "local" ∈ (run (Rotation.step bareProcess) { app := oneModelApp } moves).disabled) :
    ¬ KeepsRotation bareProcess oneModelApp moves := by
  intro keeps
  rcases keeps.rightly moves [] (List.append_nil _).symm "mid" _ selected with ⟨states, free⟩
  rcases refused with unhealthy | disabled
  · rw [Option.any_eq_true] at unhealthy
    rcases unhealthy with ⟨state, found, regarded⟩
    rw [states state found] at regarded
    cases regarded
  · exact free disabled

/-- A reload brings an unhealthy model back, which stays selected through as many failing
checks as excluded it before; it also brings a disabled model back, and a model that is enabled
again is selected before it is checked. -/
theorem reload_restores_models :
    GatewayApp.lifespan bareProcess {} 0 oneModelFile = .ok oneModelApp ∧
      ¬ KeepsRotation bareProcess oneModelApp (failingChecks ++ [.admin 5 oneModelFile .reload]) ∧
      ¬ KeepsRotation bareProcess oneModelApp
        (failingChecks ++ .admin 5 oneModelFile .reload :: failingChecks) ∧
      ¬ KeepsRotation bareProcess oneModelApp
        [.admin 1 oneModelFile (.disableModel "local"), .admin 5 oneModelFile .reload] ∧
      ¬ KeepsRotation bareProcess oneModelApp
        [.admin 1 oneModelFile (.disableModel "local"), .enableModel "local"] := by
  refine ⟨rfl, ?_, ?_, ?_, ?_⟩
  · exact not_keepsRotation (by decide) (.inl (by decide))
  · intro keeps
    have tracked : ∀ before ∈ failingChecks.inits,
        ((run (Rotation.step bareProcess) { app := oneModelApp }
          (failingChecks ++ .admin 5 oneModelFile .reload :: before)).app.health.get?
            "local").isSome = true := by
      decide
    have excluded := keeps.excluded failingChecks (.admin 5 oneModelFile .reload) failingChecks []
      "local" rfl (by decide)
      (fun before after split => tracked before ((List.mem_inits _ _).mpr ⟨after, split.symm⟩))
      (by
        intro elapsedMs member
        cases (List.mem_replicate.mp member).2)
      (by decide) (by decide) "mid" { id := "local" } (by decide)
    exact excluded rfl
  · exact not_keepsRotation (by decide) (.inr (by decide))
  · exact not_keepsRotation (by decide) (.inl (by decide))

end Onpremai.Gateway
