import Onpremai.Gateway.Models

/-!
# Health manager

The manager keeps a state for every model and a reference to the model's configuration,
whose flags the router reads.  A configuration object is told by its place: the tier that
lists it, and its index there.
-/

namespace Onpremai.Gateway

open Onpremai.Library

/-- The place of a model configuration. -/
structure ModelRef where
  tier : String
  index : Nat
  deriving DecidableEq, Repr

namespace RoutingConfig

variable (config : RoutingConfig)

def positions : List (ModelRef × ModelConfig) :=
  config.tiers.entries.flatMap fun entry =>
    entry.2.zipIdx.map fun model => ({ tier := entry.1, index := model.2 }, model.1)

def modelAt (ref : ModelRef) : Option ModelConfig :=
  (config.tiers.get? ref.tier).bind fun models => models[ref.index]?

def modifyAt (ref : ModelRef) (change : ModelConfig → ModelConfig) : RoutingConfig :=
  { config with
    tiers := config.tiers.mapEntries fun tier models =>
      if tier = ref.tier then models.modify ref.index change else models }

def lastPosition (modelId : String) : Option (ModelRef × ModelConfig) :=
  config.positions.reverse.find? fun position => decide (position.2.id = modelId)

variable {config}

theorem mem_positions_iff {ref : ModelRef} {model : ModelConfig} :
    (ref, model) ∈ config.positions ↔ config.modelAt ref = some model := by
  rw [positions, List.mem_flatMap, modelAt, Option.bind_eq_some_iff]
  constructor
  · intro member
    rcases member with ⟨entry, inside, listed⟩
    rcases List.mem_map.mp listed with ⟨indexed, found, made⟩
    cases made
    exact ⟨entry.2, (config.tiers.mem_entries_iff entry.1 entry.2).mp inside,
      List.mem_zipIdx_iff_getElem?.mp found⟩
  · intro found
    rcases found with ⟨models, stored, at_⟩
    refine ⟨(ref.tier, models), (config.tiers.mem_entries_iff _ _).mpr stored, ?_⟩
    exact List.mem_map.mpr ⟨(model, ref.index), List.mem_zipIdx_iff_getElem?.mpr at_, rfl⟩

theorem mem_getModelsForTier_iff {tier : String} {model : ModelConfig} :
    model ∈ config.getModelsForTier tier ↔ (∃ index, config.modelAt { tier, index } = some model) ∧
        model.healthy = true ∧ model.enabled = true := by
  rw [getModelsForTier]
  simp only [modelAt]
  cases config.tiers.get? tier with
  | none => simp
  | some models =>
    rw [List.mem_filter, Bool.and_eq_true, List.mem_iff_getElem?]
    rfl

@[simp] theorem modelAt_modifyAt (ref other : ModelRef) (change : ModelConfig → ModelConfig) :
    (config.modifyAt ref change).modelAt other =
      if other = ref then (config.modelAt other).map change else config.modelAt other := by
  rw [modifyAt, modelAt, modelAt, Dict.get?_mapEntries]
  cases config.tiers.get? other.tier with
  | none => simp
  | some models =>
    rw [Option.map_some, Option.bind_some, Option.bind_some]
    split
    · next sameTier =>
      rw [List.getElem?_modify]
      split
      · next sameIndex =>
        have same : other = ref := by
          cases other
          cases ref
          cases sameTier
          cases sameIndex
          rfl
        rw [if_pos same]
        rfl
      · next otherIndex =>
        have differ : other ≠ ref := by
          intro same
          exact otherIndex (congrArg ModelRef.index same).symm
        rw [if_neg differ]
        simp
    · next otherTier =>
      have differ : other ≠ ref := by
        intro same
        exact otherTier (congrArg ModelRef.tier same)
      rw [if_neg differ]

theorem zipIdx_modify (models : List ModelConfig) (index : Nat)
    (change : ModelConfig → ModelConfig) :
    (models.modify index change).zipIdx =
      models.zipIdx.map fun model =>
        (if model.2 = index then change model.1 else model.1, model.2) := by
  apply List.ext_getElem?
  intro place
  rw [List.getElem?_zipIdx, List.getElem?_modify, List.getElem?_map, List.getElem?_zipIdx]
  cases models[place]? with
  | none => simp
  | some model =>
    by_cases same : index = place
    · simp [same]
    · simp [same, Ne.symm same]

theorem positions_modifyAt (ref : ModelRef) (change : ModelConfig → ModelConfig) :
    (config.modifyAt ref change).positions =
      config.positions.map fun position =>
        (position.1, if position.1 = ref then change position.2 else position.2) := by
  rw [positions, positions, modifyAt, Dict.mapEntries, List.flatMap_map, List.map_flatMap]
  congr 1
  funext entry
  split
  · next sameTier =>
    rw [zipIdx_modify, List.map_map, List.map_map]
    apply List.map_congr_left
    intro model _
    cases ref
    cases sameTier
    simp
  · next otherTier =>
    rw [List.map_map]
    apply List.map_congr_left
    intro model _
    have differ : ({ tier := entry.1, index := model.2 } : ModelRef) ≠ ref := by
      intro same
      exact otherTier (congrArg ModelRef.tier same)
    simp [differ]

theorem modelAt_of_lastPosition {modelId : String} {ref : ModelRef} {model : ModelConfig}
    (last : config.lastPosition modelId = some (ref, model)) :
    config.modelAt ref = some model ∧ model.id = modelId := by
  constructor
  · exact mem_positions_iff.mp (List.mem_reverse.mp (List.mem_of_find?_eq_some last))
  · simpa using List.find?_some last

theorem exists_lastPosition {ref : ModelRef} {model : ModelConfig}
    (listed : config.modelAt ref = some model) :
    ∃ last, config.lastPosition model.id = some last := by
  cases last : config.lastPosition model.id with
  | some position => exact ⟨position, rfl⟩
  | none =>
    have absent := List.find?_eq_none.mp last (ref, model)
      (List.mem_reverse.mpr (mem_positions_iff.mpr listed))
    simp at absent

theorem lastRef_modifyAt (ref : ModelRef) {change : ModelConfig → ModelConfig}
    (sameId : ∀ model, (change model).id = model.id) (modelId : String) :
    ((config.modifyAt ref change).lastPosition modelId).map Prod.fst =
      (config.lastPosition modelId).map Prod.fst := by
  rw [lastPosition, lastPosition, positions_modifyAt, ← List.map_reverse, List.find?_map,
    Option.map_map]
  have sameTest : ((fun position : ModelRef × ModelConfig => decide (position.2.id = modelId)) ∘
      fun position : ModelRef × ModelConfig =>
        (position.1, if position.1 = ref then change position.2 else position.2)) =
      fun position => decide (position.2.id = modelId) := by
    funext position
    rw [Function.comp_apply]
    dsimp only
    split
    · rw [sameId]
    · rfl
  rw [sameTest]
  rfl

end RoutingConfig

/-- State tracking for one model. -/
structure ModelState where
  modelConfig : ModelRef
  healthy : Bool := true
  lastCheckMs : Int := 0
  consecutiveFailures : Nat := 0
  consecutiveSuccesses : Nat := 0
  deriving DecidableEq, Repr

/-- Model states, and how many checks in a row change them. -/
structure HealthManager where
  unhealthyThreshold : Int := 3
  healthyThreshold : Int := 1
  modelStates : Dict String ModelState := .empty

namespace HealthManager

variable (manager : HealthManager)

def get? (modelId : String) : Option ModelState := manager.modelStates.get? modelId

def put (modelId : String) (state : ModelState) : HealthManager :=
  { manager with modelStates := manager.modelStates.set modelId state }

/-- A state that refers to a place: a new one, or the one that is kept. -/
def tracked (ref : ModelRef) : Option ModelState → ModelState
  | none => { modelConfig := ref }
  | some state => { state with modelConfig := ref }

def track (position : ModelRef × ModelConfig) : HealthManager :=
  manager.put position.2.id (tracked position.1 (manager.get? position.2.id))

def updateFromConfig (config : RoutingConfig) : HealthManager :=
  let manager := config.positions.foldl track manager
  { manager with
    modelStates := manager.modelStates.restrict fun modelId =>
      decide (modelId ∈ config.positions.map fun position => position.2.id) }

variable (config : RoutingConfig)

/-- After a successful check: enough of them in a row turn an unhealthy model. -/
def afterSuccess (modelId : String) (state : ModelState) : RoutingConfig × HealthManager :=
  if state.healthy = false ∧ manager.healthyThreshold ≤ state.consecutiveSuccesses then
    (config.modifyAt state.modelConfig fun model => { model with healthy := true },
      manager.put modelId { state with healthy := true })
  else (config, manager.put modelId state)

def afterFailing (modelId : String) (state : ModelState) : RoutingConfig × HealthManager :=
  if state.healthy = true ∧ manager.unhealthyThreshold ≤ state.consecutiveFailures then
    (config.modifyAt state.modelConfig fun model => { model with healthy := false },
      manager.put modelId { state with healthy := false })
  else (config, manager.put modelId state)

def checkSingleModel (modelId : String) (healthy : Bool) (elapsedMs : Int) :
    RoutingConfig × HealthManager :=
  match manager.get? modelId with
  | none => (config, manager)
  | some state =>
    if healthy then
      manager.afterSuccess config modelId
        { state with
          lastCheckMs := elapsedMs
          consecutiveFailures := 0
          consecutiveSuccesses := state.consecutiveSuccesses + 1 }
    else
      manager.afterFailing config modelId
        { state with
          lastCheckMs := elapsedMs
          consecutiveSuccesses := 0
          consecutiveFailures := state.consecutiveFailures + 1 }

def disableModel (modelId : String) : Option (RoutingConfig × HealthManager) :=
  (manager.get? modelId).map fun state =>
    (config.modifyAt state.modelConfig fun model => { model with enabled := false },
      manager.put modelId { state with healthy := false })

def enableModel (modelId : String) : Option (RoutingConfig × HealthManager) :=
  (manager.get? modelId).map fun state =>
    (config.modifyAt state.modelConfig fun model => { model with enabled := true }, manager)

@[simp] theorem get?_put (modelId other : String) (state : ModelState) :
    (manager.put modelId state).get? other =
      if modelId = other then some state else manager.get? other :=
  Dict.get?_set _ _ _ _

theorem get?_foldl_track (positions : List (ModelRef × ModelConfig)) (manager : HealthManager)
    (modelId : String) :
    (positions.foldl track manager).get? modelId =
      (positions.reverse.find? fun position => decide (position.2.id = modelId)).elim
        (manager.get? modelId) fun position =>
          some (tracked position.1 (manager.get? modelId)) := by
  induction positions generalizing manager with
  | nil => rfl
  | cons position rest ih =>
    rw [List.foldl_cons, ih, List.reverse_cons, List.find?_append, track, get?_put]
    cases rest.reverse.find? fun position => decide (position.2.id = modelId) with
    | some later =>
      by_cases same : position.2.id = modelId
      · simp only [same, if_true, Option.elim_some, Option.some_or]
        cases manager.get? modelId with
        | none => rfl
        | some state => rfl
      · simp only [same, if_false, Option.elim_some, Option.some_or]
    | none =>
      by_cases same : position.2.id = modelId
      · simp [same]
      · simp [same]

theorem get?_updateFromConfig (modelId : String) : (manager.updateFromConfig config).get? modelId =
      (config.lastPosition modelId).map fun position =>
        tracked position.1 (manager.get? modelId) := by
  rw [updateFromConfig, get?, Dict.get?_restrict]
  have folded := get?_foldl_track config.positions manager modelId
  rw [get?] at folded
  rw [folded]
  change _ = (config.positions.reverse.find? _).map _
  cases last : config.positions.reverse.find? fun position =>
      decide (position.2.id = modelId) with
  | some position =>
    have member := List.mem_reverse.mp (List.mem_of_find?_eq_some last)
    have same : position.2.id = modelId := by simpa using List.find?_some last
    have present : decide (modelId ∈ config.positions.map fun position =>
        position.2.id) = true := by
      rw [decide_eq_true_iff, List.mem_map]
      exact ⟨position, member, same⟩
    rw [present]
    rfl
  | none =>
    have absent : decide (modelId ∈ config.positions.map fun position =>
        position.2.id) = false := by
      rw [decide_eq_false_iff_not, List.mem_map]
      intro present
      rcases present with ⟨position, member, same⟩
      have none := List.find?_eq_none.mp last position (List.mem_reverse.mpr member)
      simp [same] at none
    rw [absent]
    rfl

theorem checkSingleModel_cases {modelId : String} {found : ModelState}
    (tracked : manager.get? modelId = some found) (healthy : Bool) (elapsedMs : Int) :
    ∃ newState, newState.modelConfig = found.modelConfig ∧
      newState.consecutiveFailures = (if healthy then 0 else found.consecutiveFailures + 1) ∧
      ((manager.checkSingleModel config modelId healthy elapsedMs =
            (config, manager.put modelId newState) ∧
          newState.healthy = found.healthy ∧
          (healthy = false → found.healthy = true →
            ¬ manager.unhealthyThreshold ≤ found.consecutiveFailures + 1)) ∨
        (manager.checkSingleModel config modelId healthy elapsedMs =
            (config.modifyAt found.modelConfig fun model => { model with healthy },
              manager.put modelId newState) ∧
          newState.healthy = healthy ∧
          (healthy = false → found.healthy = true ∧
            manager.unhealthyThreshold ≤ found.consecutiveFailures + 1))) := by
  rw [checkSingleModel, tracked]
  dsimp only
  cases healthy with
  | true =>
    rw [if_pos rfl, afterSuccess]
    by_cases turns : found.healthy = false ∧
        manager.healthyThreshold ≤ ((found.consecutiveSuccesses + 1 : Nat) : Int)
    · refine ⟨_, ?_, ?_, .inr ⟨if_pos turns, rfl, Bool.noConfusion⟩⟩
      · rfl
      · rfl
    · refine ⟨_, ?_, ?_, .inl ⟨if_neg turns, rfl, Bool.noConfusion⟩⟩
      · rfl
      · rfl
  | false =>
    rw [if_neg Bool.noConfusion, afterFailing]
    by_cases turns : found.healthy = true ∧
        manager.unhealthyThreshold ≤ ((found.consecutiveFailures + 1 : Nat) : Int)
    · refine ⟨_, ?_, ?_, .inr ⟨if_pos turns, rfl, fun _ => turns⟩⟩
      · rfl
      · rfl
    · refine ⟨_, ?_, ?_, .inl ⟨if_neg turns, rfl, ?_⟩⟩
      · rfl
      · rfl
      · intro _ regarded reached
        exact turns ⟨regarded, reached⟩

end HealthManager

end Onpremai.Gateway
