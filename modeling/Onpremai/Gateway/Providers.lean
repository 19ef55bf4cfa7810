import Onpremai.Gateway.Health

/-!
# Provider adapters

An adapter is built from a model configuration: it keeps the provider, the endpoint, the key
and the limits that its requests are sent with.  The registry holds one adapter for each
model.
-/

namespace Onpremai.Gateway

open Onpremai.Library

/-- The settings that adapters are built with. -/
structure GatewaySettings where
  awsRegion : String := "us-east-1"
  anthropicApiKey : String := ""
  openaiApiKey : String := ""

/-- The interfaces of the providers. -/
inductive AdapterKind where
  | bedrock (region : String)
  | anthropic
  | openaiCompat
  deriving DecidableEq, Repr

/-- What an adapter sends its requests with. -/
structure ProviderAdapter where
  kind : AdapterKind
  modelId : String
  providerName : String
  modelName : String
  endpoint : String
  apiKey : String
  timeoutMs : Int
  deriving DecidableEq, Repr

section

variable (settings : GatewaySettings)

def withDefaultKey (model : ModelConfig) : ModelConfig :=
  if model.apiKey ≠ "" then model
  else if Text.lower model.provider = "anthropic" then
    { model with apiKey := settings.anthropicApiKey }
  else if Text.lower model.provider = "openai" then
    { model with apiKey := settings.openaiApiKey }
  else model

def adapterKind (provider : String) : AdapterKind :=
  if provider = "bedrock" then .bedrock settings.awsRegion
  else if provider = "anthropic" then .anthropic
  else .openaiCompat

def createProviderAdapter (model : ModelConfig) : ProviderAdapter where
  kind := adapterKind settings (Text.lower model.provider)
  modelId := model.id
  providerName := model.provider
  modelName := model.model
  endpoint := model.endpoint
  apiKey := (withDefaultKey settings model).apiKey
  timeoutMs := model.timeoutMs

def registerAll (config : RoutingConfig) : Dict String ProviderAdapter :=
  config.positions.foldl (fun registry position =>
    registry.set position.2.id (createProviderAdapter settings position.2)) .empty

def withDefaultKeys (config : RoutingConfig) : RoutingConfig :=
  { config with tiers := config.tiers.mapEntries fun _ models =>
      models.map (withDefaultKey settings) }

variable {settings}

theorem withDefaultKey_withDefaultKey (model : ModelConfig) :
    withDefaultKey settings (withDefaultKey settings model) = withDefaultKey settings model := by
  by_cases given : model.apiKey ≠ ""
  · have kept : withDefaultKey settings model = model := if_pos given
    rw [kept, kept]
  · rw [withDefaultKey.eq_def settings model, if_neg given]
    split
    · next anthropic =>
      rw [withDefaultKey]
      simp [anthropic]
    · next other =>
      split
      · next openai =>
        rw [withDefaultKey]
        simp [openai]
      · next neither =>
        rw [withDefaultKey, if_neg given, if_neg other, if_neg neither]

theorem withDefaultKey_eq (model : ModelConfig) : withDefaultKey settings model =
      { model with apiKey := (withDefaultKey settings model).apiKey } := by
  rw [withDefaultKey]
  split
  · rfl
  · split
    · rfl
    · split
      · rfl
      · rfl

theorem modelAt_withDefaultKeys (config : RoutingConfig) (ref : ModelRef) :
    (withDefaultKeys settings config).modelAt ref =
      (config.modelAt ref).map (withDefaultKey settings) := by
  rw [RoutingConfig.modelAt, RoutingConfig.modelAt, withDefaultKeys, Dict.get?_mapEntries]
  cases config.tiers.get? ref.tier with
  | none => rfl
  | some models => exact List.getElem?_map

theorem createProviderAdapter_withDefaultKey (model : ModelConfig) :
    createProviderAdapter settings (withDefaultKey settings model) =
      createProviderAdapter settings model := by
  rw [createProviderAdapter, withDefaultKey_withDefaultKey, withDefaultKey_eq]
  rfl

theorem createProviderAdapter_flags (model : ModelConfig) (healthy enabled : Bool) :
    createProviderAdapter settings { model with healthy, enabled } =
      createProviderAdapter settings model := by
  have key : (withDefaultKey settings { model with healthy, enabled }).apiKey =
      (withDefaultKey settings model).apiKey := by
    simp only [withDefaultKey]
    split
    · rfl
    · split
      · rfl
      · split
        · rfl
        · rfl
  rw [createProviderAdapter, key]
  rfl

theorem get?_foldl_register (positions : List (ModelRef × ModelConfig))
    (registry : Dict String ProviderAdapter) (modelId : String) :
    (positions.foldl (fun registry position =>
      registry.set position.2.id (createProviderAdapter settings position.2))
        registry).get? modelId =
      (positions.reverse.find? fun position => decide (position.2.id = modelId)).elim
        (registry.get? modelId) fun position =>
          some (createProviderAdapter settings position.2) := by
  induction positions generalizing registry with
  | nil => rfl
  | cons position rest ih =>
    rw [List.foldl_cons, ih, List.reverse_cons, List.find?_append, Dict.get?_set]
    cases rest.reverse.find? fun position => decide (position.2.id = modelId) with
    | some later => rfl
    | none =>
      by_cases same : position.2.id = modelId
      · simp [same]
      · simp [same]

section

variable (config : RoutingConfig)

theorem get?_registerAll (modelId : String) : (registerAll settings config).get? modelId =
      (config.lastPosition modelId).map fun position =>
        createProviderAdapter settings position.2 := by
  rw [registerAll, get?_foldl_register, RoutingConfig.lastPosition]
  cases config.positions.reverse.find? fun position => decide (position.2.id = modelId) with
  | none => rfl
  | some position => rfl

theorem positions_withDefaultKeys : (withDefaultKeys settings config).positions =
      config.positions.map fun position => (position.1, withDefaultKey settings position.2) := by
  rw [RoutingConfig.positions, RoutingConfig.positions, withDefaultKeys, Dict.mapEntries,
    List.flatMap_map, List.map_flatMap]
  congr 1
  funext entry
  rw [List.zipIdx_map, List.map_map, List.map_map]
  rfl

theorem registerAll_withDefaultKeys :
    registerAll settings (withDefaultKeys settings config) = registerAll settings config := by
  rw [registerAll, registerAll, positions_withDefaultKeys, List.foldl_map]
  congr 1
  funext registry position
  rw [createProviderAdapter_withDefaultKey, withDefaultKey_eq]

end

end

end Onpremai.Gateway
