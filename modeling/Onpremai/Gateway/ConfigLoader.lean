import Onpremai.Gateway.Models
import Onpremai.Library.Except

/-!
# Configuration loader

The routing configuration is read from a YAML file, whose references to environment
variables are expanded before it is validated.  An update merges its sections, one level
deep, into what the file holds.
-/

namespace Onpremai.Gateway

open Onpremai.Library Onpremai.Library.Python

/-- What the loader takes from its process: the environment variables, empty when they are
not set, and the reader of floating-point numbers that validation uses. -/
structure Process where
  environ : String → String
  floatOfString : String → Option Rat

/-- The configuration file as the loader finds it: a YAML document, read as a JSON value,
or a text that cannot be read. -/
inductive ConfigFile where
  | missing
  | unreadable (error : String)
  | holds (document : Json)

section

variable (process : Process)

/-- Expand the references to variables in a text.  The name of a reference is collected
until its brace closes; a reference that stays open is left as it is. -/
def expandChars : Option (List Char) → List Char → List Char
  | none, [] => []
  | none, '$' :: '\x7b' :: rest => expandChars (some []) rest
  | none, char :: rest => char :: expandChars none rest
  | some name, [] => '$' :: '\x7b' :: name
  | some name, '\x7d' :: rest =>
    (process.environ (String.ofList name)).toList ++ expandChars none rest
  | some name, char :: rest => expandChars (some (name ++ [char])) rest

def expandEnvVars (text : String) : String := String.ofList (expandChars process none text.toList)

mutual

def processDictEnvVars : Json → Json
  | .null => .null
  | .bool value => .bool value
  | .num value => .num value
  | .str text => .str (expandEnvVars process text)
  | .arr items => .arr (processItems items)
  | .obj fields => .obj (processFields fields)

def processItems : List Json → List Json
  | [] => []
  | item :: rest => processDictEnvVars item :: processItems rest

def processFields : List (String × Json) → List (String × Json)
  | [] => []
  | entry :: rest => (entry.1, processDictEnvVars entry.2) :: processFields rest

end

/-! ## Validation -/

/-- `value.items()`; only a dictionary has the method. -/
def itemsOf : Json → Except String (List (String × Json))
  | .obj fields => .ok fields
  | _ => .error "object has no attribute 'items'"

def isDict : Json → Bool
  | .obj _ => true
  | _ => false

def boolField : Json → Except String Bool
  | .bool value => .ok value
  | .num value =>
    if value = 0 then .ok false
    else if value = 1 then .ok true
    else .error "Input should be a valid boolean"
  | .str text =>
    if Text.lower text ∈ ["0", "off", "f", "false", "n", "no"] then .ok false
    else if Text.lower text ∈ ["1", "on", "t", "true", "y", "yes"] then .ok true
    else .error "Input should be a valid boolean"
  | _ => .error "Input should be a valid boolean"

def floatField : Json → Except String Rat
  | .num value => .ok value
  | .bool value => .ok (if value then 1 else 0)
  | .str text =>
    match process.floatOfString text with
    | some value => .ok value
    | none => .error "Input should be a valid number"
  | _ => .error "Input should be a valid number"

def atLeast (bound : Int) (value : Json) : Except String Nat := do
  let value ← intField value
  if bound ≤ value then .ok value.toNat
  else .error "Input should be greater than or equal to the bound"

def dictField {α : Type} (read : Json → Except String α) : Json → Except String (Dict String α)
  | .obj fields => do
    let entries ← fields.mapM fun entry => do
      let value ← read entry.2
      return (entry.1, value)
    return .ofFields entries
  | _ => .error "Input should be a valid dictionary"

def listField {α : Type} (read : Json → Except String α) : Json → Except String (List α)
  | .arr items => items.mapM read
  | _ => .error "Input should be a valid list"

def parseModelConfig (raw : Json) : Except String ModelConfig := do
  let id ← getOr "id" (.str "") raw >>= textField
  let provider ← getOr "provider" (.str "") raw >>= textField
  let model ← getOr "model" (.str "") raw >>= textField
  let endpoint ← getOr "endpoint" (.str "") raw >>= textField
  let apiKey ← getOr "api_key" (.str "") raw >>= textField
  let maxTokens ← getOr "max_tokens" (.num 4096) raw >>= intField
  let timeoutMs ← getOr "timeout_ms" (.num 60000) raw >>= intField
  return { id, provider, model, endpoint, apiKey, maxTokens, timeoutMs }

def parseTierConfig (raw : Json) : Except String (List ModelConfig) := do
  let models ← getOr "models" (.arr []) raw >>= iterated
  models.mapM parseModelConfig

def parseTiers (raw : Json) : Except String (Dict String (List ModelConfig)) := do
  let entries ← itemsOf raw
  let tiers ← (entries.filter fun entry => isDict entry.2).mapM fun entry => do
    let models ← parseTierConfig entry.2
    return (entry.1, models)
  return .ofFields tiers

def parseCanary (raw : Json) : Except String CanaryConfig := do
  let model ← getOr "model" (.str "") raw >>= textField
  let trafficPct ← getOr "traffic_pct" (.num 20) raw >>= atLeast 1
  let minSamples ← getOr "min_samples" (.num 30) raw >>= atLeast 1
  let minDurationHours ← getOr "min_duration_hours" (.num 4) raw >>= atLeast 1
  if trafficPct ≤ 100 then return { model, trafficPct, minSamples, minDurationHours }
  else .error "Input should be less than or equal to 100"

def parseCanaryConfig (raw : Json) : Except String (Dict String CanaryConfig) := do
  let entries ← itemsOf raw
  let canary ← (entries.filter fun entry => isDict entry.2).mapM fun entry => do
    let config ← parseCanary entry.2
    return (entry.1, config)
  return .ofFields canary

def parseEscalation (raw : Json) : Except String EscalationConfig := do
  let enabled ← getOr "enabled" (.bool true) raw >>= boolField
  let maxEscalations ← getOr "max_escalations" (.num 2) raw >>= intField
  let path ← getOr "path" (Json.strings ["fast", "mid", "strong"]) raw >>= listField textField
  return { enabled, maxEscalations, path }

/-- Validate the embedding section, which routing does not use. -/
def checkEmbedding (raw : Json) : Except String Unit := do
  let model ← getOr "model" (.obj []) raw
  let _ ← getOr "provider" (.str "ollama") model >>= textField
  let _ ← getOr "model" (.str "nomic-embed-text") model >>= textField
  let _ ← getOr "endpoint" (.str "http://ollama:11434") model >>= textField
  return ()

def parseCost (raw : Json) : Except String CostConfig := do
  let _ ← getOr "max_per_request_usd" (.num 1) raw >>= floatField process
  let maxPerTenantPerDayUsd ←
    getOr "max_per_tenant_per_day_usd" (.num 50) raw >>= floatField process
  return { maxPerTenantPerDayUsd }

def routeValue : Json → RouteValue
  | .str name => .tier name
  | .obj fields =>
    let tier := (Json.field? "tier" fields).map fun value =>
      match value with
      | .str name => name
      | _ => ""
    match Json.field? "model" fields with
    | some (.str model) => .choice (some model) tier
    | some value => if truthy value then .other else .choice none tier
    | none => .choice none tier
  | _ => .other

/-- The routes of an agent or a tenant. -/
def readRoutes : Json → Except String (Dict String RouteValue) :=
  dictField fun value => .ok (routeValue value)

def parseRoutingConfig (rawData : Json) : Except String RoutingConfig := do
  let tiers ← getOr "tiers" (.obj []) rawData >>= parseTiers
  let escalation ← getOr "escalation" (.obj []) rawData >>= parseEscalation
  let _ ← getOr "embedding" (.obj []) rawData >>= checkEmbedding
  let cost ← getOr "cost" (.obj []) rawData >>= parseCost process
  let canary ← getOr "canary" (.obj []) rawData >>= parseCanaryConfig
  let taskRouting ← getOr "task_routing" (.obj []) rawData >>= dictField textField
  let agentRouting ← getOr "agent_routing" (.obj []) rawData >>= dictField readRoutes
  let tenantRouting ← getOr "tenant_routing" (.obj []) rawData >>= dictField readRoutes
  let _ ← getOr "rate_limits" (.obj []) rawData >>= dictField fun value => .ok value
  return { tiers, taskRouting, agentRouting, tenantRouting, escalation, cost, canary }

/-- Configuration and time of the last load. -/
structure ConfigLoader where
  config : RoutingConfig := {}
  lastLoadTime : Rat := 0

/-- `yaml.safe_load(raw_text) or {}`. -/
def orEmpty (document : Json) : Json :=
  if truthy document then document else .obj []

/-- Load the configuration.  A new one is handed to the callbacks; without a file the
current one stays, and nobody is told. -/
def load (now : Rat) (loader : ConfigLoader) :
    ConfigFile → Except String (ConfigLoader × Option RoutingConfig)
  | .missing => .ok (loader, none)
  | .unreadable error => .error error
  | .holds document => do
    let config ← parseRoutingConfig process (processDictEnvVars process (orEmpty document))
    return ({ config, lastLoadTime := now }, some config)

/-- Force a reload; on a failure the current configuration stays. -/
def reload (now : Rat) (loader : ConfigLoader) (file : ConfigFile) :
    ConfigLoader × Option RoutingConfig :=
  match load process now loader file with
  | .ok loaded => loaded
  | .error _ => (loader, none)

def onFileChanged (now : Rat) (loader : ConfigLoader) (file : ConfigFile) :
    ConfigLoader × Option RoutingConfig :=
  if now - loader.lastLoadTime < 1 then (loader, none) else reload process now loader file

def mergeSection (rawData : List (String × Json)) (update : String × Json) : List (String × Json) :=
  match Json.field? update.1 rawData, update.2 with
  | some (.obj current), .obj values =>
    Dict.setEntry update.1
      (.obj (values.foldl (fun acc entry => Dict.setEntry entry.1 entry.2 acc) current)) rawData
  | _, value => Dict.setEntry update.1 value rawData

def mergeUpdates (rawData : Json) (updates : List (String × Json)) : Except String Json :=
  match rawData with
  | .obj fields => .ok (.obj (updates.foldl mergeSection fields))
  | _ => .error "object does not support item assignment"

/-- What an update is merged into: the content of the file. -/
def mergeBase : ConfigFile → Except String Json
  | .missing => .ok (.obj [])
  | .unreadable error => .error error
  | .holds document => .ok (orEmpty document)

def updateRouting (now : Rat) (file : ConfigFile) (updates : List (String × Json)) :
    Except String ConfigLoader := do
  let rawData ← mergeBase file
  let merged ← mergeUpdates rawData updates
  let config ← parseRoutingConfig process (processDictEnvVars process merged)
  return { config, lastLoadTime := now }

end

/-- Request body of the routing update. -/
structure RoutingUpdateRequest where
  taskRouting : Option (Dict String String) := none
  agentRouting : Option (Dict String Json) := none
  tenantRouting : Option (Dict String Json) := none

namespace RoutingUpdateRequest

def updates (body : RoutingUpdateRequest) : List (String × Json) :=
  let given (key : String) (routes : Option (List (String × Json))) :=
    (routes.map fun entries => (key, Json.obj entries)).toList
  given "task_routing"
      (body.taskRouting.map fun routes => routes.entries.map fun entry => (entry.1, .str entry.2)) ++
    given "agent_routing" (body.agentRouting.map Dict.entries) ++
    given "tenant_routing" (body.tenantRouting.map Dict.entries)

end RoutingUpdateRequest

/-- What an admin request is answered with. -/
inductive AdminReply where
  | answered (body : Json)
  | failed (status : Nat) (detail : String)

/-- The request was carried out. -/
def AdminReply.acknowledged : AdminReply → Bool
  | .answered _ => true
  | .failed _ _ => false

def updateRoutingRoute (process : Process) (now : Rat) (file : ConfigFile)
    (loader : ConfigLoader) (body : RoutingUpdateRequest) : ConfigLoader × AdminReply :=
  if body.updates.isEmpty then (loader, .failed 400 "No routing updates provided")
  else
    match updateRouting process now file body.updates with
    | .ok updated =>
      (updated, .answered (.obj
        [("status", .str "applied"), ("updates", Json.strings (body.updates.map Prod.fst))]))
    | .error _ => (loader, .failed 500 "Internal Server Error")

end Onpremai.Gateway
