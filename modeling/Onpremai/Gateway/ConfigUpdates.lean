import Onpremai.Gateway.ConfigLoader
import Onpremai.Library.Machine

/-!
# Updates of the routing configuration

Updates should add up: each is merged into what the earlier ones left.  The loader merges each
into the file instead, so that the last update alone is in effect.
-/

namespace Onpremai.Gateway

open Onpremai.Library Onpremai.Library.Python

/-- The value of a section, empty when the data has none. -/
def rawSection (key : String) (fields : List (String × Json)) : Json :=
  (Json.field? key fields).getD (.obj [])

/-- The entries of a value that may be a dictionary. -/
def entriesOf : Option Json → List (String × Json)
  | some (.obj entries) => entries
  | _ => []

/-- A section of the configuration that an update may change. -/
inductive RoutingSection where
  | task
  | agent
  | tenant
  deriving DecidableEq

/-- The name of the section in the file. -/
def RoutingSection.key : RoutingSection → String
  | .task => "task_routing"
  | .agent => "agent_routing"
  | .tenant => "tenant_routing"

def rawRoute (rawData : List (String × Json)) (routing : RoutingSection) (name : String) :
    Option Json :=
  Json.field? name (entriesOf (Json.field? routing.key rawData))

namespace RoutingUpdateRequest

variable (body : RoutingUpdateRequest)

def entries? : RoutingSection → Option (List (String × Json))
  | .task => body.taskRouting.map fun routes =>
    routes.entries.map fun entry => (entry.1, .str entry.2)
  | .agent => body.agentRouting.map Dict.entries
  | .tenant => body.tenantRouting.map Dict.entries

def route? (routing : RoutingSection) (name : String) : Option Json :=
  (body.entries? routing).bind (Json.field? name)

end RoutingUpdateRequest

def routeOf (process : Process) : RoutingSection → Option Json → String → Option RouteValue
  | .task, value, _ =>
    value.bind fun value =>
      (textField (processDictEnvVars process value)).toOption.map .tier
  | _, value, task =>
    value.bind fun value =>
      (readRoutes (processDictEnvVars process value)).toOption.bind fun routes =>
        routes.get? task

def RoutingConfig.routeAt (config : RoutingConfig) :
    RoutingSection → String → String → Option RouteValue
  | .task, name, _ => (config.taskRouting.get? name).map .tier
  | .agent, name, task => (config.agentRouting.get? name).bind fun routes => routes.get? task
  | .tenant, name, task => (config.tenantRouting.get? name).bind fun routes => routes.get? task

/-- Two configurations with the same effect. -/
structure SameConfig (first second : RoutingConfig) : Prop where
  tiers : first.tiers = second.tiers
  escalation : first.escalation = second.escalation
  cost : first.cost = second.cost
  canary : first.canary = second.canary
  routes : ∀ routing name task, first.routeAt routing name task = second.routeAt routing name task

section

variable {process : Process}

theorem processFields_eq_map (fields : List (String × Json)) : processFields process fields =
      fields.map fun entry => (entry.1, processDictEnvVars process entry.2) := by
  induction fields with
  | nil => rfl
  | cons entry rest ih => rw [processFields, ih, List.map_cons]

theorem field?_processFields (key : String) (fields : List (String × Json)) :
    Json.field? key (processFields process fields) =
      (Json.field? key fields).map (processDictEnvVars process) := by
  induction fields with
  | nil => rfl
  | cons entry rest ih =>
    rw [processFields, Json.field?, Json.field?, ih]
    split
    · rfl
    · rfl

variable {α : Type} {read : Json → Except String α}

theorem returns_dictField (fields : List (String × Json)) :
    Returns (dictField read (.obj fields)) ↔ ∀ entry ∈ fields, Returns (read entry.2) := by
  rw [dictField, returns_bind_pure, returns_mapM]
  apply forall_congr'
  intro entry
  rw [returns_bind_pure]

theorem findEntry_of_mapM {fields : List (String × Json)} {entries : List (String × α)}
    (ran : (fields.mapM fun entry => do
      let value ← read entry.2
      return (entry.1, value)) = .ok entries) (key : String) :
    Dict.findEntry key entries =
      (Json.field? key fields).bind fun value => (read value).toOption := by
  induction fields generalizing entries with
  | nil =>
    cases ran
    rfl
  | cons entry rest ih =>
    rw [List.mapM_cons, bind_eq_ok] at ran
    rcases ran with ⟨first, firstRan, restRan⟩
    rcases bind_eq_ok.mp restRan with ⟨others, othersRan, returned⟩
    rcases bind_eq_ok.mp firstRan with ⟨value, valueRan, made⟩
    cases returned
    cases made
    rw [Dict.findEntry, Json.field?, ih othersRan]
    split
    · simp [valueRan, Except.toOption]
    · rfl

theorem get?_dictField {fields : List (String × Json)} {dict : Dict String α}
    (ran : dictField read (.obj fields) = .ok dict) (key : String) :
    dict.get? key = (Json.field? key fields).bind fun value => (read value).toOption := by
  rw [dictField, bind_eq_ok] at ran
  rcases ran with ⟨entries, entriesRan, made⟩
  cases made
  rw [Dict.get?_ofFields, findEntry_of_mapM entriesRan]

/-- What the sections of the raw data are read as. -/
structure Parsed (process : Process) (fields : List (String × Json)) (config : RoutingConfig) :
    Prop where
  tiers : parseTiers (rawSection "tiers" fields) = .ok config.tiers
  escalation : parseEscalation (rawSection "escalation" fields) = .ok config.escalation
  embedding : Returns (checkEmbedding (rawSection "embedding" fields))
  cost : parseCost process (rawSection "cost" fields) = .ok config.cost
  canary : parseCanaryConfig (rawSection "canary" fields) = .ok config.canary
  taskRouting : dictField textField (rawSection "task_routing" fields) = .ok config.taskRouting
  agentRouting : dictField readRoutes (rawSection "agent_routing" fields) = .ok config.agentRouting
  tenantRouting :
    dictField readRoutes (rawSection "tenant_routing" fields) = .ok config.tenantRouting
  rateLimits : Returns (dictField (fun value => .ok value) (rawSection "rate_limits" fields))

theorem parseRoutingConfig_iff {fields : List (String × Json)} {config : RoutingConfig} :
    parseRoutingConfig process (.obj fields) = .ok config ↔ Parsed process fields config := by
  simp only [parseRoutingConfig, bind_eq_ok]
  constructor
  · rintro ⟨tiers, ⟨_, ⟨⟩, tiersRead⟩, escalation, ⟨_, ⟨⟩, escalationRead⟩, embedding,
      ⟨_, ⟨⟩, embeddingRead⟩, cost, ⟨_, ⟨⟩, costRead⟩, canary, ⟨_, ⟨⟩, canaryRead⟩, tasks,
      ⟨_, ⟨⟩, tasksRead⟩, agents, ⟨_, ⟨⟩, agentsRead⟩, tenants, ⟨_, ⟨⟩, tenantsRead⟩, limits,
      ⟨_, ⟨⟩, limitsRead⟩, made⟩
    cases made
    exact ⟨tiersRead, escalationRead, ⟨_, embeddingRead⟩, costRead, canaryRead, tasksRead,
      agentsRead, tenantsRead, ⟨_, limitsRead⟩⟩
  · intro parsed
    rcases parsed.embedding with ⟨embedding, embeddingRead⟩
    rcases parsed.rateLimits with ⟨limits, limitsRead⟩
    exact ⟨_, ⟨_, rfl, parsed.tiers⟩, _, ⟨_, rfl, parsed.escalation⟩, _,
      ⟨_, rfl, embeddingRead⟩, _, ⟨_, rfl, parsed.cost⟩, _, ⟨_, rfl, parsed.canary⟩, _,
      ⟨_, rfl, parsed.taskRouting⟩, _, ⟨_, rfl, parsed.agentRouting⟩, _,
      ⟨_, rfl, parsed.tenantRouting⟩, _, ⟨_, rfl, limitsRead⟩, rfl⟩

end

def mergedValue : Option Json → Json → Json
  | some (.obj current), .obj values =>
    .obj (values.foldl (fun acc entry => Dict.setEntry entry.1 entry.2 acc) current)
  | _, value => value

section

variable (rawData : List (String × Json)) (update : String × Json)

theorem mergeSection_eq : mergeSection rawData update =
      Dict.setEntry update.1 (mergedValue (Json.field? update.1 rawData) update.2) rawData := by
  rw [mergeSection]
  cases Json.field? update.1 rawData with
  | none => rfl
  | some value =>
    cases value with
    | obj current =>
      cases update.2 with
      | obj values => rfl
      | null => rfl
      | bool value => rfl
      | num value => rfl
      | str text => rfl
      | arr items => rfl
    | null => rfl
    | bool value => rfl
    | num value => rfl
    | str text => rfl
    | arr items => rfl

theorem field?_mergeSection (key : String) : Json.field? key (mergeSection rawData update) =
      if update.1 = key then some (mergedValue (Json.field? key rawData) update.2)
      else Json.field? key rawData := by
  rw [mergeSection_eq, Json.field?_setEntry]
  split
  · next same => rw [same]
  · rfl

end

theorem field?_mergedValue (found : Option Json) {values : List (String × Json)}
    (nodup : (values.map Prod.fst).Nodup) (name : String) :
    Json.field? name (entriesOf (some (mergedValue found (.obj values)))) =
      (Json.field? name values <|> Json.field? name (entriesOf found)) := by
  have alone : Json.field? name values = (Json.field? name values <|> none) := by
    cases Json.field? name values with
    | none => rfl
    | some value => rfl
  cases found with
  | none => exact alone
  | some value =>
    cases value with
    | obj current =>
      rw [mergedValue, entriesOf, entriesOf]
      simp only [Json.field?_eq_findEntry]
      exact Dict.findEntry_foldl_setEntry nodup current name
    | null => exact alone
    | bool value => exact alone
    | num value => exact alone
    | str text => exact alone
    | arr items => exact alone

namespace RoutingUpdateRequest

variable (body : RoutingUpdateRequest)

def merged (rawData : List (String × Json)) : List (String × Json) :=
  body.updates.foldl mergeSection rawData

theorem updates_eq : body.updates =
    [RoutingSection.task, .agent, .tenant].filterMap fun routing =>
      (body.entries? routing).map fun entries => (routing.key, Json.obj entries) := by
  rw [updates]
  simp only [List.filterMap_cons, List.filterMap_nil, entries?]
  cases body.taskRouting <;> cases body.agentRouting <;> cases body.tenantRouting <;> rfl

theorem entries?_nodup {routing : RoutingSection} {entries : List (String × Json)}
    (given : body.entries? routing = some entries) : (entries.map Prod.fst).Nodup := by
  cases routing with
  | task =>
    rcases Option.map_eq_some_iff.mp given with ⟨routes, -, rfl⟩
    rw [List.map_map]
    exact routes.nodupKeys
  | agent =>
    rcases Option.map_eq_some_iff.mp given with ⟨routes, -, rfl⟩
    exact routes.nodupKeys
  | tenant =>
    rcases Option.map_eq_some_iff.mp given with ⟨routes, -, rfl⟩
    exact routes.nodupKeys

theorem field?_foldl_mergeSection (key : String) {updates : List (String × Json)}
    (others : ∀ update ∈ updates, update.1 ≠ key) (rawData : List (String × Json)) :
    Json.field? key (updates.foldl mergeSection rawData) = Json.field? key rawData := by
  induction updates generalizing rawData with
  | nil => rfl
  | cons update rest ih =>
    rw [List.forall_mem_cons] at others
    rw [List.foldl_cons, ih others.2, field?_mergeSection, if_neg others.1]

theorem field?_merged_of_ne {key : String}
    (other : ∀ routing : RoutingSection, routing.key ≠ key) (rawData : List (String × Json)) :
    Json.field? key (body.merged rawData) = Json.field? key rawData := by
  rw [merged]
  apply field?_foldl_mergeSection
  intro update member
  rw [updates_eq, List.mem_filterMap] at member
  rcases member with ⟨routing, -, given⟩
  rcases Option.map_eq_some_iff.mp given with ⟨entries, -, rfl⟩
  exact other routing

section

variable (rawData : List (String × Json)) (routing : RoutingSection)

theorem field?_merged : Json.field? routing.key (body.merged rawData) =
      match body.entries? routing with
      | some entries => some (mergedValue (Json.field? routing.key rawData) (.obj entries))
      | none => Json.field? routing.key rawData := by
  rw [merged, updates_eq]
  simp only [List.filterMap_cons, List.filterMap_nil]
  cases routing with
  | task =>
    cases body.entries? .task <;> cases body.entries? .agent <;> cases body.entries? .tenant <;>
      simp [field?_mergeSection, RoutingSection.key]
  | agent =>
    cases body.entries? .task <;> cases body.entries? .agent <;> cases body.entries? .tenant <;>
      simp [field?_mergeSection, RoutingSection.key]
  | tenant =>
    cases body.entries? .task <;> cases body.entries? .agent <;> cases body.entries? .tenant <;>
      simp [field?_mergeSection, RoutingSection.key]

theorem rawRoute_merged (name : String) : rawRoute (body.merged rawData) routing name =
      (body.route? routing name <|> rawRoute rawData routing name) := by
  rw [rawRoute, rawRoute, field?_merged, route?]
  cases given : body.entries? routing with
  | none => rfl
  | some entries => exact field?_mergedValue _ (body.entries?_nodup given) name

end

end RoutingUpdateRequest

/-! ## What is accepted -/

section

variable {process : Process}

theorem rawSection_processFields (key : String) (rawData : List (String × Json)) :
    rawSection key (processFields process rawData) =
      processDictEnvVars process (rawSection key rawData) := by
  rw [rawSection, rawSection, field?_processFields]
  cases Json.field? key rawData with
  | none => rfl
  | some value => rfl

section

variable {α : Type} {read : Json → Except String α} {key : String} {rawData : List (String × Json)}

theorem get?_section {dict : Dict String α}
    (ran : dictField read (rawSection key (processFields process rawData)) = .ok dict)
    (name : String) :
    dict.get? name = (Json.field? name (entriesOf (Json.field? key rawData))).bind fun value =>
      (read (processDictEnvVars process value)).toOption := by
  rw [rawSection_processFields, rawSection] at ran
  cases found : Json.field? key rawData with
  | none =>
    rw [found] at ran
    exact get?_dictField ran name
  | some value =>
    rw [found] at ran
    cases value with
    | obj entries =>
      rw [Option.getD_some, processDictEnvVars] at ran
      rw [get?_dictField ran name, field?_processFields, Option.bind_map]
      rfl
    | null => cases ran
    | bool value => cases ran
    | num value => cases ran
    | str text => cases ran
    | arr items => cases ran

theorem returns_section :
    Returns (dictField read (rawSection key (processFields process rawData))) ↔
      (∀ value, Json.field? key rawData = some value → isDict value = true) ∧
        ∀ entry ∈ entriesOf (Json.field? key rawData),
          Returns (read (processDictEnvVars process entry.2)) := by
  rw [rawSection_processFields, rawSection]
  cases Json.field? key rawData with
  | none => simp [processDictEnvVars, processFields, returns_dictField, entriesOf]
  | some value =>
    cases value with
    | obj entries =>
      rw [Option.getD_some, processDictEnvVars, returns_dictField, processFields_eq_map,
        List.forall_mem_map]
      simp [entriesOf, isDict]
    | null => simp [processDictEnvVars, dictField, isDict]
    | bool value => simp [processDictEnvVars, dictField, isDict]
    | num value => simp [processDictEnvVars, dictField, isDict]
    | str text => simp [processDictEnvVars, dictField, isDict]
    | arr items => simp [processDictEnvVars, dictField, isDict]

end

theorem forall_mem_mergedValue {found : Option Json} {values : List (String × Json)}
    (nodup : (values.map Prod.fst).Nodup) {holds : Json → Prop}
    (before : ∀ entry ∈ entriesOf found, holds entry.2) :
    (∀ entry ∈ entriesOf (some (mergedValue found (.obj values))), holds entry.2) ↔
      ∀ entry ∈ values, holds entry.2 := by
  constructor
  · intro every entry member
    have present := field?_mergedValue found nodup entry.1
    simp only [Json.field?_eq_findEntry] at present
    rw [Dict.findEntry_eq_some_of_mem nodup member] at present
    exact every (entry.1, entry.2) (Dict.mem_of_findEntry_eq_some present)
  · intro every entry member
    cases found with
    | none => exact every entry member
    | some value =>
      cases value with
      | obj current =>
        rcases Dict.mem_foldl_setEntry member with new | old
        · exact every entry new
        · exact before entry old
      | null => exact every entry member
      | bool value => exact every entry member
      | num value => exact every entry member
      | str text => exact every entry member
      | arr items => exact every entry member

theorem returns_merged {α : Type} {read : Json → Except String α}
    (body : RoutingUpdateRequest) (routing : RoutingSection) {rawData : List (String × Json)}
    (before : Returns (dictField read (rawSection routing.key (processFields process rawData)))) :
    Returns (dictField read
        (rawSection routing.key (processFields process (body.merged rawData)))) ↔
      ∀ entry ∈ (body.entries? routing).getD [],
        Returns (read (processDictEnvVars process entry.2)) := by
  rw [returns_section] at before ⊢
  rw [body.field?_merged]
  cases given : body.entries? routing with
  | none => exact iff_of_true before (by simp)
  | some entries =>
    have dict : isDict (mergedValue (Json.field? routing.key rawData) (.obj entries)) = true := by
      rw [mergedValue.eq_def]
      split
      · rfl
      · rfl
    dsimp only [Option.getD_some]
    rw [@forall_mem_mergedValue (Json.field? routing.key rawData) entries
      (body.entries?_nodup given)
      (fun value => Returns (read (processDictEnvVars process value))) before.2]
    apply and_iff_right
    intro value same
    cases same
    exact dict

theorem returns_readRoutes (value : Json) :
    Returns (readRoutes (processDictEnvVars process value)) ↔ isDict value = true := by
  cases value with
  | obj fields => simp [processDictEnvVars, readRoutes, returns_dictField, isDict]
  | null => simp [processDictEnvVars, readRoutes, dictField, isDict]
  | bool value => simp [processDictEnvVars, readRoutes, dictField, isDict]
  | num value => simp [processDictEnvVars, readRoutes, dictField, isDict]
  | str text => simp [processDictEnvVars, readRoutes, dictField, isDict]
  | arr items => simp [processDictEnvVars, readRoutes, dictField, isDict]

theorem RoutingUpdateRequest.task_text {body : RoutingUpdateRequest} {entry : String × Json}
    (member : entry ∈ (body.entries? .task).getD []) : ∃ text, entry.2 = .str text := by
  rw [entries?] at member
  cases given : body.taskRouting with
  | none =>
    rw [given] at member
    cases member
  | some routes =>
    rw [given] at member
    rcases List.mem_map.mp member with ⟨route, -, made⟩
    rw [← made]
    exact ⟨route.2, rfl⟩

def RoutingUpdateRequest.wellFormed (body : RoutingUpdateRequest) : Bool :=
  [RoutingSection.agent, .tenant].all fun routing =>
    ((body.entries? routing).getD []).all fun entry => isDict entry.2

/-- The sections that an update leaves as they are. -/
def otherSections : List String :=
  ["tiers", "escalation", "embedding", "cost", "canary", "rate_limits"]

theorem key_ne_otherSection {key : String} (other : key ∈ otherSections)
    (routing : RoutingSection) : routing.key ≠ key := by
  intro same
  rw [← same] at other
  cases routing with
  | task => exact absurd other (by decide)
  | agent => exact absurd other (by decide)
  | tenant => exact absurd other (by decide)

theorem returns_parse_merged {rawData : List (String × Json)}
    (valid : Returns (parseRoutingConfig process (.obj (processFields process rawData))))
    (body : RoutingUpdateRequest) :
    Returns (parseRoutingConfig process (.obj (processFields process (body.merged rawData)))) ↔
      body.wellFormed = true := by
  rcases valid with ⟨config, ran⟩
  have before := parseRoutingConfig_iff.mp ran
  have agents := returns_merged body .agent ⟨_, before.agentRouting⟩
  have tenants := returns_merged body .tenant ⟨_, before.tenantRouting⟩
  have formed : body.wellFormed = true ↔
      (∀ entry ∈ (body.entries? .agent).getD [], isDict entry.2 = true) ∧
        ∀ entry ∈ (body.entries? .tenant).getD [], isDict entry.2 = true := by
    simp [RoutingUpdateRequest.wellFormed, List.all_eq_true]
  simp only [returns_readRoutes] at agents tenants
  rw [formed, ← agents, ← tenants]
  constructor
  · rintro ⟨after, parsed⟩
    have read := parseRoutingConfig_iff.mp parsed
    exact ⟨⟨_, read.agentRouting⟩, ⟨_, read.tenantRouting⟩⟩
  · rintro ⟨⟨agentRouting, agentRead⟩, ⟨tenantRouting, tenantRead⟩⟩
    have tasks : Returns (dictField textField
        (rawSection "task_routing" (processFields process (body.merged rawData)))) := by
      apply (returns_merged body .task ⟨_, before.taskRouting⟩).mpr
      intro entry member
      rcases RoutingUpdateRequest.task_text member with ⟨text, given⟩
      rw [given]
      exact ⟨_, rfl⟩
    rcases tasks with ⟨taskRouting, taskRead⟩
    have kept (key : String) (other : key ∈ otherSections) :
        rawSection key (processFields process (body.merged rawData)) =
          rawSection key (processFields process rawData) := by
      rw [rawSection_processFields, rawSection_processFields, rawSection, rawSection,
        body.field?_merged_of_ne (key_ne_otherSection other)]
    exact ⟨{ config with taskRouting, agentRouting, tenantRouting }, parseRoutingConfig_iff.mpr
        { tiers := by
            rw [kept _ (by decide)]
            exact before.tiers
          escalation := by
            rw [kept _ (by decide)]
            exact before.escalation
          embedding := by
            rw [kept _ (by decide)]
            exact before.embedding
          cost := by
            rw [kept _ (by decide)]
            exact before.cost
          canary := by
            rw [kept _ (by decide)]
            exact before.canary
          taskRouting := taskRead
          agentRouting := agentRead
          tenantRouting := tenantRead
          rateLimits := by
            rw [kept _ (by decide)]
            exact before.rateLimits }⟩

end

/-- The data that updates are merged into. -/
def fileData (file : ConfigFile) : List (String × Json) :=
  match mergeBase file with
  | .ok (.obj fields) => fields
  | _ => []

def folded (rawData : List (String × Json)) (bodies : List RoutingUpdateRequest) :
    List (String × Json) :=
  bodies.foldl (fun data body => body.merged data) rawData

def latestRoute (bodies : List RoutingUpdateRequest) (routing : RoutingSection) (name : String) :
    Option Json :=
  bodies.reverse.findSome? fun body => body.route? routing name

section

variable (process : Process) (file : ConfigFile)

def updateStep (state : ConfigLoader × List RoutingUpdateRequest)
    (request : Rat × RoutingUpdateRequest) : ConfigLoader × List RoutingUpdateRequest :=
  let outcome := updateRoutingRoute process request.1 file state.1 request.2
  (outcome.1, if outcome.2.acknowledged then state.2 ++ [request.2] else state.2)

def FoldsUpdates (state : ConfigLoader × List RoutingUpdateRequest) : Prop :=
  ∃ config, parseRoutingConfig process
      (processDictEnvVars process (.obj (folded (fileData file) state.2))) = .ok config ∧
    SameConfig state.1.config config

/-- An update is accepted when it gives a section, and dictionaries for agents and
tenants. -/
def accepts (body : RoutingUpdateRequest) : Bool := !body.updates.isEmpty && body.wellFormed

/-- Every route that an update before the last one set, and that the last one does not set,
is the one that the file gives. -/
def KeepsEarlier (rawData : List (String × Json)) (bodies : List RoutingUpdateRequest) : Prop :=
  ∀ earlier last, bodies = earlier ++ [last] → ∀ routing name value,
    last.route? routing name = none → latestRoute earlier routing name = some value →
      ∀ task, routeOf process routing (some value) task =
        routeOf process routing (rawRoute rawData routing name) task

end

section

variable {process : Process} {file : ConfigFile}

theorem latestRoute_concat (earlier : List RoutingUpdateRequest) (last : RoutingUpdateRequest)
    (routing : RoutingSection) (name : String) :
    latestRoute (earlier ++ [last]) routing name =
      (last.route? routing name <|> latestRoute earlier routing name) := by
  rw [latestRoute, List.reverse_append, List.reverse_singleton, List.singleton_append,
    List.findSome?_cons]
  cases last.route? routing name with
  | none => rfl
  | some value => rfl

theorem rawRoute_folded (rawData : List (String × Json)) (bodies : List RoutingUpdateRequest)
    (routing : RoutingSection) (name : String) :
    rawRoute (folded rawData bodies) routing name =
      (latestRoute bodies routing name <|> rawRoute rawData routing name) := by
  induction bodies using List.reverseRecOn with
  | nil => rfl
  | append_singleton earlier last ih =>
    rw [folded, List.foldl_append, List.foldl_cons, List.foldl_nil, last.rawRoute_merged,
      latestRoute_concat]
    rw [folded] at ih
    rw [ih]
    cases last.route? routing name with
    | none => rfl
    | some value => rfl

theorem Parsed.routeAt {rawData : List (String × Json)} {config : RoutingConfig}
    (parsed : Parsed process (processFields process rawData) config) (routing : RoutingSection)
    (name task : String) :
    config.routeAt routing name task =
      routeOf process routing (rawRoute rawData routing name) task := by
  cases routing with
  | task =>
    rw [RoutingConfig.routeAt, get?_section parsed.taskRouting]
    exact Option.map_bind
  | agent =>
    rw [RoutingConfig.routeAt, get?_section parsed.agentRouting]
    exact Option.bind_assoc _ _ _
  | tenant =>
    rw [RoutingConfig.routeAt, get?_section parsed.tenantRouting]
    exact Option.bind_assoc _ _ _

theorem mergeBase_of_load {now : Rat} {loaded : ConfigLoader × Option RoutingConfig}
    (started : load process now {} file = .ok loaded) :
    mergeBase file = .ok (.obj (fileData file)) ∧
      parseRoutingConfig process (.obj (processFields process (fileData file))) =
        .ok loaded.1.config := by
  cases file with
  | missing =>
    cases started
    exact ⟨rfl, rfl⟩
  | unreadable error => cases started
  | holds document =>
    rcases bind_eq_ok.mp started with ⟨config, parsed, made⟩
    cases made
    rw [fileData, mergeBase]
    cases content : orEmpty document with
    | obj fields =>
      rw [content] at parsed
      exact ⟨rfl, parsed⟩
    | null =>
      rw [content] at parsed
      cases parsed
    | bool value =>
      rw [content] at parsed
      cases parsed
    | num value =>
      rw [content] at parsed
      cases parsed
    | str text =>
      rw [content] at parsed
      cases parsed
    | arr items =>
      rw [content] at parsed
      cases parsed

theorem updateStep_cases (based : mergeBase file = .ok (.obj (fileData file)))
    (valid : Returns (parseRoutingConfig process (.obj (processFields process (fileData file)))))
    (state : ConfigLoader × List RoutingUpdateRequest) (request : Rat × RoutingUpdateRequest) :
    (accepts request.2 = true ∧ ∃ config, parseRoutingConfig process
          (.obj (processFields process (request.2.merged (fileData file)))) = .ok config ∧
        updateStep process file state request =
          ({ config, lastLoadTime := request.1 }, state.2 ++ [request.2])) ∨
      accepts request.2 = false ∧ updateStep process file state request = state := by
  have merges := returns_parse_merged valid request.2
  rw [updateStep, updateRoutingRoute, accepts]
  cases empty : request.2.updates.isEmpty with
  | true => exact .inr ⟨rfl, rfl⟩
  | false =>
    have updated : updateRouting process request.1 file request.2.updates =
        parseRoutingConfig process
            (.obj (processFields process (request.2.merged (fileData file)))) >>=
          fun config => .ok { config, lastLoadTime := request.1 } := by
      rw [updateRouting, based]
      rfl
    rw [updated]
    cases parsed : parseRoutingConfig process
        (.obj (processFields process (request.2.merged (fileData file)))) with
    | error error =>
      rw [parsed] at merges
      have unfit := mt merges.mpr (not_returns_error error)
      rw [Bool.not_eq_true] at unfit
      rw [unfit]
      exact .inr ⟨rfl, rfl⟩
    | ok config =>
      rw [parsed] at merges
      rw [merges.mp (returns_ok config)]
      exact .inl ⟨rfl, config, rfl, rfl⟩

end

/-! ## The law -/

section

variable {process : Process} {file : ConfigFile}

def lastMerged (rawData : List (String × Json)) (bodies : List RoutingUpdateRequest) :
    List (String × Json) :=
  match bodies.getLast? with
  | none => rawData
  | some last => last.merged rawData

theorem rawRoute_lastMerged_concat (rawData : List (String × Json))
    (earlier : List RoutingUpdateRequest) (last : RoutingUpdateRequest)
    (routing : RoutingSection) (name : String) :
    rawRoute (lastMerged rawData (earlier ++ [last])) routing name =
      (last.route? routing name <|> rawRoute rawData routing name) := by
  rw [lastMerged, List.getLast?_concat]
  exact last.rawRoute_merged rawData routing name

theorem field?_folded {key : String} (other : key ∈ otherSections)
    (rawData : List (String × Json)) (bodies : List RoutingUpdateRequest) :
    Json.field? key (folded rawData bodies) = Json.field? key rawData := by
  induction bodies using List.reverseRecOn with
  | nil => rfl
  | append_singleton earlier last ih =>
    rw [folded, List.foldl_append, List.foldl_cons, List.foldl_nil,
      last.field?_merged_of_ne (key_ne_otherSection other)]
    exact ih

theorem field?_lastMerged {key : String} (other : key ∈ otherSections)
    (rawData : List (String × Json)) (bodies : List RoutingUpdateRequest) :
    Json.field? key (lastMerged rawData bodies) = Json.field? key rawData := by
  rw [lastMerged]
  cases bodies.getLast? with
  | none => rfl
  | some last => exact last.field?_merged_of_ne (key_ne_otherSection other) rawData

theorem returns_parse_folded {rawData : List (String × Json)}
    (valid : Returns (parseRoutingConfig process (.obj (processFields process rawData))))
    {bodies : List RoutingUpdateRequest} (formed : ∀ body ∈ bodies, body.wellFormed = true) :
    Returns (parseRoutingConfig process
      (.obj (processFields process (folded rawData bodies)))) := by
  induction bodies using List.reverseRecOn with
  | nil => exact valid
  | append_singleton earlier last ih =>
    rw [folded, List.foldl_append, List.foldl_cons, List.foldl_nil]
    apply (returns_parse_merged _ last).mpr
    · exact formed last (by simp)
    · apply ih
      intro body member
      exact formed body (List.mem_append_left _ member)

theorem run_updateStep (based : mergeBase file = .ok (.obj (fileData file)))
    {loader : ConfigLoader}
    (parsed : parseRoutingConfig process (.obj (processFields process (fileData file))) =
      .ok loader.config)
    (requests : List (Rat × RoutingUpdateRequest)) :
    (run (updateStep process file) (loader, []) requests).2 =
        (requests.map Prod.snd).filter accepts ∧
      parseRoutingConfig process (.obj (processFields process (lastMerged (fileData file)
          (run (updateStep process file) (loader, []) requests).2))) =
        .ok (run (updateStep process file) (loader, []) requests).1.config := by
  induction requests using List.reverseRecOn with
  | nil => exact ⟨rfl, parsed⟩
  | append_singleton earlier request ih =>
    rw [run_concat, List.map_append, List.filter_append]
    rcases updateStep_cases based ⟨_, parsed⟩
      (run (updateStep process file) (loader, []) earlier) request with
      ⟨accepted, config, merges, after⟩ | ⟨refused, after⟩
    · rw [after, ih.1, lastMerged, List.getLast?_concat]
      refine ⟨?_, merges⟩
      simp [accepted]
    · rw [after]
      refine ⟨?_, ih.2⟩
      rw [ih.1]
      simp [refused]

theorem sameConfig_iff {first second : List (String × Json)} {one other : RoutingConfig}
    (oneParsed : Parsed process (processFields process first) one)
    (otherParsed : Parsed process (processFields process second) other)
    (agree : ∀ key ∈ otherSections, Json.field? key first = Json.field? key second) :
    SameConfig one other ↔ ∀ routing name task,
      routeOf process routing (rawRoute first routing name) task =
        routeOf process routing (rawRoute second routing name) task := by
  have sections (key : String) (known : key ∈ otherSections) :
      rawSection key (processFields process first) =
        rawSection key (processFields process second) := by
    rw [rawSection_processFields, rawSection_processFields, rawSection, rawSection, agree key known]
  constructor
  · intro same routing name task
    rw [← oneParsed.routeAt, ← otherParsed.routeAt]
    exact same.routes routing name task
  · intro same
    have tiers := oneParsed.tiers
    have escalation := oneParsed.escalation
    have cost := oneParsed.cost
    have canary := oneParsed.canary
    rw [sections _ (by decide), otherParsed.tiers] at tiers
    rw [sections _ (by decide), otherParsed.escalation] at escalation
    rw [sections _ (by decide), otherParsed.cost] at cost
    rw [sections _ (by decide), otherParsed.canary] at canary
    constructor
    · exact (Except.ok.inj tiers).symm
    · exact (Except.ok.inj escalation).symm
    · exact (Except.ok.inj cost).symm
    · exact (Except.ok.inj canary).symm
    · intro routing name task
      rw [oneParsed.routeAt, otherParsed.routeAt]
      exact same routing name task

theorem routes_agree_iff (rawData : List (String × Json)) (bodies : List RoutingUpdateRequest) :
    (∀ routing name task,
      routeOf process routing (rawRoute (lastMerged rawData bodies) routing name) task =
        routeOf process routing (rawRoute (folded rawData bodies) routing name) task) ↔
      KeepsEarlier process rawData bodies := by
  constructor
  · intro agree earlier last split routing name value unset latest task
    have routes := agree routing name task
    rw [split, rawRoute_lastMerged_concat, rawRoute_folded, latestRoute_concat, unset,
      latest] at routes
    exact routes.symm
  · intro keeps routing name task
    cases bodies using List.reverseRecOn with
    | nil => rfl
    | append_singleton earlier last =>
      rw [rawRoute_lastMerged_concat, rawRoute_folded, latestRoute_concat]
      cases unset : last.route? routing name with
      | some value => rfl
      | none =>
        cases latest : latestRoute earlier routing name with
        | none => rfl
        | some value => exact (keeps earlier last rfl routing name value unset latest task).symm

end

/-- After any requests on a file that does not change, the configuration in effect is what
the acknowledged updates add up to exactly when the file has the routes that the updates
before the last one set. -/
theorem foldsUpdates_iff (process : Process) (file : ConfigFile) (now : Rat)
    (loaded : ConfigLoader × Option RoutingConfig)
    (started : load process now {} file = .ok loaded)
    (requests : List (Rat × RoutingUpdateRequest)) :
    FoldsUpdates process file (run (updateStep process file) (loaded.1, []) requests) ↔
      KeepsEarlier process (fileData file) ((requests.map Prod.snd).filter accepts) := by
  rcases mergeBase_of_load started with ⟨based, parsed⟩
  rcases run_updateStep based parsed requests with ⟨acknowledged, current⟩
  have formed : ∀ body ∈ (requests.map Prod.snd).filter accepts, body.wellFormed = true := by
    intro body member
    have accepted := (List.mem_filter.mp member).2
    rw [accepts, Bool.and_eq_true] at accepted
    exact accepted.2
  rw [← routes_agree_iff, FoldsUpdates]
  rw [acknowledged] at current ⊢
  rcases returns_parse_folded ⟨_, parsed⟩ formed with ⟨config, addsUp⟩
  have same := @sameConfig_iff process _ _ _ _ (parseRoutingConfig_iff.mp current)
    (parseRoutingConfig_iff.mp addsUp) (by
      intro key known
      rw [field?_lastMerged known, field?_folded known])
  constructor
  · rintro ⟨other, read, agrees⟩
    rw [processDictEnvVars, addsUp] at read
    cases read
    exact same.mp agrees
  · intro agree
    exact ⟨config, addsUp, same.mpr agree⟩

def bareProcess : Process where
  environ := fun _ => ""
  floatOfString := fun _ => none

def routeTask (task tier : String) : RoutingUpdateRequest where
  taskRouting := some (.ofList [(task, tier)])

theorem foldsUpdates_iff_sameTask : load bareProcess 0 {} .missing = .ok ({}, none) ∧
      FoldsUpdates bareProcess .missing (run (updateStep bareProcess .missing) ({}, [])
        [(0, routeTask "summarize" "fast"), (1, routeTask "summarize" "strong")]) := by
  refine ⟨rfl, (foldsUpdates_iff bareProcess .missing 0 ({}, none) rfl _).mpr ?_⟩
  intro earlier last split routing name value unset latest
  have both : [routeTask "summarize" "fast"] ++ [routeTask "summarize" "strong"] =
      earlier ++ [last] := split
  have parts := List.append_inj' both rfl
  rw [← List.singleton_inj.mp parts.2] at unset
  rw [← parts.1] at latest
  cases routing with
  | task =>
    have other : ¬ "summarize" = name := by
      intro same
      rw [← same] at unset
      cases unset
    have nothing : latestRoute [routeTask "summarize" "fast"] .task name = none := by
      simp [latestRoute, routeTask, RoutingUpdateRequest.route?, RoutingUpdateRequest.entries?,
        Dict.ofList, Dict.setAll, Dict.set, Dict.setEntry, Dict.empty, other]
    rw [nothing] at latest
    cases latest
  | agent => cases latest
  | tenant => cases latest

theorem second_update_drops_first :
    ¬ FoldsUpdates bareProcess .missing (run (updateStep bareProcess .missing) ({}, [])
        [(0, routeTask "summarize" "fast"), (1, routeTask "classify" "strong")]) := by
  rintro ⟨config, parsed, same⟩
  have kept : ((parseRoutingConfig bareProcess (processDictEnvVars bareProcess
      (.obj (folded (fileData .missing) (run (updateStep bareProcess .missing) ({}, [])
        [(0, routeTask "summarize" "fast"),
          (1, routeTask "classify" "strong")]).2)))).toOption.any fun config =>
      (config.routeAt .task "summarize" "").isSome) = true := by
    decide
  have lost : ((run (updateStep bareProcess .missing) ({}, [])
      [(0, routeTask "summarize" "fast"),
        (1, routeTask "classify" "strong")]).1.config.routeAt .task "summarize" "").isSome =
      false := by
    decide
  rw [parsed] at kept
  rw [same.routes] at lost
  exact absurd (kept.symm.trans lost) (by decide)

end Onpremai.Gateway
