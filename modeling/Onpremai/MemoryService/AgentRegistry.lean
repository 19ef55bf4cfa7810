import Onpremai.MemoryService.Api

/-!
# Agent registry

The agents that have registered themselves with the memory service.  An agent is found by the
capabilities of its last registration until it is deregistered; a missing heartbeat does not
remove it.
-/

namespace Onpremai.MemoryService

open Onpremai.Library

/-- Agent service registry for discovery and heartbeat. -/
structure Agent where
  id : String
  name : String
  url : String
  capabilities : List String := []
  status : String := "active"
  metadata : Option (List (String × Json)) := none
  registeredAt : Rat
  lastHeartbeat : Rat

abbrev AgentRegistry := Dict String Agent

inductive RegistryRequest where
  | registerAgent (body : RegisterAgentBody) (now : Rat)
  | heartbeat (agentId : String) (now : Rat)
  | listAgents (capability : Option String)
  | deregisterAgent (agentId : String)

inductive RegistryReply where
  | agent (agent : Agent)
  | agents (agents : List Agent)
  | deregistered (agentId : String)
  | agentNotFound

namespace AgentRegistry

variable (registry : AgentRegistry)

/-- Register a new agent or update existing registration. -/
def registered (body : RegisterAgentBody) (now : Rat) : Agent :=
  match registry.get? body.id with
  | some existing =>
    { existing with
      name := body.name
      url := body.url
      capabilities := body.capabilities
      metadata := body.metadata
      status := "active"
      lastHeartbeat := now }
  | none =>
    { id := body.id
      name := body.name
      url := body.url
      capabilities := body.capabilities
      metadata := body.metadata
      registeredAt := now
      lastHeartbeat := now }

/-- The active agents, optionally filtered by capability. -/
def listed (capability : Option String) : List Agent :=
  let agents := registry.values.filter fun agent => agent.status = "active"
  match capability with
  | none => agents
  | some name =>
    if name = "" then agents else agents.filter fun agent => name ∈ agent.capabilities

def serve : RegistryRequest → AgentRegistry × RegistryReply
  | .registerAgent body now =>
    (registry.set body.id (registry.registered body now), .agent (registry.registered body now))
  | .heartbeat agentId now =>
    match registry.get? agentId with
    | none => (registry, .agentNotFound)
    | some agent =>
      let seen := { agent with lastHeartbeat := now, status := "active" }
      (registry.set agentId seen, .agent seen)
  | .listAgents capability => (registry, .agents (registry.listed capability))
  | .deregisterAgent agentId =>
    match registry.get? agentId with
    | none => (registry, .agentNotFound)
    | some _ => (registry.erase agentId, .deregistered agentId)

def step (request : RegistryRequest) : AgentRegistry := (registry.serve request).1

end AgentRegistry

/-- The request registers the agent anew or deregisters it. -/
def RegistryRequest.Replaces (id : String) : RegistryRequest → Prop
  | .registerAgent body _ => body.id = id
  | .deregisterAgent agentId => agentId = id
  | _ => False

/-- The active agent stands as its registration has put it. -/
structure Agent.Shows (body : RegisterAgentBody) (agent : Agent) : Prop where
  id : agent.id = body.id
  name : agent.name = body.name
  url : agent.url = body.url
  capabilities : agent.capabilities = body.capabilities
  metadata : agent.metadata = body.metadata
  status : agent.status = "active"

/-- The registration is the last word about its agent. -/
def Stands (requests : List RegistryRequest) (body : RegisterAgentBody) : Prop :=
  ∃ earlier now later, requests = earlier ++ .registerAgent body now :: later ∧
    ∀ request ∈ later, ¬ request.Replaces body.id

/-- The agents of a capability; an empty name asks for all of them. -/
def Asks (capability : Option String) (capabilities : List String) : Prop :=
  ∀ name ∈ capability, name ≠ "" → name ∈ capabilities

namespace AgentRegistry

/-- The agents that are listed are those whose registration stands, each once. -/
structure ListsStanding (requests : List RegistryRequest) (capability : Option String)
    (agents : List Agent) : Prop where
  once : (agents.map Agent.id).Nodup
  sound : ∀ agent ∈ agents, ∃ body, agent.Shows body ∧ Stands requests body ∧
    Asks capability body.capabilities
  complete : ∀ body, Stands requests body → Asks capability body.capabilities →
    ∃ agent ∈ agents, agent.Shows body

theorem mem_listed {registry : AgentRegistry} {capability : Option String} {agent : Agent} :
    agent ∈ registry.listed capability ↔ agent ∈ registry.values ∧ agent.status = "active" ∧
      Asks capability agent.capabilities := by
  cases capability with
  | none => simp [listed, Asks]
  | some name =>
    by_cases empty : name = ""
    · simp [listed, Asks, empty]
    · simp only [listed, if_neg empty, List.mem_filter, decide_eq_true_eq, and_assoc]
      simp [Asks, empty]

theorem get?_step {registry : AgentRegistry} {id : String} {request : RegistryRequest}
    (other : ¬ request.Replaces id) : (registry.step request).get? id = registry.get? id ∨
      ∃ agent now, registry.get? id = some agent ∧ (registry.step request).get? id =
        some { agent with lastHeartbeat := now, status := "active" } := by
  cases request with
  | registerAgent body now =>
    rw [step, serve, Dict.get?_set, if_neg (show ¬ body.id = id from other)]
    exact .inl rfl
  | heartbeat agentId now =>
    rw [step, serve]
    cases found : registry.get? agentId with
    | none => exact .inl rfl
    | some agent =>
      by_cases same : agentId = id
      · exact .inr ⟨agent, now, same ▸ found, by simp [same]⟩
      · exact .inl (by simp [same])
  | listAgents capability => exact .inl rfl
  | deregisterAgent agentId =>
    rw [step, serve]
    cases registry.get? agentId with
    | none => exact .inl rfl
    | some agent =>
      rw [Dict.get?_erase, if_neg fun same => other same.symm]
      exact .inl rfl

theorem Shows.seen {body : RegisterAgentBody} {agent : Agent} (shows : agent.Shows body)
    (now : Rat) : Agent.Shows body { agent with lastHeartbeat := now, status := "active" } :=
  ⟨shows.id, shows.name, shows.url, shows.capabilities, shows.metadata, rfl⟩

theorem shows_step {registry : AgentRegistry} {body : RegisterAgentBody}
    {request : RegistryRequest} (other : ¬ request.Replaces body.id)
    (stands : ∃ agent, registry.get? body.id = some agent ∧ agent.Shows body) :
    ∃ agent, (registry.step request).get? body.id = some agent ∧ agent.Shows body := by
  rcases stands with ⟨agent, found, holds⟩
  rcases get?_step other with same | ⟨seen, now, before, after⟩
  · exact ⟨agent, same.trans found, holds⟩
  · cases found.symm.trans before
    exact ⟨_, after, Shows.seen holds now⟩

theorem shows_registered {registry : AgentRegistry} {body : RegisterAgentBody} {now : Rat}
    (keyed : ∀ agent, registry.get? body.id = some agent → agent.id = body.id) :
    (registry.registered body now).Shows body := by
  rw [registered]
  cases found : registry.get? body.id with
  | none => exact ⟨rfl, rfl, rfl, rfl, rfl, rfl⟩
  | some existing => exact ⟨keyed existing found, rfl, rfl, rfl, rfl, rfl⟩

/-- Every agent is kept under its id, as the registration that stands has put it. -/
def Keeps (requests : List RegistryRequest) (registry : AgentRegistry) : Prop :=
  ∀ id agent, registry.get? id = some agent → ∃ body, body.id = id ∧ agent.Shows body ∧
    Stands requests body

theorem stands_concat {requests : List RegistryRequest} {body : RegisterAgentBody}
    {request : RegistryRequest} (stands : Stands requests body)
    (other : ¬ request.Replaces body.id) : Stands (requests ++ [request]) body := by
  rcases stands with ⟨earlier, now, later, rfl, rest⟩
  refine ⟨earlier, now, later ++ [request], by simp, ?_⟩
  simpa [or_imp, forall_and] using ⟨rest, other⟩

theorem keeps_step {requests : List RegistryRequest} {registry : AgentRegistry}
    (keeps : Keeps requests registry) (request : RegistryRequest) :
    Keeps (requests ++ [request]) (registry.step request) := by
  intro id agent found
  by_cases other : request.Replaces id
  · cases request with
    | registerAgent body now =>
      cases other
      rw [step, serve, Dict.get?_set, if_pos rfl] at found
      cases found
      refine ⟨body, rfl, shows_registered fun agent before => ?_, requests, now, [], rfl, nofun⟩
      obtain ⟨earlier, same, before, -⟩ := keeps _ _ before
      rw [before.id, same]
    | deregisterAgent agentId =>
      cases other
      rw [step, serve] at found
      cases here : registry.get? id with
      | none => simp [here] at found
      | some gone => simp [here] at found
    | heartbeat agentId now => cases other
    | listAgents capability => cases other
  · obtain ⟨earlier, before⟩ : ∃ earlier, registry.get? id = some earlier := by
      rcases get?_step other with same | ⟨seen, now, before, -⟩
      · exact ⟨agent, same.symm.trans found⟩
      · exact ⟨seen, before⟩
    obtain ⟨body, rfl, holds, stands⟩ := keeps id earlier before
    obtain ⟨after, now, shown⟩ := shows_step other ⟨earlier, before, holds⟩
    cases found.symm.trans now
    exact ⟨body, rfl, shown, stands_concat stands other⟩

theorem keeps_run (requests : List RegistryRequest) :
    Keeps requests (run step Dict.empty requests) := by
  induction requests using List.reverseRecOn with
  | nil => exact nofun
  | append_singleton earlier request ih =>
    rw [run_concat]
    exact keeps_step ih request

theorem shows_run {requests : List RegistryRequest} {body : RegisterAgentBody}
    (stands : Stands requests body) :
    ∃ agent, (run step Dict.empty requests).get? body.id = some agent ∧ agent.Shows body := by
  rcases stands with ⟨earlier, now, later, rfl, rest⟩
  have start : ∃ agent, ((run step Dict.empty earlier).step (.registerAgent body now)).get?
      body.id = some agent ∧ agent.Shows body := by
    refine ⟨_, by rw [step, serve, Dict.get?_set, if_pos rfl], shows_registered ?_⟩
    intro agent before
    obtain ⟨again, same, holds, -⟩ := keeps_run earlier _ _ before
    rw [holds.id, same]
  rw [run_append, run_cons]
  exact run_invariant step (fun request => ¬ request.Replaces body.id)
    (fun registry => ∃ agent, registry.get? body.id = some agent ∧ agent.Shows body)
    (fun registry request other => shows_step other) rest start

theorem map_id_values {requests : List RegistryRequest} {registry : AgentRegistry}
    (keeps : Keeps requests registry) : registry.values.map Agent.id = registry.keys := by
  rw [Dict.values, Dict.keys, List.map_map]
  apply List.map_congr_left
  intro entry member
  obtain ⟨body, same, holds, -⟩ := keeps _ _ ((Dict.mem_entries_iff _ entry.1 entry.2).mp member)
  exact holds.id.trans same

theorem listed_sublist (registry : AgentRegistry) (capability : Option String) :
    (registry.listed capability).Sublist registry.values := by
  cases capability with
  | none => exact List.filter_sublist
  | some name =>
    rw [listed]
    split
    · exact List.filter_sublist
    · exact List.filter_sublist.trans List.filter_sublist

/-- After every sequence of requests the agents are listed by the registrations that stand. -/
theorem lists_standing (requests : List RegistryRequest) (capability : Option String) :
    ListsStanding requests capability ((run step Dict.empty requests).listed capability) := by
  have keeps := keeps_run requests
  constructor
  · apply List.Nodup.sublist ((listed_sublist _ capability).map Agent.id)
    rw [map_id_values keeps]
    exact (run step Dict.empty requests).nodupKeys
  · intro agent member
    rw [mem_listed, Dict.mem_values_iff] at member
    rcases member with ⟨⟨id, found⟩, -, asks⟩
    obtain ⟨body, -, holds, stands⟩ := keeps id agent found
    exact ⟨body, holds, stands, holds.capabilities ▸ asks⟩
  · intro body stands asks
    obtain ⟨agent, found, holds⟩ := shows_run stands
    refine ⟨agent, mem_listed.mpr ⟨?_, holds.status, holds.capabilities ▸ asks⟩, holds⟩
    exact (Dict.mem_values_iff _ agent).mpr ⟨body.id, found⟩

end AgentRegistry

end Onpremai.MemoryService
