import Onpremai.Conversation.Handling

/-!
# Skills and playbooks

Skills and playbooks come from the memory service or from the built-in ones.  What has been
loaded stays in caches that are keyed by the identifier alone and shared by all tenants.
-/

namespace Onpremai.Conversation

open Onpremai.Library
open Onpremai.Assistant (UserContext)

def Playbook.stepAt (playbook : Playbook) (step : Int) : Option PlaybookStep :=
  playbook.steps.find? fun other => decide (other.step = some step)

def completePlaybook (state : SessionState) : SessionState :=
  { state with activePlaybook := none, playbookStep := 0, playbookData := [] }

def Playbook.maxStep (playbook : Playbook) : Int :=
  (playbook.steps.map fun step => step.step.getD 0).max?.getD 0

def nextStep (playbook : Playbook) (state : SessionState) : SessionState :=
  match playbook.stepAt state.playbookStep with
  | none => completePlaybook state
  | some current =>
    match current.loopTo.filter fun step => decide (step ≠ 0) with
    | some step => { state with playbookStep := step }
    | none =>
      if playbook.maxStep < state.playbookStep + 1 then completePlaybook state
      else { state with playbookStep := state.playbookStep + 1 }

namespace Chat

open Handler

variable (config : Config) (world : World)

def skillMatchesRole (role : String) (skill : Skill) : Bool :=
  skill.roles.any (fun own => decide (own = role ∨ own = "shared")) ||
    (config.skillPrefixes role).any fun start => start.toList.isPrefixOf skill.id.toList

def cacheSkills : List Skill → Chat Unit
  | [] => return
  | skill :: rest => do
    cacheSkill skill.id skill
    cacheSkills rest

def loadForRole (role tenantId : String) : Chat (List Skill) :=
  match (world.skillRecall tenantId none).filter (skillMatchesRole config role) with
  | [] => do
    let roleSkills := config.defaultSkills.filter fun skill =>
      (config.skillPrefixes role).any fun start => start.toList.isPrefixOf skill.id.toList
    cacheSkills roleSkills
    return roleSkills
  | skill :: rest => do
    cacheSkills (skill :: rest)
    return skill :: rest

def defaultSkill (skillId : String) : Option Skill :=
  config.defaultSkills.find? fun skill => decide (skill.id = skillId)

def getSkillPrompt (skillId tenantId : String) : Chat String := do
  match ← cachedSkill skillId with
  | some skill => return skill.systemPrompt.getD ""
  | none =>
    match world.skillRecall tenantId (some skillId) with
    | skill :: _ => do
      cacheSkill skillId skill
      return skill.systemPrompt.getD skill.nestedPrompt
    | [] =>
      match defaultSkill config skillId with
      | some skill => return skill.systemPrompt.getD ""
      | none => return ""

def getSkillPlaybook (skillId tenantId : String) : Chat (Option String) := do
  match ← cachedSkill skillId with
  | some skill => return skill.playbookId
  | none =>
    match defaultSkill config skillId with
    | some skill => return skill.playbookId
    | none =>
      match world.skillRecall tenantId (some skillId) with
      | skill :: _ => return skill.playbookId
      | [] => return none

def loadPlaybook (playbookId tenantId : String) : Chat (Option Playbook) := do
  match ← cachedPlaybook playbookId with
  | some playbook => return some playbook
  | none =>
    match world.playbookRecall tenantId playbookId with
    | some playbook => do
      cachePlaybook playbookId playbook
      return some playbook
    | none =>
      match config.defaultPlaybook playbookId with
      | some playbook => do
        cachePlaybook playbookId playbook
        return some playbook
      | none => return none

def getStepPrompt (playbookId : String) (step : Int) (data : Fields) (tenantId : String) :
    Chat String := do
  match ← loadPlaybook config world playbookId tenantId with
  | none => return ""
  | some playbook =>
    match playbook.stepAt step with
    | none => return ""
    | some current => return config.stepText playbookId playbook current data

def advanceStep : Chat Unit := do
  let state ← session
  match state.activePlaybook.filter fun id => decide (id ≠ "") with
  | none => return
  | some playbookId =>
    match ← loadPlaybook config world playbookId state.tenantId with
    | none => return
    | some playbook => modifySession (nextStep playbook)

/-- Code that consults the session and the caches of skills and playbooks, and adds to the
caches, and does nothing else. -/
inductive Consults : {α : Type} → Chat α → Prop where
  | pure {α : Type} (value : α) : Consults (pure value : Chat α)
  | bind {α β : Type} {handler : Chat α} {next : α → Chat β} (first : Consults handler)
      (second : ∀ value, Consults (next value)) : Consults (handler >>= next)
  | session : Consults session
  | cachedSkill (skillId : String) : Consults (cachedSkill skillId)
  | cacheSkill (skillId : String) (skill : Skill) : Consults (cacheSkill skillId skill)
  | cachedPlaybook (playbookId : String) : Consults (cachedPlaybook playbookId)
  | cachePlaybook (playbookId : String) (playbook : Playbook) :
      Consults (cachePlaybook playbookId playbook)

/-- A request has done nothing but look at what is loaded and cached, and add to the caches. -/
structure Leaves (before turn : Turn) : Prop where
  loaded : turn.loaded = before.loaded
  sessions : turn.process.sessions = before.process.sessions
  asked : turn.asked = before.asked
  called : turn.called = before.called
  stored : turn.stored = before.stored

section

variable {α : Type} {handler : Chat α}

theorem Consults.leaves (consults : Consults handler)
    (before : Turn) : Keeps (Leaves before) handler := by
  induction consults with
  | pure value => exact keeps_pure value
  | bind _ _ ih₁ ih₂ => exact keeps_bind ih₁ ih₂
  | session => exact keeps_look _
  | cachedSkill skillId =>
    exact fun turn same => ⟨same.loaded, same.sessions, same.asked, same.called, same.stored⟩
  | cacheSkill skillId skill =>
    exact fun turn same => ⟨same.loaded, same.sessions, same.asked, same.called, same.stored⟩
  | cachedPlaybook playbookId =>
    exact fun turn same => ⟨same.loaded, same.sessions, same.asked, same.called, same.stored⟩
  | cachePlaybook playbookId playbook =>
    exact fun turn same => ⟨same.loaded, same.sessions, same.asked, same.called, same.stored⟩

theorem Consults.keepsLoaded (consults : Consults handler)
    (holds : Loaded → Prop) : Keeps (fun turn => holds turn.loaded) handler := by
  intro turn loaded
  rw [(consults.leaves turn turn ⟨rfl, rfl, rfl, rfl, rfl⟩).loaded]
  exact loaded

theorem Consults.ran (consults : Consults handler) (turn : Turn) :
    ∃ value after, handler turn = (.ok value, after) ∧ Leaves turn after := by
  have left := consults.leaves turn turn ⟨rfl, rfl, rfl, rfl, rfl⟩
  have returned : ∃ value, (handler turn).1 = .ok value := by
    clear left
    induction consults generalizing turn with
    | pure value => exact ⟨value, rfl⟩
    | bind _ _ ih₁ ih₂ =>
      obtain ⟨value, first⟩ := ih₁ turn
      obtain ⟨result, second⟩ := ih₂ value _
      exact ⟨result, (congrArg Prod.fst (bind_of_ok (Prod.ext first rfl) _)).trans second⟩
    | session => exact ⟨turn.session, rfl⟩
    | cachedSkill skillId => exact ⟨_, rfl⟩
    | cacheSkill skillId skill => exact ⟨_, rfl⟩
    | cachedPlaybook playbookId => exact ⟨_, rfl⟩
    | cachePlaybook playbookId playbook => exact ⟨_, rfl⟩
  obtain ⟨value, same⟩ := returned
  exact ⟨value, _, Prod.ext same rfl, left⟩

end

variable {config : Config} {world : World}

theorem consults_cacheSkills (skills : List Skill) : Consults (cacheSkills skills) := by
  induction skills with
  | nil => exact .pure _
  | cons skill rest ih => exact .bind (.cacheSkill _ _) fun _ => ih

theorem consults_loadForRole (role tenantId : String) :
    Consults (loadForRole config world role tenantId) := by
  rw [loadForRole]
  split
  · exact .bind (consults_cacheSkills _) fun _ => .pure _
  · exact .bind (consults_cacheSkills _) fun _ => .pure _

theorem consults_getSkillPrompt (skillId tenantId : String) :
    Consults (getSkillPrompt config world skillId tenantId) := by
  rw [getSkillPrompt]
  apply Consults.bind (.cachedSkill skillId)
  intro found
  cases found with
  | some skill => exact .pure _
  | none =>
    dsimp only
    split
    · exact .bind (.cacheSkill _ _) fun _ => .pure _
    · split
      · exact .pure _
      · exact .pure _

theorem consults_getSkillPlaybook (skillId tenantId : String) :
    Consults (getSkillPlaybook config world skillId tenantId) := by
  rw [getSkillPlaybook]
  apply Consults.bind (.cachedSkill skillId)
  intro found
  cases found with
  | some skill => exact .pure _
  | none =>
    dsimp only
    split
    · exact .pure _
    · split
      · exact .pure _
      · exact .pure _

theorem consults_loadPlaybook (playbookId tenantId : String) :
    Consults (loadPlaybook config world playbookId tenantId) := by
  rw [loadPlaybook]
  apply Consults.bind (.cachedPlaybook playbookId)
  intro found
  cases found with
  | some playbook => exact .pure _
  | none =>
    dsimp only
    split
    · exact .bind (.cachePlaybook _ _) fun _ => .pure _
    · split
      · exact .bind (.cachePlaybook _ _) fun _ => .pure _
      · exact .pure _

theorem consults_getStepPrompt (playbookId : String) (step : Int) (data : Fields)
    (tenantId : String) : Consults (getStepPrompt config world playbookId step data tenantId) := by
  rw [getStepPrompt]
  apply Consults.bind (consults_loadPlaybook playbookId tenantId)
  intro found
  cases found with
  | none => exact .pure _
  | some playbook =>
    dsimp only
    split
    · exact .pure _
    · exact .pure _

end Chat

end Onpremai.Conversation
