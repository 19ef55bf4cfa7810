import Onpremai.Conversation.SkillMatcher
import Onpremai.Library.Transducer

/-!
# Skills of tenants

All tenants are given their skills and playbooks through the same caches, which are keyed by
the identifier alone.  A tenant is given its own ones as long as every lookup finds what its
own requests have left, or what they would have loaded.
-/

namespace Onpremai.Conversation

open Onpremai.Library

/-- What the memory service has for a tenant. -/
structure TenantStore where
  skills : Option String → List Skill := fun _ => []
  playbook : String → Option Playbook := fun _ => none

/-- A call of the skill loader, of the matcher, whose triggers are loaded at the start, or of
the playbook engine. -/
inductive SkillCall where
  | loadForRole (role : String)
  | matchSkill (message role : String) (activeSkill : Option String)
  | getSkillPrompt (skillId : String)
  | getSkillPlaybook (skillId : String)
  | getStepPrompt (playbookId : String) (step : Int) (data : Fields)
  | advanceStep

/-- A call for a session of a tenant. -/
structure SkillRequest where
  session : SessionState
  store : TenantStore
  call : SkillCall

def SkillRequest.world (request : SkillRequest) : World :=
  { calmWorld with
    skillRecall := fun tenantId name =>
      if tenantId = request.session.tenantId then request.store.skills name else []
    playbookRecall := fun tenantId id =>
      if tenantId = request.session.tenantId then request.store.playbook id else none }

/-- What a tenant is given. -/
inductive Given where
  | skills (skills : List Skill)
  | matched (skillId : Option String)
  | prompt (text : String)
  | playbook (playbookId : Option String)
  | advanced (state : SessionState)

def Given.text? : Given → Option String
  | .prompt text => some text
  | .skills _ | .matched _ | .playbook _ | .advanced _ => none

def SkillCall.handle (config : Config) (world : World) (tenantId : String) : SkillCall → Chat Given
  | .loadForRole role => do
    let skills ← Chat.loadForRole config world role tenantId
    return .skills skills
  | .matchSkill message role activeSkill =>
    return .matched (config.matchSkill message role activeSkill)
  | .getSkillPrompt skillId => do
    let prompt ← Chat.getSkillPrompt config world skillId tenantId
    return .prompt prompt
  | .getSkillPlaybook skillId => do
    let playbookId ← Chat.getSkillPlaybook config world skillId tenantId
    return .playbook playbookId
  | .getStepPrompt playbookId step data => do
    let prompt ← Chat.getStepPrompt config world playbookId step data tenantId
    return .prompt prompt
  | .advanceStep => do
    Chat.advanceStep config world
    let state ← Chat.session
    return .advanced state

def giveSkills (config : Config) (process : Process) (request : SkillRequest) :
    Process × Option Given :=
  let (result, turn) := request.call.handle config request.world request.session.tenantId
    { process, loaded := { state := request.session } }
  (turn.process, result.toOption)

/-- The process, with what the caches would be like after the requests of one tenant only. -/
structure SkillWatch where
  process : Process
  own : Process

/-- The machine of the calls, with an eye on those of a tenant. -/
def watchSkills (config : Config) (tenantId : String) (watch : SkillWatch)
    (request : SkillRequest) : SkillWatch × Option Given :=
  ({ process := (giveSkills config watch.process request).1
     own :=
       if request.session.tenantId = tenantId then (giveSkills config watch.own request).1
       else watch.own },
    (giveSkills config watch.process request).2)

/-- A lookup finds what one's own requests have left, or, where they have left nothing, what
the lookup would load. -/
def Vouched {α : Type} (found own loads : Option α) : Prop :=
  found = own ∨ own = none ∧ found = loads

def Skill.Plain (skill : Skill) : Prop := skill.systemPrompt.isSome = true ∨ skill.nestedPrompt = ""

namespace Config

variable (config : Config) (store : TenantStore)

/-- The skill that a prompt is taken from: one's own, or else a built-in one. -/
def promptSource (skillId : String) : Option Skill :=
  (store.skills (some skillId)).head?.or (Chat.defaultSkill config skillId)

/-- The skill that a playbook is named by: a built-in one, or else one's own. -/
def playbookSource (skillId : String) : Option Skill :=
  (Chat.defaultSkill config skillId).or (store.skills (some skillId)).head?

/-- The playbook that steps are taken from: one's own, or else a built-in one. -/
def stepSource (playbookId : String) : Option Playbook :=
  (store.playbook playbookId).or (config.defaultPlaybook playbookId)

end Config

def SkillCall.Sound (config : Config) (store : TenantStore) (session : SessionState)
    (process own : Process) : SkillCall → Prop
  | .loadForRole _ | .matchSkill _ _ _ => True
  | .getSkillPrompt skillId =>
    Vouched (process.skills.get? skillId) (own.skills.get? skillId)
        (config.promptSource store skillId) ∧
      (own.skills.get? skillId = none → ∀ skill ∈ process.skills.get? skillId, skill.Plain)
  | .getSkillPlaybook skillId =>
    Vouched (process.skills.get? skillId) (own.skills.get? skillId)
      (config.playbookSource store skillId)
  | .getStepPrompt playbookId _ _ =>
    Vouched (process.playbooks.get? playbookId) (own.playbooks.get? playbookId)
      (config.stepSource store playbookId)
  | .advanceStep => ∀ playbookId ∈ present session.activePlaybook,
      Vouched (process.playbooks.get? playbookId) (own.playbooks.get? playbookId)
        (config.stepSource store playbookId)

def OwnSkills (config : Config) (tenantId : String) (watch : SkillWatch)
    (request : SkillRequest) : Prop :=
  request.session.tenantId = tenantId →
    request.call.Sound config request.store request.session watch.process watch.own

namespace Chat

open Handler

variable (config : Config) (world : World) (tenantId : String)

def promptIn (skillId : String) (cached : Option Skill) : String :=
  match cached with
  | some skill => skill.systemPrompt.getD ""
  | none =>
    match (world.skillRecall tenantId (some skillId)).head? with
    | some skill => skill.systemPrompt.getD skill.nestedPrompt
    | none => (defaultSkill config skillId).elim "" fun skill => skill.systemPrompt.getD ""

def playbookIn (skillId : String) (cached : Option Skill) : Option String :=
  (cached.or ((defaultSkill config skillId).or
    (world.skillRecall tenantId (some skillId)).head?)).bind Skill.playbookId

def stepsIn (playbookId : String) (cached : Option Playbook) : Option Playbook :=
  cached.or ((world.playbookRecall tenantId playbookId).or (config.defaultPlaybook playbookId))

theorem getSkillPrompt_gives (skillId : String) (turn : Turn) :
    (getSkillPrompt config world skillId tenantId turn).1 =
      .ok (promptIn config world tenantId skillId (turn.process.skills.get? skillId)) := by
  have looked (next : Option Skill → Chat String) : (cachedSkill skillId >>= next) turn =
      next (turn.process.skills.get? skillId)
        { turn with log := turn.log ++ [.lookedUp (.skill skillId)] } := rfl
  rw [getSkillPrompt, looked]
  cases turn.process.skills.get? skillId with
  | some skill => rfl
  | none =>
    dsimp only [promptIn]
    cases world.skillRecall tenantId (some skillId) with
    | cons skill rest => rfl
    | nil =>
      dsimp only [List.head?_nil]
      cases defaultSkill config skillId <;> rfl

theorem getSkillPlaybook_gives (skillId : String) (turn : Turn) :
    (getSkillPlaybook config world skillId tenantId turn).1 =
      .ok (playbookIn config world tenantId skillId (turn.process.skills.get? skillId)) := by
  have looked (next : Option Skill → Chat (Option String)) : (cachedSkill skillId >>= next) turn =
      next (turn.process.skills.get? skillId)
        { turn with log := turn.log ++ [.lookedUp (.skill skillId)] } := rfl
  rw [getSkillPlaybook, looked, playbookIn]
  cases turn.process.skills.get? skillId with
  | some skill => rfl
  | none =>
    dsimp only
    cases defaultSkill config skillId with
    | some skill => rfl
    | none =>
      dsimp only
      cases world.skillRecall tenantId (some skillId) <;> rfl

theorem loadPlaybook_ran (playbookId : String) (turn : Turn) :
    ∃ after, loadPlaybook config world playbookId tenantId turn =
        (.ok (stepsIn config world tenantId playbookId (turn.process.playbooks.get? playbookId)),
          after) ∧ after.session = turn.session := by
  obtain ⟨value, after, ran, left⟩ :=
    (@consults_loadPlaybook config world playbookId tenantId).ran turn
  have session : after.session = turn.session := congrArg Loaded.state left.loaded
  refine ⟨after, ?_, session⟩
  have given : (loadPlaybook config world playbookId tenantId turn).1 =
      .ok (stepsIn config world tenantId playbookId
        (turn.process.playbooks.get? playbookId)) := by
    have looked (next : Option Playbook → Chat (Option Playbook)) :
        (cachedPlaybook playbookId >>= next) turn = next (turn.process.playbooks.get? playbookId)
            { turn with log := turn.log ++ [.lookedUp (.playbook playbookId)] } := rfl
    rw [loadPlaybook, looked, stepsIn]
    cases turn.process.playbooks.get? playbookId with
    | some playbook => rfl
    | none =>
      dsimp only
      cases world.playbookRecall tenantId playbookId with
      | some playbook => rfl
      | none =>
        dsimp only
        cases config.defaultPlaybook playbookId <;> rfl
  rw [ran] at given ⊢
  exact Prod.ext given rfl

end Chat

section Given

open Handler

variable {config : Config} {process own : Process}

@[simp] theorem skillRecall_world (request : SkillRequest) (name : Option String) :
    request.world.skillRecall request.session.tenantId name = request.store.skills name :=
  if_pos rfl

@[simp] theorem playbookRecall_world (request : SkillRequest) (playbookId : String) :
    request.world.playbookRecall request.session.tenantId playbookId =
      request.store.playbook playbookId :=
  if_pos rfl

section

variable {request : SkillRequest} {skillId : String} {found cached : Option Skill}

theorem promptIn_of_vouched
    (vouched : Vouched found cached (config.promptSource request.store skillId))
    (plain : cached = none → ∀ skill ∈ found, skill.Plain) :
    Chat.promptIn config request.world request.session.tenantId skillId found =
      Chat.promptIn config request.world request.session.tenantId skillId cached := by
  rcases vouched with same | ⟨missed, same⟩
  · rw [same]
  · have readable := plain missed
    rw [missed]
    cases found with
    | none => rfl
    | some skill =>
      rw [Config.promptSource] at same
      dsimp only [Chat.promptIn]
      rw [skillRecall_world]
      cases recalled : (request.store.skills (some skillId)).head? with
      | none =>
        rw [recalled, Option.none_or] at same
        rw [← same]
        rfl
      | some first =>
        rw [recalled, Option.some_or] at same
        cases same
        dsimp only
        rcases readable _ rfl with top | nested
        · obtain ⟨text, isText⟩ := Option.isSome_iff_exists.mp top
          rw [isText]
          rfl
        · rw [nested]

theorem playbookIn_of_vouched
    (vouched : Vouched found cached (config.playbookSource request.store skillId)) :
    Chat.playbookIn config request.world request.session.tenantId skillId found =
      Chat.playbookIn config request.world request.session.tenantId skillId cached := by
  rcases vouched with same | ⟨missed, same⟩
  · rw [same]
  · rw [Chat.playbookIn, Chat.playbookIn, skillRecall_world, missed, Option.none_or, same,
      Config.playbookSource, Option.or_self]

end

theorem stepsIn_of_vouched {request : SkillRequest} {playbookId : String}
    {found cached : Option Playbook}
    (vouched : Vouched found cached (config.stepSource request.store playbookId)) :
    Chat.stepsIn config request.world request.session.tenantId playbookId found =
      Chat.stepsIn config request.world request.session.tenantId playbookId cached := by
  rcases vouched with same | ⟨missed, same⟩
  · rw [same]
  · rw [Chat.stepsIn, Chat.stepsIn, playbookRecall_world, missed, Option.none_or, same,
      Config.stepSource, Option.or_self]

theorem getStepPrompt_alike {world : World} {tenantId playbookId : String} {step : Int}
    {data : Fields} {first second : Turn}
    (alike : Chat.stepsIn config world tenantId playbookId
        (first.process.playbooks.get? playbookId) =
      Chat.stepsIn config world tenantId playbookId
        (second.process.playbooks.get? playbookId)) :
    (Chat.getStepPrompt config world playbookId step data tenantId first).1 =
      (Chat.getStepPrompt config world playbookId step data tenantId second).1 := by
  obtain ⟨_, ran, -⟩ := Chat.loadPlaybook_ran config world tenantId playbookId first
  obtain ⟨_, alsoRan, -⟩ := Chat.loadPlaybook_ran config world tenantId playbookId second
  rw [Chat.getStepPrompt, bind_of_ok ran, bind_of_ok alsoRan, alike]
  cases Chat.stepsIn config world tenantId playbookId
      (second.process.playbooks.get? playbookId) with
  | none => rfl
  | some playbook =>
    dsimp only
    cases playbook.stepAt step <;> rfl

theorem advanceStep_alike {world : World} {first second : Turn}
    (sessions : first.session = second.session)
    (alike : ∀ playbookId ∈ present first.session.activePlaybook,
      Chat.stepsIn config world first.session.tenantId playbookId
          (first.process.playbooks.get? playbookId) =
        Chat.stepsIn config world first.session.tenantId playbookId
          (second.process.playbooks.get? playbookId)) :
    (Chat.advanceStep config world first).1 = (Chat.advanceStep config world second).1 ∧
      (Chat.advanceStep config world first).2.session =
        (Chat.advanceStep config world second).2.session := by
  rw [Chat.advanceStep, Chat.session_bind, Chat.session_bind, ← sessions]
  change ∀ playbookId ∈ first.session.activePlaybook.filter fun id => decide (id ≠ ""), _ at alike
  cases active : first.session.activePlaybook.filter fun id => decide (id ≠ "") with
  | none => exact ⟨rfl, sessions⟩
  | some playbookId =>
    obtain ⟨after, ran, same⟩ :=
      Chat.loadPlaybook_ran config world first.session.tenantId playbookId first
    obtain ⟨other, alsoRan, alsoSame⟩ :=
      Chat.loadPlaybook_ran config world first.session.tenantId playbookId second
    have left : after.session = other.session := same.trans (sessions.trans alsoSame.symm)
    dsimp only
    rw [bind_of_ok ran, bind_of_ok alsoRan, alike playbookId active]
    cases Chat.stepsIn config world first.session.tenantId playbookId
        (second.process.playbooks.get? playbookId) with
    | none => exact ⟨rfl, left⟩
    | some playbook => exact ⟨rfl, congrArg (nextStep playbook) left⟩

theorem loadForRole_alike (config : Config) (world : World) (role tenantId : String)
    (first second : Turn) :
    (Chat.loadForRole config world role tenantId first).1 =
      (Chat.loadForRole config world role tenantId second).1 := by
  have caches (skills : List Skill) (turn : Turn) :
      ((do Chat.cacheSkills skills; return skills : Chat (List Skill)) turn).1 = .ok skills := by
    obtain ⟨_, after, ran, -⟩ := (Chat.consults_cacheSkills skills).ran turn
    rw [bind_of_ok ran]
    rfl
  rw [Chat.loadForRole]
  cases (world.skillRecall tenantId none).filter (Chat.skillMatchesRole config role) with
  | nil => exact (caches _ first).trans (caches _ second).symm
  | cons skill rest => exact (caches _ first).trans (caches _ second).symm

theorem handle_alike (request : SkillRequest) {call : SkillCall}
    (sound : call.Sound config request.store request.session process own) :
    (call.handle config request.world request.session.tenantId
        { process, loaded := { state := request.session } }).1 =
      (call.handle config request.world request.session.tenantId
        { process := own, loaded := { state := request.session } }).1 := by
  cases call with
  | loadForRole role =>
    rw [SkillCall.handle, bind_pure_fst, bind_pure_fst]
    exact congrArg _ (loadForRole_alike config _ role _ _ _)
  | matchSkill message role activeSkill => rfl
  | getSkillPrompt skillId =>
    rw [SkillCall.handle, bind_pure_fst, bind_pure_fst, Chat.getSkillPrompt_gives,
      Chat.getSkillPrompt_gives, promptIn_of_vouched sound.1 sound.2]
  | getSkillPlaybook skillId =>
    rw [SkillCall.handle, bind_pure_fst, bind_pure_fst, Chat.getSkillPlaybook_gives,
      Chat.getSkillPlaybook_gives, playbookIn_of_vouched sound]
  | getStepPrompt playbookId step data =>
    rw [SkillCall.handle, bind_pure_fst, bind_pure_fst]
    exact congrArg _ (getStepPrompt_alike (stepsIn_of_vouched sound))
  | advanceStep =>
    obtain ⟨results, sessions⟩ := @advanceStep_alike config request.world
      { process, loaded := { state := request.session } }
      { process := own, loaded := { state := request.session } } rfl
      fun playbookId active => stepsIn_of_vouched (sound playbookId active)
    rw [SkillCall.handle]
    cases result : (Chat.advanceStep config request.world
        { process, loaded := { state := request.session } }).1 with
    | ok value =>
      have alsoResult := results.symm.trans result
      rw [bind_of_ok (Prod.ext result rfl), bind_of_ok (Prod.ext alsoResult rfl)]
      exact congrArg (fun state => Except.ok (Given.advanced state)) sessions
    | error exn =>
      have alsoResult := results.symm.trans result
      rw [bind_of_error (Prod.ext result rfl), bind_of_error (Prod.ext alsoResult rfl)]

theorem answers_watchSkills (config : Config) (tenantId : String) (watch : SkillWatch)
    (requests : List SkillRequest) :
    answers (watchSkills config tenantId) watch requests =
      answers (giveSkills config) watch.process requests := by
  induction requests generalizing watch with
  | nil => rfl
  | cons request rest ih =>
    rw [answers, answers, ih]
    rfl

/-- In a run in which a tenant's requests look up nothing but its own, the tenant is given just
what it is given in the run without the others, whatever the caches start with. -/
theorem skills_separate (config : Config) (tenantId : String) (start : Process)
    (requests : List SkillRequest)
    (own : Allowed (next (watchSkills config tenantId)) (OwnSkills config tenantId)
      { process := start, own := start } requests) :
    observed (fun request => decide (request.session.tenantId = tenantId)) requests
        (answers (giveSkills config) start requests) =
      answers (giveSkills config) start
        (requests.filter fun request => decide (request.session.tenantId = tenantId)) := by
  have watching := observed_eq (fun request => decide (request.session.tenantId = tenantId))
    (watchSkills config tenantId) (giveSkills config) (fun watch other => watch.own = other)
    ?mine ?others rfl own
  case mine =>
    rintro watch _ request rfl sound mine
    have isMine := of_decide_eq_true mine
    constructor
    · exact congrArg Except.toOption (handle_alike request (sound isMine))
    · rw [next, watchSkills, if_pos isMine]
      rfl
  case others =>
    rintro watch _ request rfl _ other
    rw [next, watchSkills, if_neg (of_decide_eq_false other)]
  rw [answers_watchSkills] at watching
  exact watching

def builtInConfig : Config :=
  { bareConfig with
    skillPrefixes := roleSkillPrefixes
    defaultSkills := defaultSkillTable.map TriggeredSkill.toSkill }

def launchedSkills : Process :=
  (giveSkills builtInConfig {} {
    session := { newSession with tenantId := "__default__" }
    store := {}
    call := .loadForRole "admin" }).1

def builtInRequests : List SkillRequest := [
  { session := { newSession with tenantId := "globex" }, store := {}
    call := .loadForRole "auditor" },
  { session := newSession, store := {}, call := .getSkillPrompt "auditor/finding_entry" }]

theorem skills_separate_builtIn :
    observed (fun request => decide (request.session.tenantId = "acme")) builtInRequests
        (answers (giveSkills builtInConfig) launchedSkills builtInRequests) =
      answers (giveSkills builtInConfig) launchedSkills
        (builtInRequests.filter fun request => decide (request.session.tenantId = "acme")) := by
  apply skills_separate
  refine ⟨fun mine => absurd mine (by decide), fun _ => ⟨.inr ⟨?_, ?_⟩, ?_⟩, trivial⟩
  · rfl
  · rfl
  · rintro - skill found
    cases found
    exact .inl rfl

def reviews (tenantId text : String) : SkillRequest where
  session := { newSession with tenantId }
  store := { skills := fun _ => [{ id := "shared/review", systemPrompt := some text }] }
  call := .getSkillPrompt "shared/review"

/-- Both tenants have a skill of one name, and the second one is given the prompt of the
first. -/
theorem prompt_of_other_tenant :
    ¬ (∀ (config : Config) (tenantId : String) (start : Process) (requests : List SkillRequest),
        observed (fun request => decide (request.session.tenantId = tenantId)) requests
            (answers (giveSkills config) start requests) =
          answers (giveSkills config) start
            (requests.filter fun request => decide (request.session.tenantId = tenantId))) := by
  intro claimed
  have same := claimed builtInConfig "acme" launchedSkills
    [reviews "globex" "Follow Globex.", reviews "acme" "Follow Acme."]
  have texts := congrArg (List.map fun given => given.bind Given.text?) same
  exact absurd texts (by decide)

end Given

end Onpremai.Conversation
