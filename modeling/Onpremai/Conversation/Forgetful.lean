import Onpremai.Conversation.AgentLoop

/-!
# What a request does not read

A request reads neither the conversation of its session nor the count of the messages: two
requests that have the rest of a session in common go the same way.
-/

namespace Onpremai.Conversation

open Onpremai.Library
open Onpremai.Assistant (UserContext)

def SessionState.core (state : SessionState) : SessionState :=
  { state with conversationHistory := [], messageCount := 0 }

theorem read_of_core {α : Type} (view : SessionState → α)
    (unread : ∀ state, view state.core = view state) {first second : SessionState}
    (same : first.core = second.core) : view first = view second := by
  rw [← unread first, same, unread second]

theorem core_nextStep {playbook : Playbook} {first second : SessionState}
    (same : first.core = second.core) :
    (nextStep playbook first).core = (nextStep playbook second).core := by
  have unread : ∀ state, (nextStep playbook state).core = (nextStep playbook state.core).core := by
    intro state
    have step : state.core.playbookStep = state.playbookStep := rfl
    rw [nextStep, nextStep, step]
    split
    · rfl
    · split
      · rfl
      · split
        · rfl
        · rfl
  rw [unread first, same, ← unread second]

namespace Chat

open Handler

/-- Two requests whose sessions agree but for the conversation, over the same caches; where
it counts, they have come equally far with the language model and the tools. -/
structure Paired (counts : Prop) (first second : Turn) : Prop where
  core : first.session.core = second.session.core
  skills : first.process.skills = second.process.skills
  playbooks : first.process.playbooks = second.process.playbooks
  counters : counts → first.asked = second.asked ∧ first.called = second.called

variable {config : Config} {world : World} {user : UserContext} {counts : Prop}

section Rules

variable {α : Type}

theorem twins_session {next other : SessionState → Chat α}
    (nexts : ∀ first second : SessionState, first.core = second.core →
      Twins (Paired counts) (next first) (other second)) :
    Twins (Paired counts) (session >>= next) (session >>= other) := by
  intro one two same
  rw [session_bind, session_bind]
  exact nexts one.session two.session same.core one two same

theorem twins_modifySession {update other : SessionState → SessionState}
    (kept : ∀ first second : SessionState, first.core = second.core →
      (update first).core = (other second).core) :
    Twins (Paired counts) (modifySession update) (modifySession other) :=
  twins_change fun one two same => { same with core := kept one.session two.session same.core }

theorem twins_update {update : SessionState → SessionState}
    (unread : ∀ state, (update state).core = (update state.core).core) :
    Twins (Paired counts) (modifySession update) (modifySession update) := by
  apply twins_modifySession
  intro first second same
  rw [unread first, same, ← unread second]

theorem twins_append (message other : Message) :
    Twins (Paired counts) (append message) (append other) :=
  twins_modifySession fun _ _ same => same

theorem twins_askLlm (counted : counts) (task other : String) (messages others : List Message)
    (tools otherTools : Option (List Json)) :
    Twins (Paired counts) (askLlm world task messages tools)
      (askLlm world other others otherTools) := by
  intro one two same
  have asked := (same.counters counted).1
  rw [askLlm_eq, askLlm_eq, asked]
  exact ⟨rfl, { same with counters := fun _ => ⟨rfl, (same.counters counted).2⟩ }⟩

theorem twins_callTool (counted : counts) (event other : ToolResult → Event) :
    Twins (Paired counts) (callTool world event) (callTool world other) := by
  intro one two same
  obtain ⟨asked, called⟩ := same.counters counted
  constructor
  · change Except.ok (world.tool one.called) = Except.ok (world.tool two.called)
    rw [called]
  · exact { same with counters := fun _ => ⟨asked, congrArg (· + 1) called⟩ }

theorem twins_counted (counted : counts) (view : Nat → α) :
    Twins (Paired counts) (look fun turn => view turn.called : Chat α)
      (look fun turn => view turn.called) :=
  twins_look fun _ _ same => congrArg view (same.counters counted).2

theorem twins_save : Twins (Paired counts) (save world) (save world) :=
  fun _ _ same => ⟨rfl, { same with }⟩

theorem twins_cachedSkill (skillId : String) :
    Twins (Paired counts) (cachedSkill skillId) (cachedSkill skillId) := by
  intro one two same
  constructor
  · exact congrArg (fun skills => Except.ok (Dict.get? skills skillId)) same.skills
  · exact { same with }

theorem twins_cacheSkill (skillId : String) (skill : Skill) :
    Twins (Paired counts) (cacheSkill skillId skill) (cacheSkill skillId skill) :=
  twins_change fun _ _ same =>
    { same with skills := congrArg (Dict.set · skillId skill) same.skills }

theorem twins_cachedPlaybook (playbookId : String) :
    Twins (Paired counts) (cachedPlaybook playbookId) (cachedPlaybook playbookId) := by
  intro one two same
  constructor
  · exact congrArg (fun playbooks => Except.ok (Dict.get? playbooks playbookId)) same.playbooks
  · exact { same with }

theorem twins_cachePlaybook (playbookId : String) (playbook : Playbook) :
    Twins (Paired counts) (cachePlaybook playbookId playbook)
      (cachePlaybook playbookId playbook) :=
  twins_change fun _ _ same =>
    { same with playbooks := congrArg (Dict.set · playbookId playbook) same.playbooks }

end Rules

section Skills

theorem twins_cacheSkills (skills : List Skill) :
    Twins (Paired counts) (cacheSkills skills) (cacheSkills skills) := by
  induction skills with
  | nil => exact twins_pure _
  | cons skill rest ih => exact twins_bind (twins_cacheSkill _ _) fun _ => ih

theorem twins_loadForRole (role tenantId : String) :
    Twins (Paired counts) (loadForRole config world role tenantId)
      (loadForRole config world role tenantId) := by
  rw [loadForRole]
  cases (world.skillRecall tenantId none).filter (skillMatchesRole config role) with
  | nil => exact twins_bind (twins_cacheSkills _) fun _ => twins_pure _
  | cons skill rest => exact twins_bind (twins_cacheSkills _) fun _ => twins_pure _

theorem twins_getSkillPrompt (skillId tenantId : String) :
    Twins (Paired counts) (getSkillPrompt config world skillId tenantId)
      (getSkillPrompt config world skillId tenantId) := by
  rw [getSkillPrompt]
  refine twins_bind (twins_cachedSkill skillId) fun found => ?_
  cases found with
  | some skill => exact twins_pure _
  | none =>
    dsimp only
    cases world.skillRecall tenantId (some skillId) with
    | cons skill rest => exact twins_bind (twins_cacheSkill _ _) fun _ => twins_pure _
    | nil =>
      cases defaultSkill config skillId with
      | some skill => exact twins_pure _
      | none => exact twins_pure _

theorem twins_getSkillPlaybook (skillId tenantId : String) :
    Twins (Paired counts) (getSkillPlaybook config world skillId tenantId)
      (getSkillPlaybook config world skillId tenantId) := by
  rw [getSkillPlaybook]
  refine twins_bind (twins_cachedSkill skillId) fun found => ?_
  cases found with
  | some skill => exact twins_pure _
  | none =>
    dsimp only
    cases defaultSkill config skillId with
    | some skill => exact twins_pure _
    | none =>
      cases world.skillRecall tenantId (some skillId) with
      | cons skill rest => exact twins_pure _
      | nil => exact twins_pure _

theorem twins_loadPlaybook (playbookId tenantId : String) :
    Twins (Paired counts) (loadPlaybook config world playbookId tenantId)
      (loadPlaybook config world playbookId tenantId) := by
  rw [loadPlaybook]
  refine twins_bind (twins_cachedPlaybook playbookId) fun found => ?_
  cases found with
  | some playbook => exact twins_pure _
  | none =>
    dsimp only
    cases world.playbookRecall tenantId playbookId with
    | some playbook => exact twins_bind (twins_cachePlaybook _ _) fun _ => twins_pure _
    | none =>
      cases config.defaultPlaybook playbookId with
      | some playbook => exact twins_bind (twins_cachePlaybook _ _) fun _ => twins_pure _
      | none => exact twins_pure _

theorem twins_getStepPrompt (playbookId : String) (step : Int) (data : Fields)
    (tenantId : String) :
    Twins (Paired counts) (getStepPrompt config world playbookId step data tenantId)
      (getStepPrompt config world playbookId step data tenantId) := by
  rw [getStepPrompt]
  refine twins_bind (twins_loadPlaybook playbookId tenantId) fun found => ?_
  cases found with
  | none => exact twins_pure _
  | some playbook =>
    dsimp only
    cases playbook.stepAt step with
    | none => exact twins_pure _
    | some current => exact twins_pure _

theorem twins_resumedPlaybookPrompt (tenantId : String) :
    Twins (Paired counts) (resumedPlaybookPrompt config world tenantId)
      (resumedPlaybookPrompt config world tenantId) := by
  rw [resumedPlaybookPrompt]
  apply twins_session
  intro first second same
  have playbook : first.activePlaybook = second.activePlaybook :=
    read_of_core SessionState.activePlaybook (fun _ => rfl) same
  have step : first.playbookStep = second.playbookStep :=
    read_of_core SessionState.playbookStep (fun _ => rfl) same
  have data : first.playbookData = second.playbookData :=
    read_of_core SessionState.playbookData (fun _ => rfl) same
  rw [playbook, step, data]
  cases present second.activePlaybook with
  | none => exact twins_pure _
  | some playbookId =>
    dsimp only
    by_cases begun : 0 < second.playbookStep
    · rw [if_pos begun]
      exact twins_getStepPrompt _ _ _ _
    · rw [if_neg begun]
      exact twins_pure _

theorem twins_activeSkillPrompt (tenantId : String) :
    Twins (Paired counts) (activeSkillPrompt config world tenantId)
      (activeSkillPrompt config world tenantId) := by
  rw [activeSkillPrompt]
  apply twins_session
  intro first second same
  have skill : first.activeSkill = second.activeSkill :=
    read_of_core SessionState.activeSkill (fun _ => rfl) same
  rw [skill]
  cases present second.activeSkill with
  | none => exact twins_pure _
  | some skillId => exact twins_getSkillPrompt _ _

theorem twins_resolveSkillContext (message : String) :
    Twins (Paired counts) (resolveSkillContext config world user message)
      (resolveSkillContext config world user message) := by
  rw [resolveSkillContext]
  refine twins_bind (twins_resumedPlaybookPrompt _) fun playbookPrompt => ?_
  apply twins_session
  intro first second same
  have skill : first.activeSkill = second.activeSkill :=
    read_of_core SessionState.activeSkill (fun _ => rfl) same
  have playbook : first.activePlaybook = second.activePlaybook :=
    read_of_core SessionState.activePlaybook (fun _ => rfl) same
  rw [skill, playbook]
  cases present (config.matchSkill message user.role second.activeSkill) with
  | none => exact twins_bind (twins_activeSkillPrompt _) fun _ => twins_pure _
  | some skillId =>
    refine twins_bind (twins_update fun _ => rfl) fun _ => ?_
    refine twins_bind (twins_getSkillPrompt _ _) fun skillPrompt => ?_
    refine twins_bind (twins_getSkillPlaybook _ _) fun playbookId => ?_
    cases present playbookId with
    | none => exact twins_pure _
    | some playbookId =>
      cases present second.activePlaybook with
      | some active => exact twins_pure _
      | none =>
        refine twins_bind (twins_update fun _ => rfl) fun _ => ?_
        exact twins_bind (twins_getStepPrompt _ _ _ _) fun _ => twins_pure _

theorem twins_advanceStep :
    Twins (Paired counts) (advanceStep config world) (advanceStep config world) := by
  rw [advanceStep]
  apply twins_session
  intro first second same
  have playbook : first.activePlaybook = second.activePlaybook :=
    read_of_core SessionState.activePlaybook (fun _ => rfl) same
  have tenantId : first.tenantId = second.tenantId :=
    read_of_core SessionState.tenantId (fun _ => rfl) same
  rw [playbook, tenantId]
  cases second.activePlaybook.filter fun id => decide (id ≠ "") with
  | none => exact twins_pure _
  | some playbookId =>
    refine twins_bind (twins_loadPlaybook _ _) fun found => ?_
    cases found with
    | none => exact twins_pure _
    | some playbook => exact twins_modifySession fun _ _ same => core_nextStep same

end Skills

section Requests

theorem twins_handleDataOnlyMessage (counted : counts) (message : String)
    (estimatedRecovery : Option String) :
    Twins (Paired counts) (handleDataOnlyMessage config world message estimatedRecovery)
      (handleDataOnlyMessage config world message estimatedRecovery) := by
  rw [handleDataOnlyMessage]
  cases config.matchKeywordIntent message with
  | none => exact twins_pure _
  | some intent =>
    refine twins_bind (twins_callTool counted _ _) fun result => ?_
    cases result with
    | success data => exact twins_pure _
    | error reason => exact twins_pure _
    | confirmationRequired summary => exact twins_pure _

theorem twins_respond_of (response : String → ChatResponse) :
    Twins (Paired counts) (session >>= fun state => pure (response state.sessionId))
      (session >>= fun state => pure (response state.sessionId)) := by
  apply twins_session
  intro first second same
  have sessionId : first.sessionId = second.sessionId :=
    read_of_core SessionState.sessionId (fun _ => rfl) same
  rw [sessionId]
  exact twins_pure _

theorem twins_degrade (counted : counts) (message : String) (estimatedRecovery : Option String) :
    Twins (Paired counts) (degrade config world message estimatedRecovery)
      (degrade config world message estimatedRecovery) :=
  twins_bind (twins_update fun _ => rfl) fun _ => twins_bind twins_save fun _ =>
    twins_bind (twins_handleDataOnlyMessage counted _ _) fun result =>
      twins_respond_of fun sessionId => { message := result, sessionId, dataOnlyMode := true }

theorem twins_introduce : Twins (Paired counts) (introduce world) (introduce world) := by
  rw [introduce]
  cases world.userState with
  | none => exact twins_update fun _ => rfl
  | some agentName => exact twins_update fun _ => rfl

theorem twins_greet (counted : counts) (systemPrompt other : String) :
    Twins (Paired counts) (greet world systemPrompt) (greet world other) := by
  apply twins_session
  intro first second same
  refine twins_bind (twins_askLlm counted _ _ _ _ _ _) fun answer => ?_
  refine twins_bind (twins_modifySession ?_) fun _ => ?_
  · intro one two alike
    exact congrArg (fun state : SessionState => { state with mode := .full }) alike
  · refine twins_bind twins_save fun _ => ?_
    rw [read_of_core SessionState.sessionId (fun _ => rfl) same]
    exact twins_pure _

theorem twins_handleInit (counted : counts) :
    Twins (Paired counts) (handleInit config world user) (handleInit config world user) := by
  refine twins_bind twins_introduce fun _ => ?_
  refine twins_bind (twins_loadForRole _ _) fun skills => ?_
  refine twins_bind (twins_update fun _ => rfl) fun _ => ?_
  refine twins_bind (twins_resumedPlaybookPrompt _) fun playbookPrompt => ?_
  refine twins_bind (twins_activeSkillPrompt _) fun skillPrompt => ?_
  apply twins_session
  intro first second same
  apply twins_rescue (twins_greet counted _ _)
  intro exn
  cases exn with
  | creditExhausted estimatedRecovery => exact twins_degrade counted _ _
  | unavailable =>
    refine twins_bind (twins_update fun _ => rfl) fun _ => twins_bind twins_save fun _ => ?_
    rw [read_of_core SessionState.sessionId (fun _ => rfl) same]
    exact twins_pure _
  | error => exact twins_raise _

theorem twins_acknowledgeName (content : String) :
    Twins (Paired counts) (acknowledgeName world content) (acknowledgeName world content) :=
  twins_bind (twins_modifySession fun _ _ same => same) fun _ =>
    twins_bind (twins_append _ _) fun _ => twins_bind twins_save fun _ =>
      twins_respond_of fun sessionId => { message := content, sessionId }

theorem twins_handleAgentNaming (counted : counts) (message : String) :
    Twins (Paired counts) (handleAgentNaming world message) (handleAgentNaming world message) := by
  refine twins_bind (twins_update fun _ => rfl) fun _ => ?_
  refine twins_bind (twins_append _ _) fun _ => twins_bind (twins_append _ _) fun _ => ?_
  apply twins_rescue
  · apply twins_session
    intro first second same
    exact twins_bind (twins_askLlm counted _ _ _ _ _ _) fun answer => twins_acknowledgeName _
  · intro exn
    cases exn with
    | creditExhausted estimatedRecovery => exact twins_acknowledgeName _
    | unavailable => exact twins_acknowledgeName _
    | error => exact twins_raise _

theorem twins_pauseFor (counted : counts) (content : String) (toolCalls : List ToolCall)
    (actions : List ToolAction) (call : ToolCall) (params summary : Json) :
    Twins (Paired counts) (pauseFor world content toolCalls actions call params summary)
      (pauseFor world content toolCalls actions call params summary) := by
  rw [pauseFor]
  refine twins_bind (twins_counted counted _) fun confirmationId => ?_
  cases PendingConfirmation.validate confirmationId call.toolName summary params with
  | none => exact twins_raise _
  | some confirmation =>
    refine twins_bind (twins_bind (twins_update fun _ => rfl) fun _ => twins_save) fun _ => ?_
    refine twins_bind (twins_append _ _) fun _ => twins_bind twins_save fun _ => ?_
    apply twins_session
    intro first second same
    rw [read_of_core SessionState.sessionId (fun _ => rfl) same]
    exact twins_pure _

theorem twins_runCalls (counted : counts) (content : String) (toolCalls calls : List ToolCall)
    (actions : List ToolAction) :
    Twins (Paired counts) (runCalls config world content toolCalls calls actions)
      (runCalls config world content toolCalls calls actions) := by
  induction calls generalizing actions with
  | nil => exact twins_pure _
  | cons call rest ih =>
    rw [runCalls]
    refine twins_bind (twins_counted counted fun called =>
      call.id.getD (world.freshId called)) fun toolId => ?_
    refine twins_bind (twins_callTool counted _ _) fun result => ?_
    have recorded (text : String) : Twins (Paired counts) (recordCall content call toolId text)
          (recordCall content call toolId text) :=
      twins_bind (twins_append _ _) fun _ => twins_append _ _
    cases result with
    | success data => exact twins_bind (recorded _) fun _ => ih _
    | error reason => exact twins_bind (recorded _) fun _ => ih _
    | confirmationRequired summary => exact twins_pauseFor counted _ _ _ _ _ _

theorem twins_runRounds (counted : counts) (tools : List Fields) (rounds : Nat) (task : String)
    (actions : List ToolAction) :
    Twins (Paired counts) (runRounds config world tools rounds task actions)
      (runRounds config world tools rounds task actions) := by
  induction rounds generalizing task actions with
  | zero =>
    exact twins_bind (twins_append _ _) fun _ => twins_bind twins_save fun _ =>
      twins_respond_of fun sessionId =>
        { message :=
            "I've completed several actions but reached my processing limit. " ++
            "Let me know if you'd like me to continue."
          sessionId
          actions }
  | succ rounds ih =>
    rw [runRounds]
    apply twins_session
    intro first second same
    refine twins_bind (twins_askLlm counted _ _ _ _ _ _) fun answer => ?_
    cases answer with
    | mk content toolCalls =>
      cases toolCalls with
      | nil =>
        exact twins_bind (twins_append _ _) fun _ => twins_bind twins_save fun _ =>
          twins_bind twins_advanceStep fun _ =>
            twins_respond_of fun sessionId => { message := content, sessionId, actions }
      | cons call others =>
        refine twins_bind (twins_runCalls counted _ _ _ _) fun ended => ?_
        cases ended with
        | paused response => exact twins_pure _
        | completed actions => exact ih _ actions

theorem twins_runLoop (counted : counts) :
    Twins (Paired counts) (runLoop config world) (runLoop config world) := by
  apply twins_session
  intro first second same
  rw [read_of_core SessionState.toolsCache (fun _ => rfl) same]
  exact twins_runRounds counted _ _ _ _

theorem beginConversation_core (skillPrompt playbookPrompt : String) (turn : Turn) :
    ∃ history, beginConversation world skillPrompt playbookPrompt turn =
      (.ok ⟨⟩, { turn with loaded := { turn.loaded with
        state := { turn.session with conversationHistory := history } } }) := by
  rw [beginConversation, session_bind]
  cases turn.session.conversationHistory with
  | nil => exact ⟨_, rfl⟩
  | cons first rest => exact ⟨turn.session.conversationHistory, rfl⟩

theorem twins_beginConversation (skillPrompt playbookPrompt : String) :
    Twins (Paired counts) (beginConversation world skillPrompt playbookPrompt)
      (beginConversation world skillPrompt playbookPrompt) := by
  intro one two same
  obtain ⟨history, first⟩ := @beginConversation_core world skillPrompt playbookPrompt one
  obtain ⟨other, second⟩ := @beginConversation_core world skillPrompt playbookPrompt two
  rw [first, second]
  exact ⟨rfl, { same with }⟩

theorem twins_respond (counted : counts) (message skillPrompt playbookPrompt : String) :
    Twins (Paired counts) (respond config world message skillPrompt playbookPrompt)
      (respond config world message skillPrompt playbookPrompt) := by
  refine twins_bind (twins_beginConversation _ _) fun _ => twins_bind (twins_append _ _) fun _ => ?_
  apply twins_rescue (twins_runLoop counted)
  intro exn
  cases exn with
  | creditExhausted estimatedRecovery => exact twins_degrade counted _ _
  | unavailable => exact twins_degrade counted _ _
  | error => exact twins_raise _

theorem twins_converse (counted : counts) (message : String) :
    Twins (Paired counts) (converse config world user message)
      (converse config world user message) := by
  rw [converse]
  apply twins_session
  intro first second same
  rw [read_of_core SessionState.isFirstLaunch (fun _ => rfl) same,
    read_of_core SessionState.agentName (fun _ => rfl) same]
  by_cases naming : second.isFirstLaunch ∧ second.agentName = ""
  · rw [if_pos naming]
    exact twins_handleAgentNaming counted message
  · rw [if_neg naming]
    exact twins_bind (twins_resolveSkillContext message) fun prompts =>
      twins_respond counted message _ _

theorem twins_countMessage : Twins (Paired counts) countMessage countMessage :=
  twins_modifySession fun _ _ same => same

theorem twins_handleMessage (counted : counts) (message : String) :
    Twins (Paired counts) (handleMessage config world user message)
      (handleMessage config world user message) := by
  refine twins_bind twins_countMessage fun _ => ?_
  apply twins_session
  intro first second same
  rw [read_of_core SessionState.mode (fun _ => rfl) same]
  cases second.mode with
  | full => exact twins_converse counted message
  | dataOnly =>
    have stays : Twins (Paired counts) (stayDataOnly config world message)
        (stayDataOnly config world message) :=
      twins_bind (twins_handleDataOnlyMessage counted _ _) fun result =>
        twins_respond_of fun sessionId => { message := result, sessionId, dataOnlyMode := true }
    apply twins_rescue
    · exact twins_bind (twins_askLlm counted _ _ _ _ _ _) fun _ =>
        twins_bind (twins_update fun _ => rfl) fun _ =>
          twins_bind twins_countMessage fun _ => twins_converse counted message
    · intro exn
      cases exn with
      | creditExhausted estimatedRecovery => exact stays
      | unavailable => exact stays
      | error => exact twins_raise _

theorem twins_clearPendingConfirmation : Twins (Paired counts) (clearPendingConfirmation world)
    (clearPendingConfirmation world) :=
  twins_bind (twins_update fun _ => rfl) fun _ => twins_save

theorem twins_handleConfirm (counted : counts) (confirmationId : String) :
    Twins (Paired counts) (handleConfirm config world confirmationId)
      (handleConfirm config world confirmationId) := by
  rw [handleConfirm]
  apply twins_session
  intro first second same
  rw [read_of_core SessionState.pendingConfirmation (fun _ => rfl) same,
    read_of_core SessionState.sessionId (fun _ => rfl) same]
  cases second.pendingConfirmation with
  | none => exact twins_pure _
  | some pending =>
    dsimp only
    by_cases other : pending.confirmationId ≠ confirmationId
    · rw [if_pos other]
      exact twins_pure _
    · rw [if_neg other]
      refine twins_bind (twins_callTool counted _ _) fun result => ?_
      refine twins_bind twins_clearPendingConfirmation fun _ => ?_
      apply twins_session
      intro one two alike
      rw [read_of_core SessionState.pendingConfirmation (fun _ => rfl) alike]
      cases two.pendingConfirmation with
      | none => exact twins_raise _
      | some pending =>
        refine twins_bind (twins_append _ _) fun _ => ?_
        apply twins_session
        intro before after agree
        rw [read_of_core SessionState.sessionId (fun _ => rfl) agree]
        refine twins_bind ?_ fun text => ?_
        · apply twins_rescue
          · exact twins_bind (twins_askLlm counted _ _ _ _ _ _) fun _ => twins_pure _
          · intro exn
            cases exn with
            | creditExhausted estimatedRecovery => exact twins_pure _
            | unavailable => exact twins_pure _
            | error => exact twins_raise _
        · exact twins_bind (twins_append _ _) fun _ => twins_bind twins_save fun _ =>
            twins_pure _

theorem twins_handleCancel (confirmationId : String) :
    Twins (Paired counts) (handleCancel world confirmationId)
      (handleCancel world confirmationId) := by
  rw [handleCancel]
  apply twins_session
  intro first second same
  rw [read_of_core SessionState.pendingConfirmation (fun _ => rfl) same,
    read_of_core SessionState.sessionId (fun _ => rfl) same]
  cases second.pendingConfirmation with
  | none => exact twins_pure _
  | some pending =>
    exact twins_bind twins_clearPendingConfirmation fun _ => twins_bind (twins_append _ _)
      fun _ => twins_bind twins_save fun _ => twins_pure _

theorem twins_handle (counted : counts) (action : Action) :
    Twins (Paired counts) (handle config world user action)
      (handle config world user action) := by
  cases action with
  | init => exact twins_handleInit counted
  | chat message => exact twins_handleMessage counted message
  | confirm confirmationId => exact twins_handleConfirm counted confirmationId
  | cancel confirmationId => exact twins_handleCancel confirmationId

end Requests

end Chat

end Onpremai.Conversation
