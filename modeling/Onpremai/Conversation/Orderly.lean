import Onpremai.Conversation.AgentLoop

/-!
# Orderly handlers

What a request does to the process, it does by a few operations: it looks at its session and
changes it, asks the language model, calls tools, saves, and uses the caches.  The identifier
and the owner of a session never change.
-/

namespace Onpremai.Conversation

open Onpremai.Library
open Onpremai.Assistant (UserContext)

/-- Two session states with the same identifier and the same owner. -/
structure SameOwner (first second : SessionState) : Prop where
  sessionId : first.sessionId = second.sessionId
  tenantId : first.tenantId = second.tenantId
  userId : first.userId = second.userId

theorem sameOwner_nextStep (playbook : Playbook) (state : SessionState) :
    SameOwner (nextStep playbook state) state := by
  rw [nextStep]
  split
  · exact ⟨rfl, rfl, rfl⟩
  · split
    · exact ⟨rfl, rfl, rfl⟩
    · split
      · exact ⟨rfl, rfl, rfl⟩
      · exact ⟨rfl, rfl, rfl⟩

def Event.Plain (event : Event) : Prop := ∀ key, event ≠ .lookedUp key ∧ event ≠ .cached key

namespace Chat

open Handler

/-- Code that is made of the operations of a request. -/
inductive Orderly (world : World) : {α : Type} → Chat α → Prop where
  | pure {α : Type} (value : α) : Orderly world (pure value : Chat α)
  | raise {α : Type} (failure : Failure) : Orderly world (raise failure : Chat α)
  | bind {α β : Type} {handler : Chat α} {next : α → Chat β} (first : Orderly world handler)
      (second : ∀ value, Orderly world (next value)) : Orderly world (handler >>= next)
  | rescue {α : Type} {handler : Chat α} {recover : Failure → Chat α}
      (first : Orderly world handler) (second : ∀ exn, Orderly world (recover exn)) :
      Orderly world (handler.rescue recover)
  | session : Orderly world session
  | counted {α : Type} (view : Nat → α) : Orderly world (look fun turn => view turn.called)
  | modifySession {update : SessionState → SessionState}
      (owner : ∀ state, SameOwner (update state) state) : Orderly world (modifySession update)
  | askLlm (task : String) (messages : List Message) (tools : Option (List Json)) :
      Orderly world (askLlm world task messages tools)
  | callTool {event : ToolResult → Event} (plain : ∀ result, (event result).Plain) :
      Orderly world (callTool world event)
  | save : Orderly world (save world)
  | cachedSkill (skillId : String) : Orderly world (cachedSkill skillId)
  | cacheSkill (skillId : String) (skill : Skill) : Orderly world (cacheSkill skillId skill)
  | cachedPlaybook (playbookId : String) : Orderly world (cachedPlaybook playbookId)
  | cachePlaybook (playbookId : String) (playbook : Playbook) :
      Orderly world (cachePlaybook playbookId playbook)

variable {config : Config} {world : World} {user : UserContext}

theorem Consults.orderly {α : Type} {handler : Chat α} (consults : Consults handler) :
    Orderly world handler := by
  induction consults with
  | pure value => exact .pure value
  | bind _ _ ih₁ ih₂ => exact .bind ih₁ ih₂
  | session => exact .session
  | cachedSkill skillId => exact .cachedSkill skillId
  | cacheSkill skillId skill => exact .cacheSkill skillId skill
  | cachedPlaybook playbookId => exact .cachedPlaybook playbookId
  | cachePlaybook playbookId playbook => exact .cachePlaybook playbookId playbook

theorem orderly_append (message : Message) : Orderly world (append message) :=
  .modifySession fun _ => ⟨rfl, rfl, rfl⟩

theorem orderly_clearPendingConfirmation : Orderly world (clearPendingConfirmation world) :=
  .bind (.modifySession fun _ => ⟨rfl, rfl, rfl⟩) fun _ => .save

theorem orderly_advanceStep : Orderly world (advanceStep config world) := by
  rw [advanceStep]
  refine .bind .session fun state => ?_
  split
  · exact .pure _
  · refine .bind (consults_loadPlaybook _ _).orderly fun found => ?_
    cases found with
    | none => exact .pure _
    | some playbook => exact .modifySession (sameOwner_nextStep playbook)

section

variable (message : String) (estimatedRecovery : Option String)

theorem orderly_handleDataOnlyMessage :
    Orderly world (handleDataOnlyMessage config world message estimatedRecovery) := by
  rw [handleDataOnlyMessage]
  split
  · exact .pure _
  · refine .bind (.callTool fun _ _ => ⟨Event.noConfusion, Event.noConfusion⟩) fun result => ?_
    cases result with
    | success data => exact .pure _
    | error reason => exact .pure _
    | confirmationRequired summary => exact .pure _

theorem orderly_degrade : Orderly world (degrade config world message estimatedRecovery) :=
  .bind (.modifySession fun _ => ⟨rfl, rfl, rfl⟩) fun _ => .bind .save fun _ =>
    .bind (orderly_handleDataOnlyMessage message estimatedRecovery) fun _ =>
      .bind .session fun _ => .pure _

end

theorem orderly_greet (systemPrompt : String) : Orderly world (greet world systemPrompt) :=
  .bind .session fun _ => .bind (.askLlm _ _ _) fun _ =>
    .bind (.modifySession fun _ => ⟨rfl, rfl, rfl⟩) fun _ => .bind .save fun _ => .pure _

theorem orderly_introduce : Orderly world (introduce world) := by
  rw [introduce]
  split
  · exact .modifySession fun _ => ⟨rfl, rfl, rfl⟩
  · exact .modifySession fun _ => ⟨rfl, rfl, rfl⟩

theorem orderly_handleInit : Orderly world (handleInit config world user) := by
  refine .bind orderly_introduce fun _ => ?_
  refine .bind (consults_loadForRole _ _).orderly fun skills => ?_
  refine .bind (.modifySession fun _ => ⟨rfl, rfl, rfl⟩) fun _ => ?_
  refine .bind (consults_resumedPlaybookPrompt _).orderly fun playbookPrompt => ?_
  refine .bind (consults_activeSkillPrompt _).orderly fun skillPrompt => ?_
  refine .bind .session fun state => ?_
  apply Orderly.rescue (orderly_greet _)
  intro exn
  cases exn with
  | creditExhausted estimatedRecovery => exact orderly_degrade _ _
  | unavailable =>
    exact .bind (.modifySession fun _ => ⟨rfl, rfl, rfl⟩) fun _ => .bind .save fun _ => .pure _
  | error => exact .raise _

theorem orderly_resolveSkillContext (message : String) :
    Orderly world (resolveSkillContext config world user message) := by
  rw [resolveSkillContext]
  refine .bind (consults_resumedPlaybookPrompt _).orderly fun playbookPrompt => ?_
  refine .bind .session fun state => ?_
  split
  · refine .bind (.modifySession fun _ => ⟨rfl, rfl, rfl⟩) fun _ => ?_
    refine .bind (consults_getSkillPrompt _ _).orderly fun skillPrompt => ?_
    refine .bind (consults_getSkillPlaybook _ _).orderly fun playbookId => ?_
    split
    · refine .bind (.modifySession fun _ => ⟨rfl, rfl, rfl⟩) fun _ => ?_
      exact .bind (consults_getStepPrompt _ _ _ _).orderly fun _ => .pure _
    · exact .pure _
  · exact .bind (consults_activeSkillPrompt _).orderly fun _ => .pure _

section Naming

theorem orderly_acknowledgeName (content : String) :
    Orderly world (acknowledgeName world content) :=
  .bind (.modifySession fun _ => ⟨rfl, rfl, rfl⟩) fun _ => .bind (orderly_append _) fun _ =>
    .bind .save fun _ => .bind .session fun _ => .pure _

theorem orderly_handleAgentNaming (message : String) :
    Orderly world (handleAgentNaming world message) := by
  refine .bind (.modifySession fun _ => ⟨rfl, rfl, rfl⟩) fun _ => ?_
  refine .bind (orderly_append _) fun _ => .bind (orderly_append _) fun _ => ?_
  apply Orderly.rescue
  · exact .bind .session fun _ => .bind (.askLlm _ _ _) fun _ => orderly_acknowledgeName _
  · intro exn
    cases exn with
    | creditExhausted estimatedRecovery => exact orderly_acknowledgeName _
    | unavailable => exact orderly_acknowledgeName _
    | error => exact .raise _

end Naming

section Loop

variable {content : String} {toolCalls : List ToolCall}

theorem orderly_pauseFor (actions : List ToolAction) (call : ToolCall) (params summary : Json) :
    Orderly world (pauseFor world content toolCalls actions call params summary) := by
  rw [pauseFor]
  refine .bind (.counted world.freshId) fun confirmationId => ?_
  split
  · exact .raise _
  · refine .bind (.bind (.modifySession fun _ => ⟨rfl, rfl, rfl⟩) fun _ => .save) fun _ => ?_
    refine .bind (orderly_append _) fun _ => ?_
    exact .bind .save fun _ => .bind .session fun _ => .pure _

theorem orderly_runCalls (calls : List ToolCall) (actions : List ToolAction) :
    Orderly world (runCalls config world content toolCalls calls actions) := by
  induction calls generalizing actions with
  | nil => exact .pure _
  | cons call rest ih =>
    rw [runCalls]
    refine .bind (.counted fun called => call.id.getD (world.freshId called)) fun toolId => ?_
    refine .bind (.callTool fun _ _ => ⟨Event.noConfusion, Event.noConfusion⟩) fun result => ?_
    have recorded (text : String) : Orderly world (recordCall content call toolId text) :=
      .bind (orderly_append _) fun _ => orderly_append _
    cases result with
    | success data => exact .bind (recorded _) fun _ => ih _
    | error reason => exact .bind (recorded _) fun _ => ih _
    | confirmationRequired summary => exact orderly_pauseFor _ _ _ _

theorem orderly_finish (actions : List ToolAction) :
    Orderly world (finish config world content actions) :=
  .bind (orderly_append _) fun _ => .bind .save fun _ => .bind orderly_advanceStep fun _ =>
    .bind .session fun _ => .pure _

theorem orderly_giveUp (actions : List ToolAction) : Orderly world (giveUp world actions) :=
  .bind (orderly_append _) fun _ => .bind .save fun _ => .bind .session fun _ => .pure _

theorem orderly_runRounds {tools : List Fields} (rounds : Nat) (task : String)
    (actions : List ToolAction) :
    Orderly world (runRounds config world tools rounds task actions) := by
  induction rounds generalizing task actions with
  | zero => exact orderly_giveUp actions
  | succ rounds ih =>
    rw [runRounds]
    refine .bind .session fun state => .bind (.askLlm _ _ _) fun answer => ?_
    cases answer with
    | mk content toolCalls =>
      cases toolCalls with
      | nil => exact orderly_finish actions
      | cons call others =>
        refine .bind (orderly_runCalls _ actions) fun ended => ?_
        cases ended with
        | paused response => exact .pure _
        | completed actions => exact ih _ actions

end Loop

theorem orderly_respond (message skillPrompt playbookPrompt : String) :
    Orderly world (respond config world message skillPrompt playbookPrompt) := by
  have begun : Orderly world (beginConversation world skillPrompt playbookPrompt) := by
    refine .bind .session fun state => ?_
    split
    · exact orderly_append _
    · exact .pure _
  refine .bind begun fun _ => .bind (orderly_append _) fun _ => ?_
  apply Orderly.rescue (.bind .session fun state => orderly_runRounds _ _ _)
  intro exn
  cases exn with
  | creditExhausted estimatedRecovery => exact orderly_degrade _ _
  | unavailable => exact orderly_degrade _ _
  | error => exact .raise _

theorem orderly_converse (message : String) :
    Orderly world (converse config world user message) := by
  rw [converse]
  refine .bind .session fun state => ?_
  split
  · exact orderly_handleAgentNaming message
  · exact .bind (orderly_resolveSkillContext message) fun _ => orderly_respond _ _ _

theorem orderly_handleMessage (message : String) :
    Orderly world (handleMessage config world user message) := by
  have counted : Orderly world countMessage := .modifySession fun _ => ⟨rfl, rfl, rfl⟩
  rw [handleMessage]
  refine .bind counted fun _ => .bind .session fun state => ?_
  split
  · apply Orderly.rescue
    · refine .bind (.askLlm _ _ _) fun _ => ?_
      refine .bind (.modifySession fun _ => ⟨rfl, rfl, rfl⟩) fun _ => ?_
      exact .bind counted fun _ => orderly_converse message
    · have stays : Orderly world (stayDataOnly config world message) :=
        .bind (orderly_handleDataOnlyMessage message none) fun _ => .bind .session fun _ => .pure _
      intro exn
      cases exn with
      | creditExhausted estimatedRecovery => exact stays
      | unavailable => exact stays
      | error => exact .raise _
  · exact orderly_converse message

theorem orderly_handleConfirm (confirmationId : String) :
    Orderly world (handleConfirm config world confirmationId) := by
  rw [handleConfirm]
  refine .bind .session fun state => ?_
  split
  · exact .pure _
  · split
    · exact .pure _
    · refine .bind (.callTool fun _ _ => ⟨Event.noConfusion, Event.noConfusion⟩) fun result => ?_
      refine .bind orderly_clearPendingConfirmation fun _ => .bind .session fun state => ?_
      split
      · exact .raise _
      · refine .bind (orderly_append _) fun _ => .bind .session fun state => ?_
        refine .bind (.rescue ?_ ?_) fun text => ?_
        · exact .bind (.askLlm _ _ _) fun _ => .pure _
        · intro exn
          cases exn with
          | creditExhausted estimatedRecovery => exact .pure _
          | unavailable => exact .pure _
          | error => exact .raise _
        · exact .bind (orderly_append _) fun _ => .bind .save fun _ => .pure _

theorem orderly_handleCancel (confirmationId : String) :
    Orderly world (handleCancel world confirmationId) := by
  rw [handleCancel]
  refine .bind .session fun state => ?_
  split
  · exact .pure _
  · refine .bind orderly_clearPendingConfirmation fun _ => ?_
    exact .bind (orderly_append _) fun _ => .bind .save fun _ => .pure _

theorem orderly_handle (action : Action) : Orderly world (handle config world user action) := by
  cases action with
  | init => exact orderly_handleInit
  | chat message => exact orderly_handleMessage message
  | confirm confirmationId => exact orderly_handleConfirm confirmationId
  | cancel confirmationId => exact orderly_handleCancel confirmationId

theorem Orderly.sessionId {α : Type} {handler : Chat α} (orderly : Orderly world handler)
    (sessionId : String) :
    Keeps (fun turn : Turn => turn.session.sessionId = sessionId) handler := by
  induction orderly with
  | pure value => exact keeps_pure value
  | raise failure => exact keeps_raise failure
  | bind _ _ ih₁ ih₂ => exact keeps_bind ih₁ ih₂
  | rescue _ _ ih₁ ih₂ => exact keeps_rescue ih₁ ih₂
  | session => exact keeps_look _
  | counted view => exact keeps_look _
  | modifySession owner => exact fun turn same => (owner turn.session).sessionId.trans same
  | askLlm task messages tools =>
    intro turn same
    rw [askLlm_eq]
    exact same
  | callTool plain => exact fun _ same => same
  | save => exact fun _ same => same
  | cachedSkill skillId => exact fun _ same => same
  | cacheSkill skillId skill => exact fun _ same => same
  | cachedPlaybook playbookId => exact fun _ same => same
  | cachePlaybook playbookId playbook => exact fun _ same => same

end Chat

end Onpremai.Conversation
