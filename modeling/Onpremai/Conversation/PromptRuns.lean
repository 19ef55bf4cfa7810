import Onpremai.Conversation.CurrentPrompts
import Onpremai.Conversation.TranscriptRuns

/-!
# Prompts over the turns of a session

A turn that begins a conversation shows the current prompts.  Any other one shows what the
conversation was begun with.
-/

namespace Onpremai.Conversation

open Onpremai.Library
open Onpremai.Assistant (UserContext agentNameOf)

/-- A request with the world around it and the sources of its system prompt. -/
structure PromptedRequest (str : Json → String) where
  request : Request
  world : World
  sources : PromptSources
  builds : Returns (build str sources)

def PromptedRequest.prompting {str : Json → String} (prompted : PromptedRequest str) : World :=
  promptingWorld str prompted.sources prompted.world

namespace Chat

open Handler

variable (config : Config) (world : World) (user : UserContext)

def sessionPrompts : Chat (String × String) := do
  let playbookPrompt ← resumedPlaybookPrompt config world user.tenantId
  let skillPrompt ← activeSkillPrompt config world user.tenantId
  return (skillPrompt, playbookPrompt)

def messagePrompts (message : String) : Chat (String × String) := do
  let state ← session
  if state.isFirstLaunch ∧ state.agentName = "" then sessionPrompts config world user
  else resolveSkillContext config world user message

def turnPrompts : Action → Chat (String × String)
  | .init => do
    introduce world
    let skills ← loadForRole config world user.role user.tenantId
    modifySession fun state =>
      { state with
        skillsLoaded := skills.map Skill.id
        toolsCache := world.tools
        persona := config.personaOf user.role }
    sessionPrompts config world user
  | .chat message => do
    countMessage
    let state ← session
    match state.mode with
    | .full => messagePrompts config world user message
    | .dataOnly => do
      let _ ← askLlm world "chat_response" ping none
      modifySession fun state => { state with mode := .full }
      countMessage
      messagePrompts config world user message
  | .confirm _ | .cancel _ => sessionPrompts config world user

end Chat

section Property

variable (config : Config) {str : Json → String} (process : Process)
  (prompted : PromptedRequest str)

def startTurn (request : Request) (world : World) : Option Turn :=
  (process.sessions.getOrCreate request.sessionId request.user world.recalled).map fun loaded =>
    { process, loaded, log := [.loaded loaded.kept] }

def HasPrompts (turn : Turn) (prompts : String × String) : Prop :=
  startTurn process prompted.request prompted.prompting = some turn ∧
    (Chat.turnPrompts config prompted.prompting prompted.request.user prompted.request.action
      turn).1 = .ok prompts ∧ (prompts.1 ≠ "" ∨ prompts.2 ≠ "")

/-- The language model sees the prompts of the active skill and the current step, where there
are some, and none of an earlier step. -/
def PresentsCurrent : Prop := ∀ turn prompts, HasPrompts config process prompted turn prompts →
    SendsCurrent str prompts
      (serve config process prompted.request prompted.prompting).log

/-- What a message needs to show its prompts: it begins a conversation, or continues one whose
system prompt was built for them.  The answer to the question for the agent's name never begins
one, and a tool loop without rounds sends nothing. -/
def Continues (str : Json → String) (prompts : String × String) (state : SessionState) : Prop :=
  (IsNaming state ∨ state.conversationHistory ≠ [] ∧ config.settings.maxToolRounds ≠ 0) →
    Current str prompts state.conversationHistory

def Begun : Prop := ∀ turn prompts, HasPrompts config process prompted turn prompts →
    ∀ message, prompted.request.action = .chat message → Continues config str prompts turn.session

end Property

namespace Chat

open Handler

variable {config : Config} {world : World} {user : UserContext} {str : Json → String}
  {prompts : String × String} {turn : Turn}

theorem unasking_resolveSkillContext (message : String) :
    Unasking (resolveSkillContext config world user message) := fun sent =>
  keeps_resolveSkillContext (fun consults => consults.unasking sent)
    (fun _ _ => keeps_change fun _ same => same) message

theorem history_resolveSkillContext (message : String) (history : List Message) :
    Keeps (fun turn : Turn => turn.session.conversationHistory = history)
      (resolveSkillContext config world user message) := by
  refine keeps_resolveSkillContext (fun consults => consults.keepsLoaded fun loaded =>
    loaded.state.conversationHistory = history) (fun update resolves => ?_) message
  intro turn same
  obtain ⟨_, _, _, _, changed⟩ := resolves turn.session
  exact (congrArg SessionState.conversationHistory changed).trans same

theorem sent_asks {α : Type} (task : String) (tools : SessionState → Option (List Json))
    {next : SessionState → String × List ToolCall → Chat α}
    (orderly : ∀ state answer, Orderly world (next state answer)) (turn : Turn) :
    turn.session.conversationHistory ∈ sentMessages ((session >>= fun state =>
      askLlm world task state.conversationHistory (tools state) >>= next state) turn).2.log := by
  rw [session_bind]
  have first : (fun after : Turn => turn.session.conversationHistory ∈ sentMessages after.log)
      (askLlm world task turn.session.conversationHistory (tools turn.session) turn).2 := by
    rw [askLlm_eq]
    exact List.mem_filterMap.mpr ⟨_, List.mem_concat_self, rfl⟩
  exact keeps_bind_at first fun answer => (orderly turn.session answer).sent _

theorem modifySession_bind {α : Type} (update : SessionState → SessionState)
    (next : Unit → Chat α) (turn : Turn) : (modifySession update >>= next) turn = next ()
      { turn with loaded := { turn.loaded with state := update turn.session } } := rfl

theorem ne_ping {messages : List Message} (long : 2 ≤ messages.length) : messages ≠ ping := by
  intro same
  rw [same] at long
  exact absurd long (by decide)

theorem current_concat_user (text : String) (messages : List Message) :
    Current str prompts (messages ++ [.user text]) ↔ Current str prompts messages := by
  apply current_congr
  rw [systemContents_append]
  exact List.append_nil _

theorem sendsCurrent_asks {α : Type} (sends : SendsCurrent str prompts turn.log) {task : String}
    {tools : SessionState → Option (List Json)}
    {next : SessionState → String × List ToolCall → Chat α}
    (unasking : ∀ state answer, Unasking (next state answer))
    (long : 2 ≤ turn.session.conversationHistory.length) :
    SendsCurrent str prompts ((session >>= fun state =>
      askLlm world task state.conversationHistory (tools state) >>= next state) turn).2.log ↔
        Current str prompts turn.session.conversationHistory := by
  have sent : sentMessages ((session >>= fun state =>
      askLlm world task state.conversationHistory (tools state) >>= next state) turn).2.log =
        sentMessages turn.log ++ [turn.session.conversationHistory] := by
    rw [session_bind]
    have first : (fun after : Turn => sentMessages after.log =
        sentMessages turn.log ++ [turn.session.conversationHistory])
        (askLlm world task turn.session.conversationHistory (tools turn.session) turn).2 := by
      rw [askLlm_eq]
      exact List.filterMap_append
    exact keeps_bind_at first fun answer => unasking turn.session answer _
  rw [SendsCurrent, sent, List.forall_mem_append, List.forall_mem_singleton,
    imp_iff_right (ne_ping long)]
  exact and_iff_right sends

theorem sendsCurrent_rescue {α : Type} {handler : Chat α} {recover : Failure → Chat α}
    (unasking : ∀ exn, Unasking (recover exn)) (turn : Turn) :
    SendsCurrent str prompts (handler.rescue recover turn).2.log ↔
      SendsCurrent str prompts (handler turn).2.log := by
  rw [rescue]
  cases outcome : handler turn with
  | mk result after =>
    cases result with
    | ok value => exact Iff.rfl
    | error exn => exact (unasking exn).sendsCurrent_iff after

theorem sendsCurrent_handleAgentNaming (sends : SendsCurrent str prompts turn.log)
    (message : String) :
    SendsCurrent str prompts (handleAgentNaming world message turn).2.log ↔
      Current str prompts turn.session.conversationHistory := by
  rw [handleAgentNaming, modifySession_bind, append, modifySession_bind, append,
    modifySession_bind, sendsCurrent_rescue]
  · rw [sendsCurrent_asks]
    · dsimp only [Turn.session]
      rw [current_concat_user, current_concat_user]
    · exact sends
    · intro state answer
      exact unasking_acknowledgeName answer.1
    · dsimp only [Turn.session]
      simp
  · intro exn
    cases exn with
    | creditExhausted estimatedRecovery => exact unasking_acknowledgeName _
    | unavailable => exact unasking_acknowledgeName _
    | error => exact fun _ => keeps_raise _

theorem sendsCurrent_runLoop (sends : SendsCurrent str prompts turn.log)
    (long : 2 ≤ turn.session.conversationHistory.length) :
    SendsCurrent str prompts (runLoop config world turn).2.log ↔
      (config.settings.maxToolRounds ≠ 0 →
        Current str prompts turn.session.conversationHistory) := by
  rw [runLoop, session_bind]
  cases rounds : config.settings.maxToolRounds with
  | zero =>
    apply iff_of_true
    · exact ((unasking_giveUp _).sendsCurrent_iff turn).mpr sends
    · exact fun some => absurd rfl some
  | succ rounds =>
    rw [imp_iff_right (Nat.succ_ne_zero _)]
    constructor
    · intro shown
      apply shown _ _ (ne_ping long)
      rw [runRounds]
      apply @sent_asks world _ "tool_selection" (fun _ =>
        if turn.session.toolsCache.isEmpty then none
        else some (formatToolsForLlm turn.session.toolsCache))
      intro state answer
      cases answer with
      | mk content toolCalls =>
        cases toolCalls with
        | nil => exact orderly_finish _
        | cons call others =>
          refine .bind (orderly_runCalls _ _) fun ended => ?_
          cases ended with
          | paused response => exact .pure _
          | completed actions => exact orderly_runRounds _ _ _
    · intro current
      exact ((conversing_runRounds _ _ _).presenting turn ⟨current, sends⟩).sends

theorem beginConversation_nil (skillPrompt playbookPrompt : String)
    (none : turn.session.conversationHistory = []) :
    beginConversation world skillPrompt playbookPrompt turn =
      append (.system (world.prompt turn.session skillPrompt playbookPrompt)) turn := by
  rw [beginConversation, session_bind, none]

def goOnWithout (config : Config) (world : World) (message : String) : Failure → Chat ChatResponse
  | .creditExhausted estimatedRecovery => degrade config world message estimatedRecovery
  | .unavailable => degrade config world message none
  | .error => raise .error

theorem sendsCurrent_goOn (sends : SendsCurrent str prompts turn.log) {message : String}
    (begun : turn.session.conversationHistory ≠ []) {recover : Failure → Chat ChatResponse}
    (unasking : ∀ exn, Unasking (recover exn)) :
    SendsCurrent str prompts ((append (.user message) >>= fun _ =>
      (runLoop config world).rescue recover) turn).2.log ↔
      (config.settings.maxToolRounds ≠ 0 →
        Current str prompts turn.session.conversationHistory) := by
  rw [append, modifySession_bind, sendsCurrent_rescue unasking, sendsCurrent_runLoop]
  · dsimp only [Turn.session]
    rw [current_concat_user]
  · exact sends
  · have some := List.length_pos_iff.mpr begun
    dsimp only [Turn.session] at some ⊢
    rw [List.length_append, List.length_singleton]
    omega

theorem sendsCurrent_respond (sends : SendsCurrent str prompts turn.log) {message : String}
    (shown : ∀ state, Shows str prompts (world.prompt state prompts.1 prompts.2)) :
    SendsCurrent str prompts (respond config world message prompts.1 prompts.2 turn).2.log ↔
      (turn.session.conversationHistory ≠ [] ∧ config.settings.maxToolRounds ≠ 0 →
        Current str prompts turn.session.conversationHistory) := by
  have degrades : ∀ exn, Unasking (goOnWithout config world message exn) := by
    intro exn
    cases exn with
    | creditExhausted estimatedRecovery => exact unasking_degrade _ _
    | unavailable => exact unasking_degrade _ _
    | error => exact fun _ => keeps_raise _
  cases history : turn.session.conversationHistory with
  | nil =>
    apply iff_of_true
    · have ran : beginConversation world prompts.1 prompts.2 turn =
          (.ok ⟨⟩, { turn with loaded := { turn.loaded with state := { turn.session with
            conversationHistory := turn.session.conversationHistory ++
              [.system (world.prompt turn.session prompts.1 prompts.2)] } } }) := by
        exact (beginConversation_nil prompts.1 prompts.2 history).trans rfl
      rw [respond, bind_of_ok ran]
      refine (sendsCurrent_goOn ?_ ?_ degrades).mpr fun _ => ?_
      · exact sends
      · simp [Turn.session]
      · constructor
        · simp [Turn.session, systemContents]
        · intro content member
          have only : content ∈ systemContents (turn.session.conversationHistory ++
            [.system (world.prompt turn.session prompts.1 prompts.2)]) := member
          rw [history] at only
          rw [List.mem_singleton.mp only]
          exact shown _
    · exact fun begun => absurd rfl begun.1
  | cons first rest =>
    rw [and_iff_right (List.cons_ne_nil first rest), ← history]
    have ran : beginConversation world prompts.1 prompts.2 turn = (.ok ⟨⟩, turn) := by
      rw [beginConversation, session_bind, history]
      rfl
    rw [respond, bind_of_ok ran]
    refine sendsCurrent_goOn sends ?_ degrades
    rw [history]
    exact List.cons_ne_nil first rest

theorem sendsCurrent_converse (sends : SendsCurrent str prompts turn.log) {message : String}
    (shown : ∀ state, Shows str prompts (world.prompt state prompts.1 prompts.2))
    (resolved : (messagePrompts config world user message turn).1 = .ok prompts) :
    SendsCurrent str prompts (converse config world user message turn).2.log ↔
      Continues config str prompts turn.session := by
  rw [messagePrompts, session_bind] at resolved
  rw [converse, session_bind, Continues]
  by_cases naming : IsNaming turn.session
  · rw [if_pos naming, sendsCurrent_handleAgentNaming sends, imp_iff_right (.inl naming)]
  · rw [if_neg naming] at resolved
    have ran : resolveSkillContext config world user message turn =
        (.ok prompts, (resolveSkillContext config world user message turn).2) :=
      Prod.ext resolved rfl
    have same := @history_resolveSkillContext config world user message
      turn.session.conversationHistory turn rfl
    rw [if_neg naming, bind_of_ok ran]
    dsimp only
    rw [sendsCurrent_respond (((unasking_resolveSkillContext message).sendsCurrent_iff turn).mpr
      sends) shown, same]
    apply imp_congr_left
    exact (or_iff_right naming).symm

/-- How a message is answered where the language model is not back. -/
def stayWithout (config : Config) (world : World) (message : String) : Failure → Chat ChatResponse
  | .creditExhausted _ | .unavailable => stayDataOnly config world message
  | .error => raise .error

theorem unasking_stayDataOnly (message : String) : Unasking (stayDataOnly config world message) :=
  (unasking_handleDataOnlyMessage message none).bind fun _ =>
    (unasking_look _).bind fun _ => unasking_pure _

theorem sendsCurrent_handleMessage (sends : SendsCurrent str prompts turn.log) {message : String}
    (shown : ∀ state, Shows str prompts (world.prompt state prompts.1 prompts.2))
    (resolved : (turnPrompts config world user (.chat message) turn).1 = .ok prompts) :
    SendsCurrent str prompts (handleMessage config world user message turn).2.log ↔
      Continues config str prompts turn.session := by
  have goesOn {α : Type} (next : Unit → Chat α) (turn : Turn) :
      (countMessage >>= next) turn = next () (countMessage turn).2 := rfl
  have same : (countMessage turn).2.session.mode = turn.session.mode := rfl
  rw [turnPrompts, goesOn, session_bind, same] at resolved
  rw [handleMessage, goesOn, session_bind, same]
  cases mode : turn.session.mode with
  | full =>
    rw [mode] at resolved
    exact @sendsCurrent_converse config world user str prompts (countMessage turn).2 sends
      message shown resolved
  | dataOnly =>
    rw [mode] at resolved
    have stays : ∀ exn, Unasking (stayWithout config world message exn) := by
      intro exn
      cases exn with
      | creditExhausted estimatedRecovery => exact unasking_stayDataOnly message
      | unavailable => exact unasking_stayDataOnly message
      | error => exact fun _ => keeps_raise _
    refine (sendsCurrent_rescue stays _).trans ?_
    have asks := askLlm_eq world "chat_response" ping none (countMessage turn).2
    cases answer : answerOf (world.llm (countMessage turn).2.asked) with
    | error exn =>
      rw [answer] at asks
      dsimp only at resolved
      rw [bind_of_error asks] at resolved
      cases resolved
    | ok reply =>
      rw [answer] at asks
      dsimp only at resolved
      rw [bind_of_ok asks, modifySession_bind, goesOn] at resolved
      rw [show ([.user "ping"] : List Message) = ping from rfl, bind_of_ok asks,
        modifySession_bind, goesOn]
      refine sendsCurrent_converse ?_ shown resolved
      exact sendsCurrent_concat sends fun messages sent other =>
        absurd (List.mem_singleton.mp sent) other

theorem unasking_clearPendingConfirmation : Unasking (clearPendingConfirmation world) :=
  (unasking_modifySession _).bind fun _ => unasking_save

/-- A confirmation is over before the language model would be asked for a summary. -/
theorem unasking_handleConfirm (confirmationId : String) :
    Unasking (handleConfirm config world confirmationId) := by
  intro sent turn same
  cases waiting : turn.session.pendingConfirmation with
  | none =>
    rw [handleConfirm, session_bind, waiting]
    exact same
  | some pending =>
    by_cases matching : pending.confirmationId = confirmationId
    · rw [← matching, handleConfirm_eq waiting]
      apply unasking_clearPendingConfirmation sent
      exact @unasking_callTool world (.confirmed pending) (fun _ => rfl) sent turn same
    · rw [handleConfirm, session_bind, waiting]
      dsimp only
      rw [if_pos matching]
      exact same

theorem unasking_handleCancel (confirmationId : String) :
    Unasking (handleCancel world confirmationId) := by
  rw [handleCancel]
  refine (unasking_look _).bind fun state => ?_
  cases state.pendingConfirmation with
  | none => exact unasking_pure _
  | some pending =>
    exact unasking_clearPendingConfirmation.bind fun _ => (unasking_append _).bind fun _ =>
      unasking_save.bind fun _ => unasking_pure _

theorem introduce_ran (turn : Turn) :
    introduce world turn = (.ok ⟨⟩, (introduce world turn).2) := by
  rw [introduce]
  cases world.userState with
  | none => rfl
  | some agentName => rfl

theorem unasking_introduce : Unasking (introduce world) := by
  rw [introduce]
  cases world.userState with
  | none => exact unasking_modifySession _
  | some agentName => exact unasking_modifySession _

theorem sendsCurrent_greet (sends : SendsCurrent str prompts turn.log) {systemPrompt : String}
    (shown : Shows str prompts systemPrompt) :
    SendsCurrent str prompts (greet world systemPrompt turn).2.log := by
  rw [greet, session_bind]
  have greeted : Current str prompts [.system systemPrompt, .user world.opener] := by
    refine ⟨List.cons_ne_nil _ _, fun content member => ?_⟩
    rw [List.mem_singleton.mp member]
    exact shown
  have first : ∀ task tools, (fun after : Turn => SendsCurrent str prompts after.log)
      (askLlm world task [.system systemPrompt, .user world.opener] tools turn).2 := by
    intro task tools
    rw [askLlm_eq]
    apply sendsCurrent_concat sends
    intro messages sent _
    rw [List.mem_singleton.mp sent]
    exact greeted
  refine @keeps_bind_at _ _ _ _ (fun after : Turn => SendsCurrent str prompts after.log) _ _ _
    (first _ _) fun answer after current => ?_
  refine (Unasking.sendsCurrent_iff ?_ after).mpr current
  exact (unasking_modifySession _).bind fun _ => unasking_save.bind fun _ => unasking_pure _

def startWithout (config : Config) (world : World) (state : SessionState) :
    Failure → Chat ChatResponse
  | .creditExhausted estimatedRecovery => degrade config world "init" estimatedRecovery
  | .unavailable => do
    modifySession fun state => { state with mode := .dataOnly }
    save world
    return {
      message :=
        "I'm having trouble connecting to the AI service. " ++
        "I can still help with data queries. " ++
        "Type STATUS, TASKS, OVERDUE, EVIDENCE, RISKS, or AUDIT."
      sessionId := state.sessionId
      dataOnlyMode := true }
  | .error => raise .error

theorem sendsCurrent_handleInit (sends : SendsCurrent str prompts turn.log)
    (shown : ∀ state tail, tail = "" ∨ tail = firstLaunchPrompt →
      Shows str prompts (world.prompt state prompts.1 prompts.2 ++ tail))
    (resolved : (turnPrompts config world user .init turn).1 = .ok prompts) :
    SendsCurrent str prompts (handleInit config world user turn).2.log := by
  have introduced := ((@unasking_introduce world).sendsCurrent_iff turn).mpr sends
  have introRan := @introduce_ran world turn
  obtain ⟨skills, loaded, loadRan, -⟩ :=
    (@consults_loadForRole config world user.role user.tenantId).ran (introduce world turn).2
  have kept := ((@consults_loadForRole config world user.role
    user.tenantId).unasking.sendsCurrent_iff (introduce world turn).2).mpr introduced
  rw [loadRan] at kept
  rw [turnPrompts, bind_of_ok introRan, bind_of_ok loadRan, modifySession_bind] at resolved
  rw [handleInit, bind_of_ok introRan, bind_of_ok loadRan, modifySession_bind]
  generalize started : ({ loaded with loaded := { loaded.loaded with state := { loaded.session with
      skillsLoaded := skills.map Skill.id
      toolsCache := world.tools
      persona := config.personaOf user.role } } } : Turn) = start at resolved ⊢
  have sent : SendsCurrent str prompts start.log := by
    rw [← started]
    exact kept
  obtain ⟨playbookPrompt, resumed, resumeRan, -⟩ :=
    (@consults_resumedPlaybookPrompt config world user.tenantId).ran start
  have sentResumed := ((@consults_resumedPlaybookPrompt config world
    user.tenantId).unasking.sendsCurrent_iff start).mpr sent
  rw [resumeRan] at sentResumed
  obtain ⟨skillPrompt, ready, readyRan, -⟩ :=
    (@consults_activeSkillPrompt config world user.tenantId).ran resumed
  have sentReady := ((@consults_activeSkillPrompt config world
    user.tenantId).unasking.sendsCurrent_iff resumed).mpr sentResumed
  rw [readyRan] at sentReady
  have prompted : sessionPrompts config world user start =
      (.ok (skillPrompt, playbookPrompt), ready) := by
    rw [sessionPrompts, bind_of_ok resumeRan, bind_of_ok readyRan]
    rfl
  rw [prompted] at resolved
  have same : (skillPrompt, playbookPrompt) = prompts := Except.ok.inj resolved
  rw [bind_of_ok resumeRan, bind_of_ok readyRan, session_bind]
  have recovers : ∀ exn, Unasking (startWithout config world ready.session exn) := by
    intro exn
    cases exn with
    | creditExhausted estimatedRecovery => exact unasking_degrade _ _
    | unavailable =>
      exact (unasking_modifySession _).bind fun _ => unasking_save.bind fun _ =>
        unasking_pure _
    | error => exact fun _ => keeps_raise _
  refine (sendsCurrent_rescue recovers ready).mpr (sendsCurrent_greet sentReady ?_)
  rw [← same] at shown ⊢
  apply shown
  split
  · exact .inr rfl
  · exact .inl rfl

end Chat

section Runs

variable {config : Config} {str : Json → String} {process : Process}
  {prompted : PromptedRequest str}

theorem log_serve {turn : Turn}
    (starts : startTurn process prompted.request prompted.prompting = some turn) :
    (serve config process prompted.request prompted.prompting).log =
      (Chat.handle config prompted.prompting prompted.request.user prompted.request.action
        turn).2.log := by
  rw [startTurn, Option.map_eq_some_iff] at starts
  obtain ⟨loaded, loads, same⟩ := starts
  rw [serve, loads, ← same]

theorem presentsCurrent_iff :
    PresentsCurrent config process prompted ↔ Begun config process prompted := by
  apply forall₃_congr
  intro turn prompts has
  obtain ⟨starts, resolved, -⟩ := has
  rw [log_serve starts]
  have sends : SendsCurrent str prompts turn.log := by
    rw [startTurn, Option.map_eq_some_iff] at starts
    obtain ⟨loaded, -, same⟩ := starts
    rw [← same]
    exact fun _ none => absurd none List.not_mem_nil
  have shown := fun state tail => @shows_prompt str prompted.sources prompted.builds prompted.world
    state prompts tail
  cases action : prompted.request.action with
  | init =>
    rw [action] at resolved
    apply iff_of_true
    · exact Chat.sendsCurrent_handleInit sends shown resolved
    · exact fun _ other => Action.noConfusion other
  | chat message =>
    rw [action] at resolved
    have plain : ∀ state,
        Shows str prompts (prompted.prompting.prompt state prompts.1 prompts.2) := by
      intro state
      have whole := shown state "" (.inl rfl)
      rw [String.append_empty] at whole
      exact whole
    refine (Chat.sendsCurrent_handleMessage sends plain resolved).trans ?_
    constructor
    · exact fun continues _ _ => continues
    · exact fun continues => continues message rfl
  | confirm confirmationId =>
    apply iff_of_true
    · exact ((Chat.unasking_handleConfirm confirmationId).sendsCurrent_iff turn).mpr sends
    · exact fun _ other => Action.noConfusion other
  | cancel confirmationId =>
    apply iff_of_true
    · exact ((Chat.unasking_handleCancel confirmationId).sendsCurrent_iff turn).mpr sends
    · exact fun _ other => Action.noConfusion other

def afterRequest (config : Config) (process : Process) (prompted : PromptedRequest str) : Process :=
  next (react config) process (prompted.request, prompted.prompting)

/-- In every run, each turn that has prompts of a skill or of a playbook's step shows the language
model these and no others, exactly when each message that has them begins a conversation or
continues one that was begun with them. -/
theorem presentsCurrent_always_iff (config : Config) (process : Process)
    (requests : List (PromptedRequest str)) :
    Allowed (afterRequest config) (PresentsCurrent config) process requests ↔
      Allowed (afterRequest config) (Begun config) process requests := by
  apply allowed_iff (afterRequest config) (fun _ => True)
  · exact fun _ _ _ => trivial
  · exact fun _ _ _ => presentsCurrent_iff
  · trivial

end Runs

theorem quieted_viewerSources : Quieted (fun _ => "") viewerSources where
  agentName := fun _ none => absurd none (Option.not_mem_none _)
  identity := by
    intro facts sanitized
    have isLine : Text.IsLine viewerSources.user.displayName := isLine_ofList.mpr (by decide)
    exact nameQuiet_of_isLine isLine sanitized
  events := fun _ none => absurd none List.not_mem_nil
  commitments := fun _ none => absurd none List.not_mem_nil
  readiness := by decide
  audit := by decide
  userName := quiet_of_isLine (isLine_ofList.mpr (by decide))
  role := quiet_of_isLine (isLine_ofList.mpr (by decide))
  userState := fun _ none => absurd none (Option.not_mem_none _)
  tasks := fun _ none => absurd none List.not_mem_nil
  activeSkill := by decide
  playbookStep := by decide

/-- An assistant with a skill that each message activates. -/
def evidenceConfig : Config :=
  { bareConfig with
    matchSkill := fun _ _ _ => some "evidence"
    defaultSkills := [{ id := "evidence", systemPrompt := some "Collect evidence." }] }

/-- A request of a viewer while the memory service is down. -/
def viewerRequest (action : Action) : PromptedRequest fun _ => "" where
  request := { sessionId := "s-1", user := viewerSources.user.toUserContext, action }
  world :=
    { calmWorld with
      recalled := .unavailable
      store := fun _ => { acknowledged := false, applied := false } }
  sources := viewerSources
  builds := returns_viewerSources

def greetedProcess : Process := afterRequest evidenceConfig {} (viewerRequest .init)

/-- The kept conversation goes on with the system prompt that it began with. -/
theorem skill_prompt_not_presented :
    ¬ (∀ (config : Config) (str : Json → String) (requests : List (PromptedRequest str)),
      Allowed (afterRequest config) (PresentsCurrent config) {} requests) := by
  intro claimed
  have presents : PresentsCurrent evidenceConfig greetedProcess (viewerRequest (.chat "Go on.")) :=
    (claimed evidenceConfig (fun _ => "") [viewerRequest .init, viewerRequest (.chat "Go on.")]).2.1
  have begun := presentsCurrent_iff.mp presents
  have continues := begun _ ("Collect evidence.", "") ⟨rfl, rfl, by decide⟩ "Go on." rfl
  have current := continues (.inr ⟨List.cons_ne_nil _ _, by decide⟩)
  have shown := current.2 _ List.mem_cons_self
  have headed : "## Active Skill" ∈ headings
      (promptText (build (fun _ => "") viewerSources) ++ "") := heading_of_shows shown (by decide)
  obtain ⟨layers, laid, -⟩ := returns_buildLayers returns_viewerSources "" "" []
  have built : build (fun _ => "") viewerSources =
      .ok (Text.joinParagraphs (layers.map Layer.text)) := bind_eq_ok.mpr ⟨layers, laid, rfl⟩
  rw [String.append_empty, built, promptText, (headings_joined laid).mpr quieted_viewerSources]
    at headed
  exact absurd headed (by decide)

end Onpremai.Conversation
