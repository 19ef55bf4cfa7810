import Onpremai.Conversation.AgentLoop
import Onpremai.Conversation.ContextBuilder

/-!
# Openings of a session

The events of a user are drained when a session starts, and go into the system prompt and the
opening message of one call of the language model.  What they say is lost where the call fails,
and where the lists are cut off.
-/

namespace Onpremai.Conversation

open Onpremai.Library
open Onpremai.Assistant (UserContext)

def openerText (events : List MemoryService.Event) : String :=
  "This is the start of our session. " ++
  "Greet me proactively with my current status and priorities." ++
    if events.isEmpty then "" else "\n\n" ++ EventQueueHandler.formatForOpener events

/-- The prompt that is built, where nothing was raised. -/
def promptText : Except String String → String
  | .ok prompt => prompt
  | .error _ => ""

def openingWorld (str : Json → String) (sources : PromptSources) (world : World)
    (events : List MemoryService.Event) : World :=
  { world with
    opener := openerText events
    prompt := fun _ activeSkillPrompt playbookStepPrompt =>
      promptText (build str { sources with activeSkillPrompt, playbookStepPrompt, events }) }

def drainEvents (queue : List MemoryService.Event) :
    List MemoryService.Event × List MemoryService.Event :=
  (queue, [])

def startSession (config : Config) (str : Json → String) (sources : PromptSources)
    (world : World) (process : Process) (loaded : Loaded) (events : List MemoryService.Event) :
    Except Failure ChatResponse × Turn :=
  Chat.handleInit config (openingWorld str sources world events) sources.user.toUserContext
    { process, loaded, log := [.loaded loaded.kept] }

/-- What a start of a session comes to, and what it leaves in the queue of the user. -/
structure Opening where
  result : Except Failure ChatResponse
  turn : Turn
  queue : List MemoryService.Event

def openSession (config : Config) (str : Json → String) (sources : PromptSources)
    (world : World) (process : Process) (loaded : Loaded) (queue : List MemoryService.Event) :
    Opening :=
  let drained := drainEvents queue
  let ran := startSession config str sources world process loaded
    (EventQueueHandler.sortEvents MemoryService.Event.priority drained.1)
  { result := ran.1, turn := ran.2, queue := drained.2 }

def Message.content : Message → String
  | .system content | .user content | .assistant content _ | .tool _ _ content => content

/-- What the language model read of a call that it answered. -/
def answeredTexts : Event → List String
  | .asked _ messages _ (.response _ _) => messages.map Message.content
  | _ => []

/-- What the language model read, and what the user got. -/
def shownTexts (ran : Except Failure ChatResponse × Turn) : List String :=
  ran.2.log.flatMap answeredTexts ++ (ran.1.toOption.map ChatResponse.message).toList

def retell (place : Nat) (summary : String) (events : List MemoryService.Event) :
    List MemoryService.Event :=
  events.modify place fun event => { event with summary }

/-- A call of the language model was answered. -/
def LlmOutcome.answered : LlmOutcome → Bool
  | .response _ _ => true
  | _ => false

namespace Chat

open Handler

def Unanswered (turn : Turn) : Prop := turn.log.flatMap answeredTexts = []

theorem unanswered_concat {turn : Turn} {event : Event} (unanswered : Unanswered turn)
    (silent : answeredTexts event = []) :
    (turn.log ++ [event]).flatMap answeredTexts = [] := by
  rw [List.flatMap_append, unanswered, List.flatMap_singleton, silent]
  rfl

theorem Consults.returns {α : Type} {handler : Chat α} (consults : Consults handler)
    {turn : Turn} (unanswered : Unanswered turn) :
    ∃ value after, handler turn = (.ok value, after) ∧ Unanswered after ∧
      after.asked = turn.asked := by
  induction consults generalizing turn with
  | pure value => exact ⟨value, turn, rfl, unanswered, rfl⟩
  | bind _ _ ih₁ ih₂ =>
    obtain ⟨value, middle, ran, silent, asked⟩ := ih₁ unanswered
    obtain ⟨result, after, continued, still, kept⟩ := ih₂ value silent
    exact ⟨result, after, (bind_of_ok ran _).trans continued, still, kept.trans asked⟩
  | session => exact ⟨turn.session, turn, rfl, unanswered, rfl⟩
  | cachedSkill skillId => exact ⟨_, _, rfl, unanswered_concat unanswered rfl, rfl⟩
  | cacheSkill skillId skill => exact ⟨_, _, rfl, unanswered_concat unanswered rfl, rfl⟩
  | cachedPlaybook playbookId => exact ⟨_, _, rfl, unanswered_concat unanswered rfl, rfl⟩
  | cachePlaybook playbookId playbook =>
    exact ⟨_, _, rfl, unanswered_concat unanswered rfl, rfl⟩

variable (config : Config) (world : World) (user : UserContext)

def saying (prompt : SessionState → String → String → String) (opener : String) : World :=
  { world with prompt, opener }

/-- How a session starts when the language model does not answer. -/
def recovery (state : SessionState) : Failure → Chat ChatResponse
  | .creditExhausted estimatedRecovery => degrade config world "init" estimatedRecovery
  | .unavailable => do
    modifySession fun state => { state with mode := .dataOnly }
    save world
    return {
      message :=
        "I'm having trouble connecting to the AI service. " ++
        "I can still help with data queries. " ++
        "Type STATUS, TASKS, OVERDUE, EVIDENCE, RISKS, or AUDIT."
      sessionId := state.sessionId
      dataOnlyMode := true }
  | .error => raise .error

def firstPrompt (state : SessionState) (skillPrompt playbookPrompt : String) : String :=
  world.prompt state skillPrompt playbookPrompt ++
    if state.isFirstLaunch then firstLaunchPrompt else ""

/-- What follows the preparations of a session. -/
def openWith (state : SessionState) (skillPrompt playbookPrompt : String) : Chat ChatResponse :=
  rescue (greet world (firstPrompt world state skillPrompt playbookPrompt))
    (recovery config world state)

theorem handleInit_eq {turn : Turn} (unanswered : Unanswered turn) :
    ∃ state skillPrompt playbookPrompt prepared, Unanswered prepared ∧
      prepared.asked = turn.asked ∧ ∀ prompt opener,
        handleInit config (saying world prompt opener) user turn =
          openWith config (saying world prompt opener) state skillPrompt playbookPrompt
            prepared := by
  have introduced : ∃ met, introduce world turn = (.ok ⟨⟩, met) ∧ Unanswered met ∧
      met.asked = turn.asked := by
    rw [introduce]
    cases world.userState with
    | none => exact ⟨_, rfl, unanswered, rfl⟩
    | some agentName => exact ⟨_, rfl, unanswered, rfl⟩
  obtain ⟨met, introduces, silentMet, askedMet⟩ := introduced
  obtain ⟨skills, equipped, loads, silentEquipped, askedEquipped⟩ :=
    (@consults_loadForRole config world user.role user.tenantId).returns silentMet
  obtain ⟨_, noted, notes, silentNoted, askedNoted⟩ : ∃ done noted,
      modifySession (fun state =>
        { state with
          skillsLoaded := skills.map Skill.id
          toolsCache := world.tools
          persona := config.personaOf user.role }) equipped = (.ok done, noted) ∧
        Unanswered noted ∧ noted.asked = equipped.asked := ⟨_, _, rfl, silentEquipped, rfl⟩
  obtain ⟨playbookPrompt, resumed, resumes, silentResumed, askedResumed⟩ :=
    (@consults_resumedPlaybookPrompt config world user.tenantId).returns silentNoted
  obtain ⟨skillPrompt, ready, readies, silentReady, askedReady⟩ :=
    (@consults_activeSkillPrompt config world user.tenantId).returns silentResumed
  refine ⟨ready.session, skillPrompt, playbookPrompt, ready, silentReady, ?_, ?_⟩
  · rw [askedReady, askedResumed, askedNoted, askedEquipped, askedMet]
  · intro prompt opener
    -- each step is the same in the world with other texts, which it does not look at
    refine (bind_of_ok introduces _).trans ?_
    refine (bind_of_ok loads _).trans ?_
    refine (bind_of_ok notes _).trans ?_
    refine (bind_of_ok resumes _).trans ?_
    refine (bind_of_ok readies _).trans ?_
    rfl

/-! ## What is shown -/

section

variable (message : String) (estimatedRecovery : Option String) (called : Nat)

theorem dataOnly_text : ∃ text, ∀ turn : Turn, turn.called = called → Unanswered turn →
      ∃ after, handleDataOnlyMessage config world message estimatedRecovery turn =
        (.ok text, after) ∧ Unanswered after := by
  rw [handleDataOnlyMessage]
  cases matched : config.matchKeywordIntent message with
  | none => exact ⟨_, fun turn _ silent => ⟨turn, rfl, silent⟩⟩
  | some intent =>
    have fetches : ∀ turn : Turn, turn.called = called → Unanswered turn → ∃ after,
        callTool world (.fetched intent) turn = (.ok (world.tool called), after) ∧
          Unanswered after := by
      intro turn same silent
      rw [← same]
      exact ⟨_, rfl, unanswered_concat silent rfl⟩
    cases result : world.tool called with
    | error reason =>
      refine ⟨config.failureText intent reason, fun turn same silent => ?_⟩
      obtain ⟨after, fetched, still⟩ := fetches turn same silent
      rw [result] at fetched
      exact ⟨after, bind_of_ok fetched _, still⟩
    | success data | confirmationRequired data =>
      refine ⟨config.dataText intent
        ((world.tool called).data intent.toolName intent.params) estimatedRecovery,
        fun turn same silent => ?_⟩
      obtain ⟨after, fetched, still⟩ := fetches turn same silent
      rw [result] at fetched ⊢
      exact ⟨after, bind_of_ok fetched _, still⟩

theorem degrade_text : ∃ text, ∀ turn : Turn, turn.called = called → Unanswered turn →
      shownTexts (degrade config world message estimatedRecovery turn) = [text] := by
  obtain ⟨text, answers⟩ := dataOnly_text config world message estimatedRecovery called
  refine ⟨text, fun turn same silent => ?_⟩
  obtain ⟨_, degraded, degrades, silentDegraded, calledDegraded⟩ : ∃ done degraded,
      modifySession (fun state => { state with mode := .dataOnly }) turn = (.ok done, degraded) ∧
        Unanswered degraded ∧ degraded.called = turn.called := ⟨_, _, rfl, silent, rfl⟩
  obtain ⟨_, saved, saves, silentSaved, calledSaved⟩ : ∃ done saved,
      save world degraded = (.ok done, saved) ∧ Unanswered saved ∧ saved.called = degraded.called :=
    ⟨_, _, rfl, unanswered_concat silentDegraded rfl, rfl⟩
  obtain ⟨after, answered, still⟩ :=
    answers saved (calledSaved.trans (calledDegraded.trans same)) silentSaved
  have ran : degrade config world message estimatedRecovery turn =
      (.ok { message := text, sessionId := after.session.sessionId, dataOnlyMode := true },
        after) := by
    refine (bind_of_ok degrades _).trans ?_
    refine (bind_of_ok saves _).trans ?_
    refine (bind_of_ok answered _).trans ?_
    rfl
  rw [ran, shownTexts, still]
  rfl

end

theorem unanswered_asked {turn : Turn} (silent : Unanswered turn) (event : Event) :
    (turn.log ++ [event]).flatMap answeredTexts = answeredTexts event := by
  rw [List.flatMap_append, silent, List.flatMap_singleton, List.nil_append]

theorem greet_of_response {content : String} {toolCalls : List ToolCall} {turn : Turn}
    (answer : world.llm turn.asked = .response content toolCalls) (silent : Unanswered turn)
    (systemPrompt : String) :
    ∃ response after, greet world systemPrompt turn = (.ok response, after) ∧
      shownTexts (.ok response, after) = [systemPrompt, world.opener, content] := by
  have asks := fun task => askLlm_eq world task [.system systemPrompt, .user world.opener]
    (some (formatToolsForLlm world.tools)) turn
  rw [answer] at asks
  rw [greet, session_bind]
  -- what is left after the answer changes the session and stores it
  refine ⟨_, _, bind_of_ok (asks _) _, ?_⟩
  change ((turn.log ++ [Event.asked _ _ _ _]) ++ [Event.stored _ _ _]).flatMap answeredTexts ++
    [content] = _
  rw [List.flatMap_append, unanswered_asked silent]
  rfl

theorem greet_of_failure {failure : Failure} {turn : Turn}
    (fails : answerOf (world.llm turn.asked) = .error failure) (silent : Unanswered turn)
    (systemPrompt : String) :
    ∃ after, greet world systemPrompt turn = (.error failure, after) ∧ Unanswered after ∧
      after.called = turn.called := by
  have unread : ∀ task, answeredTexts (.asked task [.system systemPrompt, .user world.opener]
      (some (formatToolsForLlm world.tools)) (world.llm turn.asked)) = [] := by
    intro task
    cases outcome : world.llm turn.asked with
    | response content toolCalls => rw [outcome] at fails; cases fails
    | creditExhausted _ | unavailable | error => rfl
  have asks := fun task => askLlm_eq world task [.system systemPrompt, .user world.opener]
    (some (formatToolsForLlm world.tools)) turn
  rw [fails] at asks
  rw [greet, session_bind]
  exact ⟨_, bind_of_error (asks _) _, unanswered_concat silent (unread _), rfl⟩

theorem shown_openWith {turn : Turn} (silent : Unanswered turn) (state : SessionState)
    (skillPrompt playbookPrompt : String) :
    ∃ rest, ∀ prompt opener,
      shownTexts (openWith config (saying world prompt opener) state skillPrompt playbookPrompt
        turn) =
          (if (world.llm turn.asked).answered then
            [firstPrompt (saying world prompt opener) state skillPrompt playbookPrompt, opener]
          else []) ++ rest := by
  cases outcome : world.llm turn.asked with
  | response content toolCalls =>
    refine ⟨[content], fun prompt opener => ?_⟩
    obtain ⟨response, after, greets, shown⟩ := greet_of_response (saying world prompt opener)
      outcome silent (firstPrompt (saying world prompt opener) state skillPrompt playbookPrompt)
    rw [openWith, rescue_of_ok greets, shown]
    rfl
  | creditExhausted estimatedRecovery =>
    obtain ⟨text, degrades⟩ := degrade_text config world "init" estimatedRecovery turn.called
    refine ⟨[text], fun prompt opener => ?_⟩
    obtain ⟨after, raised, still, called⟩ := greet_of_failure (saying world prompt opener)
      (congrArg answerOf outcome) silent
      (firstPrompt (saying world prompt opener) state skillPrompt playbookPrompt)
    rw [openWith, rescue_of_error raised]
    exact degrades after called still
  | unavailable =>
    refine ⟨["I'm having trouble connecting to the AI service. " ++
      "I can still help with data queries. " ++
      "Type STATUS, TASKS, OVERDUE, EVIDENCE, RISKS, or AUDIT."], fun prompt opener => ?_⟩
    obtain ⟨after, raised, still, called⟩ := greet_of_failure (saying world prompt opener)
      (congrArg answerOf outcome) silent
      (firstPrompt (saying world prompt opener) state skillPrompt playbookPrompt)
    rw [openWith, rescue_of_error raised]
    change (after.log ++ [Event.stored _ _ _]).flatMap answeredTexts ++ _ = _
    rw [unanswered_asked still]
    rfl
  | error =>
    refine ⟨[], fun prompt opener => ?_⟩
    obtain ⟨after, raised, still, called⟩ := greet_of_failure (saying world prompt opener)
      (congrArg answerOf outcome) silent
      (firstPrompt (saying world prompt opener) state skillPrompt playbookPrompt)
    rw [openWith, rescue_of_error raised]
    change after.log.flatMap answeredTexts ++ [] = _
    rw [show after.log.flatMap answeredTexts = [] from still]
    rfl

end Chat

section Texts

variable {str : Json → String} {sources : PromptSources}

def openingPrompt (str : Json → String) (sources : PromptSources)
    (activeSkillPrompt playbookStepPrompt : String) (events : List MemoryService.Event) : String :=
  promptText (build str { sources with activeSkillPrompt, playbookStepPrompt, events })

theorem returns_buildLayers (built : Returns (build str sources))
    (activeSkillPrompt playbookStepPrompt : String) (events : List MemoryService.Event) :
    ∃ layers, buildLayers str { sources with activeSkillPrompt, playbookStepPrompt, events } =
      .ok layers ∧ (events ≠ [] → buildEventsSection events ∈ layers) := by
  obtain ⟨prompt, ran⟩ := built
  obtain ⟨layers, laid, _⟩ := bind_eq_ok.mp ran
  obtain ⟨identity, identified, afterIdentity⟩ := bind_eq_ok.mp laid
  obtain ⟨about, described, afterAbout⟩ := bind_eq_ok.mp afterIdentity
  obtain ⟨priorities, prioritized, _⟩ := bind_eq_ok.mp afterAbout
  refine ⟨_, bind_eq_ok.mpr ⟨identity, identified, bind_eq_ok.mpr ⟨about, described,
    bind_eq_ok.mpr ⟨priorities, prioritized, rfl⟩⟩⟩, ?_⟩
  intro some
  have shown : events.isEmpty = false := by simpa using some
  simp [shown]

theorem infix_openingPrompt (built : Returns (build str sources))
    (activeSkillPrompt playbookStepPrompt : String) {events : List MemoryService.Event}
    {line : String} (member : line ∈ (buildEventsSection events).body) :
    line.toList <:+:
      (openingPrompt str sources activeSkillPrompt playbookStepPrompt events).toList := by
  have some : events ≠ [] := by
    intro none
    rw [none] at member
    exact absurd member (by simp [buildEventsSection, EventQueueHandler.eventBody,
      EventQueueHandler.commitments])
  obtain ⟨layers, laid, present⟩ :=
    returns_buildLayers built activeSkillPrompt playbookStepPrompt events
  rw [openingPrompt, build, laid]
  have inLayer : line.toList <:+: (buildEventsSection events).text.toList :=
    Text.infix_joinLines (List.mem_cons_of_mem _ member)
  exact inLayer.trans (Text.infix_joinParagraphs (List.mem_map_of_mem (present some)))

theorem openingPrompt_congr (activeSkillPrompt playbookStepPrompt : String)
    {events others : List MemoryService.Event} (empty : events.isEmpty = others.isEmpty)
    (first : events.take 10 = others.take 10)
    (due : EventQueueHandler.commitments events = EventQueueHandler.commitments others) :
    openingPrompt str sources activeSkillPrompt playbookStepPrompt events =
      openingPrompt str sources activeSkillPrompt playbookStepPrompt others := by
  have same : buildEventsSection events = buildEventsSection others := by
    rw [buildEventsSection, buildEventsSection, EventQueueHandler.eventBody,
      EventQueueHandler.eventBody, first, due]
  rw [openingPrompt, openingPrompt, build, build, buildLayers, buildLayers]
  simp only [empty, same]
  rfl

theorem openerText_congr {events others : List MemoryService.Event}
    (empty : events.isEmpty = others.isEmpty) (first : events.take 10 = others.take 10) :
    openerText events = openerText others := by
  have formatted : EventQueueHandler.formatForOpener events =
      EventQueueHandler.formatForOpener others := by
    rw [EventQueueHandler.formatForOpener, EventQueueHandler.formatForOpener, empty, first]
  unfold openerText
  rw [empty, formatted]

end Texts

section Retell

variable {place : Nat} {summary : String} {events : List MemoryService.Event}

theorem retell_isEmpty : (retell place summary events).isEmpty = events.isEmpty := by
  rw [Bool.eq_iff_iff, List.isEmpty_iff_length_eq_zero, List.isEmpty_iff_length_eq_zero, retell,
    List.length_modify]

theorem retell_getElem? (other : Nat) :
    (retell place summary events)[other]? = (events[other]?).map fun event =>
      if place = other then { event with summary } else event := by
  rw [retell, List.getElem?_modify]
  rfl

theorem retell_take (late : 10 ≤ place) :
    (retell place summary events).take 10 = events.take 10 := by
  apply List.ext_getElem?
  intro other
  rw [List.getElem?_take, List.getElem?_take]
  split
  · next early =>
    rw [retell_getElem?]
    cases events[other]? with
    | none => rfl
    | some event => rw [Option.map_some, if_neg (by omega)]
  · rfl

theorem commitments_retell {event : MemoryService.Event} (here : events[place]? = some event)
    (other : event.eventType ≠ "agent_commitment_due") :
    EventQueueHandler.commitments (retell place summary events) =
      EventQueueHandler.commitments events := by
  induction events generalizing place with
  | nil => rw [retell, List.modify_nil]
  | cons first rest ih =>
    cases place with
    | zero =>
      obtain rfl : first = event := Option.some.inj here
      simp [retell, EventQueueHandler.commitments, other]
    | succ place =>
      have rested := ih here
      rw [EventQueueHandler.commitments, EventQueueHandler.commitments] at rested ⊢
      rw [retell, List.modify_succ_cons, List.filter_cons, List.filter_cons]
      rw [retell] at rested
      rw [rested]

theorem exists_line {event : MemoryService.Event} (here : events[place]? = some event)
    (told : place < 10 ∨ event.eventType = "agent_commitment_due") :
    ∃ line ∈ (buildEventsSection (retell place summary events)).body,
      summary.toList <:+: line.toList := by
  have retold : (retell place summary events)[place]? = some { event with summary } := by
    rw [retell_getElem?, here, Option.map_some, if_pos rfl]
  have member := List.mem_of_getElem? retold
  rw [buildEventsSection, EventQueueHandler.eventBody]
  rcases told with early | due
  · refine ⟨EventQueueHandler.contextLine "[!]" { event with summary }, ?_, ?_⟩
    · apply List.mem_append_left
      apply List.mem_map_of_mem
      apply List.mem_iff_getElem?.mpr
      exact ⟨place, by rw [List.getElem?_take, if_pos early, retold]⟩
    · rw [EventQueueHandler.contextLine, String.toList_append]
      exact (List.suffix_append _ _).isInfix
  · refine ⟨"  - " ++ summary, ?_, ?_⟩
    · apply List.mem_append_right
      have listed : ({ event with summary } : MemoryService.Event) ∈
          EventQueueHandler.commitments (retell place summary events) :=
        List.mem_filter.mpr ⟨member, decide_eq_true due⟩
      have some : (EventQueueHandler.commitments (retell place summary events)).isEmpty = false :=
        List.isEmpty_eq_false_iff_exists_mem.mpr ⟨_, listed⟩
      rw [some]
      apply List.mem_cons_of_mem
      exact List.mem_map.mpr ⟨_, listed, rfl⟩
    · rw [String.toList_append]
      exact (List.suffix_append _ _).isInfix

end Retell

theorem exists_unheard (texts : List String) :
    ∃ summary, ∀ text ∈ texts, ¬ Text.contains summary text = true := by
  have longest : ∃ bound, ∀ text ∈ texts, text.toList.length ≤ bound := by
    induction texts with
    | nil => exact ⟨0, by simp⟩
    | cons text rest ih =>
      obtain ⟨bound, within⟩ := ih
      refine ⟨max text.toList.length bound, List.forall_mem_cons.mpr ⟨le_max_left _ _, ?_⟩⟩
      exact fun other member => (within other member).trans (le_max_right _ _)
  obtain ⟨bound, within⟩ := longest
  refine ⟨String.ofList (List.replicate (bound + 1) 'x'), fun text member occurs => ?_⟩
  have shorter := (Text.contains_iff.mp occurs).length_le
  rw [String.toList_ofList, List.length_replicate] at shorter
  have most := within text member
  omega

/-! ## No drained event is lost -/

section Delivery

variable (config : Config) (str : Json → String) (sources : PromptSources) (world : World)
  (process : Process) (loaded : Loaded)

/-- Whatever the event at a place says, the language model reads it or the user gets it. -/
def Presented (events : List MemoryService.Event) (place : Nat) : Prop :=
  ∀ summary, ∃ text ∈ shownTexts
    (startSession config str sources world process loaded (retell place summary events)),
      Text.contains summary text = true

def NoneLost (queue : List MemoryService.Event) : Prop := ∀ place event,
    (EventQueueHandler.sortEvents MemoryService.Event.priority queue)[place]? = some event →
      Presented config str sources world process loaded
          (EventQueueHandler.sortEvents MemoryService.Event.priority queue) place ∨
        event ∈ (openSession config str sources world process loaded queue).queue

theorem shown_startSession :
    ∃ (skillPrompt playbookPrompt launch : String) (rest : List String), ∀ events,
      shownTexts (startSession config str sources world process loaded events) =
        (if (world.llm 0).answered then
          [openingPrompt str sources skillPrompt playbookPrompt events ++ launch, openerText events]
        else []) ++ rest := by
  have silent : Chat.Unanswered
      { process, loaded, log := [Event.loaded loaded.kept] } := rfl
  obtain ⟨state, skillPrompt, playbookPrompt, prepared, still, asked, opens⟩ :=
    Chat.handleInit_eq config world sources.user.toUserContext silent
  obtain ⟨rest, shown⟩ := Chat.shown_openWith config world still state skillPrompt playbookPrompt
  rw [asked] at shown
  refine ⟨skillPrompt, playbookPrompt,
    if state.isFirstLaunch then Chat.firstLaunchPrompt else "", rest, fun events => ?_⟩
  rw [startSession]
  have ran := opens (openingWorld str sources world events).prompt (openerText events)
  exact (congrArg shownTexts ran).trans (shown _ _)

theorem presented_iff (built : Returns (build str sources))
    {events : List MemoryService.Event} {place : Nat} {event : MemoryService.Event}
    (here : events[place]? = some event) :
    Presented config str sources world process loaded events place ↔ (world.llm 0).answered = true ∧
        (place < 10 ∨ event.eventType = "agent_commitment_due") := by
  obtain ⟨skillPrompt, playbookPrompt, launch, rest, shown⟩ :=
    shown_startSession config str sources world process loaded
  constructor
  · intro presented
    by_contra lost
    -- then nothing that is shown depends on what the event says
    have same : ∃ texts, ∀ summary, shownTexts (startSession config str sources world process
        loaded (retell place summary events)) = texts := by
      by_cases answers : (world.llm 0).answered = true
      · have untold : ¬ (place < 10 ∨ event.eventType = "agent_commitment_due") := fun told =>
          lost ⟨answers, told⟩
        obtain ⟨late, other⟩ := not_or.mp untold
        refine ⟨[openingPrompt str sources skillPrompt playbookPrompt events ++ launch,
          openerText events] ++ rest, fun summary => ?_⟩
        rw [shown, if_pos answers, openingPrompt_congr skillPrompt playbookPrompt retell_isEmpty
            (retell_take (not_lt.mp late)) (commitments_retell here other),
          openerText_congr retell_isEmpty (retell_take (not_lt.mp late))]
      · refine ⟨rest, fun summary => ?_⟩
        rw [shown, if_neg answers, List.nil_append]
    obtain ⟨texts, always⟩ := same
    obtain ⟨summary, unheard⟩ := exists_unheard texts
    obtain ⟨text, member, occurs⟩ := presented summary
    rw [always] at member
    exact unheard text member occurs
  · rintro ⟨answers, told⟩ summary
    obtain ⟨line, written, within⟩ := @exists_line place summary events event here told
    refine ⟨openingPrompt str sources skillPrompt playbookPrompt (retell place summary events) ++
      launch, ?_, ?_⟩
    · rw [shown, if_pos answers]
      exact List.mem_append_left _ List.mem_cons_self
    · rw [Text.contains_iff, String.toList_append]
      have told := infix_openingPrompt built skillPrompt playbookPrompt written
      exact (within.trans told).trans (List.prefix_append _ _).isInfix

/-- No drained event is lost exactly when none was queued, or the language model answers and
those after the first ten are due commitments. -/
theorem noneLost_iff (built : Returns (build str sources)) (queue : List MemoryService.Event) :
    NoneLost config str sources world process loaded queue ↔
      queue = [] ∨ (world.llm 0).answered = true ∧
        ∀ event ∈ (EventQueueHandler.sortEvents MemoryService.Event.priority queue).drop 10,
          event.eventType = "agent_commitment_due" := by
  have handed : NoneLost config str sources world process loaded queue ↔ ∀ place event,
        (EventQueueHandler.sortEvents MemoryService.Event.priority queue)[place]? = some event →
          (world.llm 0).answered = true ∧
            (place < 10 ∨ event.eventType = "agent_commitment_due") := by
    apply forall₂_congr
    intro place event
    apply imp_congr_right
    intro here
    rw [presented_iff config str sources world process loaded built here]
    exact or_iff_left List.not_mem_nil
  have sorted := EventQueueHandler.sortEvents_perm MemoryService.Event.priority queue
  rw [handed]
  constructor
  · intro every
    by_cases none : queue = []
    · exact Or.inl none
    · refine Or.inr ⟨?_, ?_⟩
      · obtain ⟨event, waits⟩ := List.exists_mem_of_ne_nil queue none
        obtain ⟨place, here⟩ := List.mem_iff_getElem?.mp (sorted.mem_iff.mpr waits)
        exact (every place event here).1
      · intro event late
        obtain ⟨place, here⟩ := List.mem_iff_getElem?.mp late
        rw [List.getElem?_drop] at here
        exact (every (10 + place) event here).2.resolve_left (by omega)
  · rintro (none | ⟨answers, due⟩) place event here
    · subst none
      rw [sorted.eq_nil] at here
      exact absurd here (by simp)
    · refine ⟨answers, ?_⟩
      by_cases early : place < 10
      · exact Or.inl early
      · refine Or.inr (due event (List.mem_iff_getElem?.mpr ⟨place - 10, ?_⟩))
        rw [List.getElem?_drop, Nat.add_sub_cancel' (not_lt.mp early)]
        exact here

end Delivery

/-- A viewer of whom nothing is stored. -/
def viewerSources : PromptSources where
  user := { tenantId := "acme", userId := "ada" }

theorem returns_viewerSources : Returns (build (fun _ => "") viewerSources) := ⟨_, rfl⟩

def overdueEvent : MemoryService.Event where
  eventType := "deadline_passed"
  summary := "AC-2 is overdue"
  priority := "high"
  timestamp := 0

theorem noneLost_iff_calm :
    NoneLost bareConfig (fun _ => "") viewerSources calmWorld {} { state := newSession }
        [overdueEvent] ↔
      [overdueEvent] = [] ∨ (calmWorld.llm 0).answered = true ∧
        ∀ event ∈ (EventQueueHandler.sortEvents MemoryService.Event.priority
          [overdueEvent]).drop 10, event.eventType = "agent_commitment_due" :=
  noneLost_iff bareConfig (fun _ => "") viewerSources calmWorld {} { state := newSession }
    returns_viewerSources [overdueEvent]

/-- A single event is lost where the language model is unavailable, and the last of eleven
where it answers. -/
theorem drained_event_lost : ¬ NoneLost bareConfig (fun _ => "") viewerSources
        { calmWorld with llm := fun _ => .unavailable } {} { state := newSession }
        [overdueEvent] ∧
      ¬ NoneLost bareConfig (fun _ => "") viewerSources calmWorld {} { state := newSession }
        (List.replicate 11 overdueEvent) := by
  constructor
  · intro kept
    have presented := (kept 0 overdueEvent rfl).resolve_right List.not_mem_nil
    have read := (presented_iff bareConfig (fun _ => "") viewerSources
      { calmWorld with llm := fun _ => .unavailable } {} { state := newSession }
      returns_viewerSources rfl).mp presented
    exact absurd read.1 (by decide)
  · intro kept
    have presented := (kept 10 overdueEvent rfl).resolve_right List.not_mem_nil
    have read := (presented_iff bareConfig (fun _ => "") viewerSources calmWorld {}
      { state := newSession } returns_viewerSources rfl).mp presented
    exact absurd read.2 (by decide)

end Onpremai.Conversation
