import Onpremai.Conversation.Openings
import Onpremai.Conversation.Orderly
import Onpremai.Conversation.PromptStructure
import Onpremai.Conversation.Transcripts

/-!
# Which prompts the language model sees

The prompts of the active skill and of the playbook's step are resolved for every message, but
they only get to the language model in the system prompt, which is built for a conversation
that has not begun.
-/

namespace Onpremai.Conversation

open Onpremai.Library
open Onpremai.Assistant (UserContext)

def systemContents (messages : List Message) : List String :=
  messages.filterMap fun message =>
    match message with
    | .system content => some content
    | _ => none

@[simp] theorem systemContents_append (earlier later : List Message) :
    systemContents (earlier ++ later) = systemContents earlier ++ systemContents later :=
  List.filterMap_append

def Shows (str : Json → String) (prompts : String × String) (content : String) : Prop :=
  ∃ (sources : PromptSources) (prompt : String),
    build str { sources with
      activeSkillPrompt := prompts.1, playbookStepPrompt := prompts.2 } = .ok prompt ∧
    (content = prompt ∨ content = prompt ++ Chat.firstLaunchPrompt)

def Current (str : Json → String) (prompts : String × String) (messages : List Message) : Prop :=
  systemContents messages ≠ [] ∧ ∀ content ∈ systemContents messages, Shows str prompts content

theorem current_congr {str : Json → String} {prompts : String × String}
    {first second : List Message} (same : systemContents first = systemContents second) :
    Current str prompts first ↔ Current str prompts second := by
  rw [Current, Current, same]

def skillLayer (skillPrompt : String) : Layer :=
  { heading := "## Active Skill", body := [skillPrompt] }

def stepLayer (stepPrompt : String) : Layer :=
  { heading := "## Current Playbook Step", body := [stepPrompt] }

theorem mem_buildLayers {str : Json → String} {sources : PromptSources} {layers : List Layer}
    (laid : buildLayers str sources = .ok layers) :
    (sources.activeSkillPrompt ≠ "" → skillLayer sources.activeSkillPrompt ∈ layers) ∧
      (sources.playbookStepPrompt ≠ "" → stepLayer sources.playbookStepPrompt ∈ layers) := by
  obtain ⟨identity, -, afterIdentity⟩ := bind_eq_ok.mp laid
  obtain ⟨about, -, afterAbout⟩ := bind_eq_ok.mp afterIdentity
  obtain ⟨priorities, -, made⟩ := bind_eq_ok.mp afterAbout
  rw [← Except.ok.inj made]
  constructor
  · intro some
    simp [some, skillLayer]
  · intro some
    simp [some, stepLayer]

theorem heading_of_shows {str : Json → String} {prompts : String × String} {content : String}
    (shown : Shows str prompts content) (some : prompts.1 ≠ "") :
    "## Active Skill" ∈ headings content := by
  obtain ⟨sources, prompt, built, written⟩ := shown
  obtain ⟨layers, laid, joined⟩ := bind_eq_ok.mp built
  have layered := (mem_buildLayers laid).1 some
  have headed : "## Active Skill" ∈ headings prompt := by
    rw [← Except.ok.inj joined, headings, Text.markedLines_joinParagraphs (by decide),
      List.flatMap_map]
    refine List.mem_flatMap.mpr ⟨_, layered, ?_⟩
    have own : headings (skillLayer prompts.1).heading = [(skillLayer prompts.1).heading] :=
      headings_ofList (by decide)
    have whole := headings_layer own
    rw [headings] at whole
    rw [whole]
    exact List.mem_cons_self
  cases written with
  | inl same => rwa [same]
  | inr launched =>
    have split : Chat.firstLaunchPrompt = "\n" ++ ("\n## First Launch\n" ++
      "This is a brand new user. Welcome them warmly and ask what they " ++
      "would like to call you. You are their personal compliance agent — " ++
      "let them pick a name for you. Keep it brief and friendly.") := rfl
    rw [launched, split, ← String.append_assoc, headings, Text.markedLines_append_newline]
    exact List.mem_append_left _ headed

def promptingWorld (str : Json → String) (sources : PromptSources) (world : World) : World :=
  { world with
    prompt := fun _ activeSkillPrompt playbookStepPrompt =>
      promptText (build str { sources with activeSkillPrompt, playbookStepPrompt }) }

theorem shows_prompt {str : Json → String} {sources : PromptSources}
    (builds : Returns (build str sources)) (world : World) (state : SessionState)
    (prompts : String × String) {tail : String}
    (isTail : tail = "" ∨ tail = Chat.firstLaunchPrompt) :
    Shows str prompts
      ((promptingWorld str sources world).prompt state prompts.1 prompts.2 ++ tail) := by
  obtain ⟨layers, laid, -⟩ := returns_buildLayers builds prompts.1 prompts.2 sources.events
  have built : build str { sources with
      activeSkillPrompt := prompts.1, playbookStepPrompt := prompts.2 } =
        .ok (Text.joinParagraphs (layers.map Layer.text)) :=
    bind_eq_ok.mpr ⟨layers, laid, rfl⟩
  have same : (promptingWorld str sources world).prompt state prompts.1 prompts.2 =
      Text.joinParagraphs (layers.map Layer.text) := congrArg promptText built
  rw [same]
  refine ⟨sources, _, built, ?_⟩
  cases isTail with
  | inl none => exact .inl (by rw [none, String.append_empty])
  | inr launched => exact .inr (by rw [launched])

/-! ## What is sent -/

/-- The messages of the calls of the language model. -/
def sentMessages (log : List Event) : List (List Message) :=
  log.filterMap fun event =>
    match event with
    | .asked _ messages _ _ => some messages
    | _ => none

/-- The question whether the language model is back. -/
def ping : List Message := [.user "ping"]

/-- All calls of the language model, other than to see whether it is back, show the prompts. -/
def SendsCurrent (str : Json → String) (prompts : String × String) (log : List Event) : Prop :=
  ∀ messages ∈ sentMessages log, messages ≠ ping → Current str prompts messages

theorem sendsCurrent_concat {str : Json → String} {prompts : String × String} {log : List Event}
    (sends : SendsCurrent str prompts log) {event : Event}
    (fine : ∀ messages ∈ sentMessages [event], messages ≠ ping → Current str prompts messages) :
    SendsCurrent str prompts (log ++ [event]) := by
  rw [SendsCurrent, sentMessages, List.filterMap_append, List.forall_mem_append]
  exact ⟨sends, fine⟩

/-- An event that is no call of the language model. -/
def Event.Unasked (event : Event) : Prop := sentMessages [event] = []

theorem sendsCurrent_concat_unasked {str : Json → String} {prompts : String × String}
    {log : List Event} (sends : SendsCurrent str prompts log) {event : Event}
    (unasked : event.Unasked) : SendsCurrent str prompts (log ++ [event]) := by
  apply sendsCurrent_concat sends
  rw [unasked]
  exact fun _ none => absurd none List.not_mem_nil

namespace Chat

open Handler

/-- Code of a conversation: it shows the language model the conversation as it is, and leaves
its system messages. -/
inductive Conversing (world : World) : {α : Type} → Chat α → Prop where
  | pure {α : Type} (value : α) : Conversing world (pure value : Chat α)
  | raise {α : Type} (failure : Failure) : Conversing world (raise failure : Chat α)
  | bind {α β : Type} {handler : Chat α} {next : α → Chat β} (first : Conversing world handler)
      (second : ∀ value, Conversing world (next value)) : Conversing world (handler >>= next)
  | rescue {α : Type} {handler : Chat α} {recover : Failure → Chat α}
      (first : Conversing world handler) (second : ∀ exn, Conversing world (recover exn)) :
      Conversing world (handler.rescue recover)
  | look {α : Type} (view : Turn → α) : Conversing world (look view)
  | modifySession {update : SessionState → SessionState}
      (same : ∀ state, systemContents (update state).conversationHistory =
        systemContents state.conversationHistory) : Conversing world (modifySession update)
  | callTool {event : ToolResult → Event} (unasked : ∀ result, (event result).Unasked) :
      Conversing world (callTool world event)
  | save : Conversing world (save world)
  | consults {α : Type} {handler : Chat α} (consults : Consults handler) :
      Conversing world handler
  | asks {α : Type} (task : String) (tools : SessionState → Option (List Json))
      {next : SessionState → String × List ToolCall → Chat α}
      (second : ∀ state answer, Conversing world (next state answer)) :
      Conversing world (session >>= fun state =>
        askLlm world task state.conversationHistory (tools state) >>= next state)

/-- The conversation shows the prompts, and so does what was sent of it. -/
structure Presenting (str : Json → String) (prompts : String × String) (turn : Turn) : Prop where
  history : Current str prompts turn.session.conversationHistory
  sends : SendsCurrent str prompts turn.log

variable {config : Config} {world : World} {str : Json → String} {prompts : String × String}

/-- Code that does not call the language model. -/
def Unasking {α : Type} (handler : Chat α) : Prop :=
  ∀ sent, Keeps (fun turn => sentMessages turn.log = sent) handler

section Unasking

variable {α β : Type} {handler : Chat α}

theorem unasking_pure (value : α) : Unasking (pure value : Chat α) := fun _ => keeps_pure value

theorem unasking_look (view : Turn → α) : Unasking (look view : Chat α) := fun _ => keeps_look view

theorem Unasking.bind {next : α → Chat β} (first : Unasking handler)
    (second : ∀ value, Unasking (next value)) : Unasking (handler >>= next) :=
  fun sent => keeps_bind (first sent) fun value => second value sent

theorem unasking_modifySession (update : SessionState → SessionState) :
    Unasking (modifySession update) := fun _ => keeps_change fun _ same => same

theorem unasking_append (message : Message) : Unasking (append message) := unasking_modifySession _

theorem sentMessages_concat (event : Event) (unasked : event.Unasked) {log : List Event}
    {sent : List (List Message)} (same : sentMessages log = sent) :
    sentMessages (log ++ [event]) = sent := by
  rw [sentMessages, List.filterMap_append, ← same]
  exact (congrArg _ unasked).trans (List.append_nil _)

theorem unasking_callTool {event : ToolResult → Event}
    (unasked : ∀ result, (event result).Unasked) : Unasking (callTool world event) :=
  fun _ _ same => sentMessages_concat _ (unasked _) same

theorem unasking_save : Unasking (save world) :=
  fun _ _ same => sentMessages_concat (.stored _ _ _) rfl same

theorem Consults.unasking (consults : Consults handler) : Unasking handler := by
  induction consults with
  | pure value => exact unasking_pure value
  | bind _ _ ih₁ ih₂ => exact ih₁.bind ih₂
  | session => exact unasking_look _
  | cachedSkill skillId => exact fun _ _ same => sentMessages_concat (.lookedUp (.skill _)) rfl same
  | cacheSkill skillId skill =>
    exact fun _ _ same => sentMessages_concat (.cached (.skill _)) rfl same
  | cachedPlaybook playbookId =>
    exact fun _ _ same => sentMessages_concat (.lookedUp (.playbook _)) rfl same
  | cachePlaybook playbookId playbook =>
    exact fun _ _ same => sentMessages_concat (.cached (.playbook _)) rfl same

theorem Unasking.sendsCurrent_iff (unasking : Unasking handler) (turn : Turn) :
    SendsCurrent str prompts (handler turn).2.log ↔ SendsCurrent str prompts turn.log := by
  rw [SendsCurrent, SendsCurrent, unasking _ turn rfl]

end Unasking

theorem Conversing.presenting {α : Type} {handler : Chat α}
    (conversing : Conversing world handler) : Keeps (Presenting str prompts) handler := by
  induction conversing with
  | pure value => exact keeps_pure value
  | raise failure => exact keeps_raise failure
  | bind _ _ ih₁ ih₂ => exact keeps_bind ih₁ ih₂
  | rescue _ _ ih₁ ih₂ => exact keeps_rescue ih₁ ih₂
  | look view => exact keeps_look view
  | modifySession same =>
    exact fun turn fine => ⟨(current_congr (same turn.session)).mpr fine.history, fine.sends⟩
  | callTool unasked =>
    exact fun _ fine => ⟨fine.history, sendsCurrent_concat_unasked fine.sends (unasked _)⟩
  | save => exact fun _ fine => ⟨fine.history, sendsCurrent_concat_unasked fine.sends rfl⟩
  | consults consults =>
    intro turn fine
    have history := consults.keepsLoaded
      (fun loaded => Current str prompts loaded.state.conversationHistory) turn fine.history
    exact ⟨history, (consults.unasking.sendsCurrent_iff turn).mpr fine.sends⟩
  | asks task tools _ ih =>
    intro turn fine
    rw [session_bind]
    refine keeps_bind_at ?_ (fun answer => ih turn.session answer)
    rw [askLlm_eq]
    refine ⟨fine.history, sendsCurrent_concat fine.sends fun messages sent _ => ?_⟩
    rw [List.mem_singleton.mp sent]
    exact fine.history

section Loop

variable {content : String} {toolCalls : List ToolCall}

theorem conversing_append {message : Message} (other : systemContents [message] = []) :
    Conversing world (append message) :=
  .modifySession fun state => by rw [systemContents_append, other, List.append_nil]

theorem conversing_session : Conversing world session := .look Turn.session

theorem conversing_advanceStep : Conversing world (advanceStep config world) := by
  rw [advanceStep]
  refine .bind conversing_session fun state => ?_
  split
  · exact .pure _
  · refine .bind (.consults (consults_loadPlaybook _ _)) fun found => ?_
    cases found with
    | none => exact .pure _
    | some playbook =>
      exact .modifySession fun state => congrArg systemContents (nextStep_history playbook state)

theorem conversing_pauseFor (actions : List ToolAction) (call : ToolCall) (params summary : Json) :
    Conversing world (pauseFor world content toolCalls actions call params summary) := by
  rw [pauseFor]
  refine .bind (.look _) fun confirmationId => ?_
  split
  · exact .raise _
  · refine .bind (.bind (.modifySession fun _ => rfl) fun _ => .save) fun _ => ?_
    refine .bind (conversing_append rfl) fun _ => ?_
    exact .bind .save fun _ => .bind conversing_session fun _ => .pure _

theorem conversing_runCalls (calls : List ToolCall) (actions : List ToolAction) :
    Conversing world (runCalls config world content toolCalls calls actions) := by
  induction calls generalizing actions with
  | nil => exact .pure _
  | cons call rest ih =>
    rw [runCalls]
    refine .bind (.look _) fun toolId => .bind (.callTool fun _ => rfl) fun result => ?_
    have recorded (text : String) : Conversing world (recordCall content call toolId text) :=
      .bind (conversing_append rfl) fun _ => conversing_append rfl
    cases result with
    | success data => exact .bind (recorded _) fun _ => ih _
    | error reason => exact .bind (recorded _) fun _ => ih _
    | confirmationRequired summary => exact conversing_pauseFor _ _ _ _

theorem conversing_runRounds {tools : List Fields} (rounds : Nat) (task : String)
    (actions : List ToolAction) :
    Conversing world (runRounds config world tools rounds task actions) := by
  induction rounds generalizing task actions with
  | zero =>
    exact .bind (conversing_append rfl) fun _ => .bind .save fun _ =>
      .bind conversing_session fun _ => .pure _
  | succ rounds ih =>
    rw [runRounds]
    refine .asks task (fun _ => if tools.isEmpty then none else some (formatToolsForLlm tools))
      fun state answer => ?_
    cases answer with
    | mk content toolCalls =>
      cases toolCalls with
      | nil =>
        exact .bind (conversing_append rfl) fun _ => .bind .save fun _ =>
          .bind conversing_advanceStep fun _ => .bind conversing_session fun _ => .pure _
      | cons call others =>
        refine .bind (conversing_runCalls _ actions) fun ended => ?_
        cases ended with
        | paused response => exact .pure _
        | completed actions => exact ih _ actions

section

variable (message : String) (estimatedRecovery : Option String)

theorem unasking_handleDataOnlyMessage :
    Unasking (handleDataOnlyMessage config world message estimatedRecovery) := by
  rw [handleDataOnlyMessage]
  split
  · exact unasking_pure _
  · refine Unasking.bind ?_ fun result => ?_
    · exact unasking_callTool fun _ => rfl
    · cases result with
      | success data => exact unasking_pure _
      | error reason => exact unasking_pure _
      | confirmationRequired summary => exact unasking_pure _

theorem unasking_degrade : Unasking (degrade config world message estimatedRecovery) :=
  (unasking_modifySession _).bind fun _ => unasking_save.bind fun _ =>
    (unasking_handleDataOnlyMessage message estimatedRecovery).bind fun _ =>
      (unasking_look _).bind fun _ => unasking_pure _

end

theorem unasking_acknowledgeName (content : String) : Unasking (acknowledgeName world content) :=
  (unasking_modifySession _).bind fun _ => (unasking_append _).bind fun _ =>
    unasking_save.bind fun _ => (unasking_look _).bind fun _ => unasking_pure _

theorem unasking_giveUp (actions : List ToolAction) : Unasking (giveUp world actions) :=
  (unasking_append _).bind fun _ => unasking_save.bind fun _ =>
    (unasking_look _).bind fun _ => unasking_pure _

theorem Orderly.sends {α : Type} {handler : Chat α} (orderly : Orderly world handler)
    (sent : List (List Message)) : Keeps (fun turn => sent <+: sentMessages turn.log) handler := by
  have logged : ∀ {log : List Event} {event : Event}, sent <+: sentMessages log →
      sent <+: sentMessages (log ++ [event]) := by
    intro log event before
    rw [sentMessages, List.filterMap_append]
    exact before.trans (List.prefix_append _ _)
  induction orderly with
  | pure value => exact keeps_pure value
  | raise failure => exact keeps_raise failure
  | bind _ _ ih₁ ih₂ => exact keeps_bind ih₁ ih₂
  | rescue _ _ ih₁ ih₂ => exact keeps_rescue ih₁ ih₂
  | session => exact keeps_look _
  | counted view => exact keeps_look _
  | modifySession owner => exact keeps_change fun _ before => before
  | askLlm task others tools =>
    intro turn before
    rw [askLlm_eq]
    exact logged before
  | callTool plain => exact fun _ before => logged before
  | save => exact fun _ before => logged before
  | cachedSkill skillId => exact fun _ before => logged before
  | cacheSkill skillId skill => exact fun _ before => logged before
  | cachedPlaybook playbookId => exact fun _ before => logged before
  | cachePlaybook playbookId playbook => exact fun _ before => logged before

theorem Orderly.sent {α : Type} {handler : Chat α} (orderly : Orderly world handler)
    (messages : List Message) : Keeps (fun turn => messages ∈ sentMessages turn.log) handler :=
  fun turn member => (orderly.sends _ turn (List.prefix_refl _)).subset member

end Loop

end Chat

end Onpremai.Conversation
