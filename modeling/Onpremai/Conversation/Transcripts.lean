import Onpremai.Conversation.AgentLoop
import Onpremai.Library.Exchanges

/-!
# Transcripts

The conversation of a session as a transcript of calls and answers, and what the handlers
outside the tool loop do to a well-formed one.
-/

namespace Onpremai.Conversation

open Onpremai.Library
open Onpremai.Assistant (UserContext)

def Message.utterance : Message → Utterance String
  | .system _ | .user _ | .assistant _ [] => .speaks
  | .assistant _ (call :: rest) => .calls ((call :: rest).map ToolCall.id)
  | .tool toolCallId _ _ => .answers toolCallId

def WellFormedMessages (messages : List Message) : Prop :=
  WellFormed (messages.map Message.utterance)

theorem WellFormedMessages.concat {messages : List Message} (first : WellFormedMessages messages)
    {message : Message} (speaks : message.utterance = .speaks) :
    WellFormedMessages (messages ++ [message]) := by
  rw [WellFormedMessages, List.map_append, List.map_singleton, speaks]
  exact WellFormed.concat_speaks first

/-- Whatever is sent to the language model is a well-formed transcript. -/
def SendsWellFormed (log : List Event) : Prop :=
  ∀ task messages tools outcome, .asked task messages tools outcome ∈ log →
    WellFormedMessages messages

def KeepsWellFormed (fallbackSessions : Dict String SessionState) : Prop :=
  ∀ sessionId state, fallbackSessions.get? sessionId = some state →
    WellFormedMessages state.conversationHistory

/-- What was sent, and the session objects that the process keeps, are well formed. -/
structure Sent (turn : Turn) : Prop where
  sends : SendsWellFormed turn.log
  others : KeepsWellFormed turn.process.sessions.fallbackSessions

/-- The conversation of the session is well formed as well. -/
structure Sound (turn : Turn) : Prop extends Sent turn where
  history : WellFormedMessages turn.session.conversationHistory

/-- What was sent is well formed, and the session object is not kept. -/
structure Discarded (turn : Turn) : Prop extends Sent turn where
  unkept : turn.loaded.kept = false

/-- What was sent is well formed, and what the process keeps after the request is. -/
structure Left (turn : Turn) : Prop where
  sends : SendsWellFormed turn.log
  kept : KeepsWellFormed (turn.process.sessions.release turn.loaded).fallbackSessions

theorem KeepsWellFormed.set {fallbackSessions : Dict String SessionState}
    (fine : KeepsWellFormed fallbackSessions) {state : SessionState}
    (history : WellFormedMessages state.conversationHistory) :
    KeepsWellFormed (fallbackSessions.set state.sessionId state) := by
  intro sessionId other found
  rw [Dict.get?_set] at found
  split at found
  · cases found
    exact history
  · exact fine sessionId other found

theorem Sound.left {turn : Turn} (sound : Sound turn) : Left turn where
  sends := sound.sends
  kept := by
    rw [SessionManager.release]
    split
    · exact sound.others.set sound.history
    · exact sound.others

theorem Discarded.left {turn : Turn} (discarded : Discarded turn) : Left turn where
  sends := discarded.sends
  kept := by
    rw [SessionManager.release, discarded.unkept]
    exact discarded.others

theorem SendsWellFormed.concat {log : List Event} (fine : SendsWellFormed log) {event : Event}
    (last : ∀ task messages tools outcome, event = .asked task messages tools outcome →
      WellFormedMessages messages) : SendsWellFormed (log ++ [event]) := by
  intro task messages tools outcome member
  rw [List.mem_append, List.mem_singleton] at member
  cases member with
  | inl before => exact fine task messages tools outcome before
  | inr same => exact last task messages tools outcome same.symm

theorem nextStep_history (playbook : Playbook) (state : SessionState) :
    (nextStep playbook state).conversationHistory = state.conversationHistory := by
  rw [nextStep]
  split
  · rfl
  · split
    · rfl
    · split
      · rfl
      · rfl

namespace Chat

open Handler

variable {config : Config} {world : World} {user : UserContext} {turn : Turn}

theorem keeps_note {event : Event}
    (quiet : ∀ task messages tools outcome, event ≠ .asked task messages tools outcome) :
    Keeps Sound (note event) := by
  intro turn sound
  refine ⟨⟨?_, sound.others⟩, sound.history⟩
  apply sound.sends.concat
  intro task messages tools outcome same
  exact absurd same (quiet task messages tools outcome)

theorem keeps_modifySession {update : SessionState → SessionState}
    (fine : ∀ state, WellFormedMessages state.conversationHistory →
      WellFormedMessages (update state).conversationHistory) :
    Keeps Sound (modifySession update) :=
  fun turn sound => ⟨⟨sound.sends, sound.others⟩, fine turn.session sound.history⟩

theorem keeps_append {message : Message} (speaks : message.utterance = .speaks) :
    Keeps Sound (append message) :=
  keeps_modifySession fun _ fine => fine.concat speaks

theorem keeps_save : Keeps Sound (save world) := by
  intro turn sound
  refine ⟨⟨?_, ?_⟩, sound.history⟩
  · apply SendsWellFormed.concat sound.sends
    intro _ _ _ _ same
    cases same
  · change KeepsWellFormed (if (world.store turn.stored).acknowledged then
      turn.process.sessions.fallbackSessions else _)
    split
    · exact sound.others
    · exact sound.others.set sound.history

theorem sound_askLlm {task : String} {messages : List Message} {tools : Option (List Json)}
    (sound : Sound turn) (fine : WellFormedMessages messages) :
    Sound (askLlm world task messages tools turn).2 := by
  rw [askLlm_eq]
  refine ⟨⟨?_, sound.others⟩, sound.history⟩
  apply sound.sends.concat
  intro _ _ _ _ same
  cases same
  exact fine

theorem keeps_callTool {event : ToolResult → Event}
    (quiet : ∀ result task messages tools outcome,
      event result ≠ .asked task messages tools outcome) : Keeps Sound (callTool world event) := by
  intro turn sound
  refine ⟨⟨?_, sound.others⟩, sound.history⟩
  apply SendsWellFormed.concat sound.sends
  intro task messages tools outcome same
  exact absurd same (quiet _ task messages tools outcome)

theorem Consults.sound {α : Type} {handler : Chat α} (consults : Consults handler) :
    Keeps Sound handler := by
  induction consults with
  | pure value => exact keeps_pure value
  | bind _ _ ih₁ ih₂ => exact keeps_bind ih₁ ih₂
  | session => exact keeps_look _
  | cachedSkill skillId =>
    exact keeps_bind (keeps_note fun _ _ _ _ => Event.noConfusion) fun _ => keeps_look _
  | cachedPlaybook playbookId =>
    exact keeps_bind (keeps_note fun _ _ _ _ => Event.noConfusion) fun _ => keeps_look _
  | cacheSkill skillId skill =>
    intro turn sound
    refine ⟨⟨?_, sound.others⟩, sound.history⟩
    exact sound.sends.concat fun _ _ _ _ => Event.noConfusion
  | cachePlaybook playbookId playbook =>
    intro turn sound
    refine ⟨⟨?_, sound.others⟩, sound.history⟩
    exact sound.sends.concat fun _ _ _ _ => Event.noConfusion

theorem keeps_advanceStep : Keeps Sound (advanceStep config world) := by
  rw [advanceStep]
  refine keeps_bind (keeps_look _) fun state => ?_
  split
  · exact keeps_pure _
  · refine keeps_bind (consults_loadPlaybook _ _).sound fun found => ?_
    cases found with
    | none => exact keeps_pure _
    | some playbook =>
      apply keeps_modifySession
      intro state fine
      rw [nextStep_history]
      exact fine

theorem keeps_handleDataOnlyMessage {invariant : Turn → Prop}
    (called : ∀ intent, Keeps invariant (callTool world (.fetched intent))) (message : String)
    (estimatedRecovery : Option String) :
    Keeps invariant (handleDataOnlyMessage config world message estimatedRecovery) := by
  rw [handleDataOnlyMessage]
  split
  · exact keeps_pure _
  · refine keeps_bind (called _) fun result => ?_
    cases result with
    | success data => exact keeps_pure _
    | error reason => exact keeps_pure _
    | confirmationRequired summary => exact keeps_pure _

theorem keeps_degrade (message : String) (estimatedRecovery : Option String) :
    Keeps Sound (degrade config world message estimatedRecovery) := by
  refine keeps_bind (keeps_modifySession fun _ fine => fine) fun _ => ?_
  refine keeps_bind keeps_save fun _ => ?_
  have fetched (intent : KeywordIntent) : Keeps Sound (callTool world (.fetched intent)) :=
    keeps_callTool fun _ _ _ _ _ => Event.noConfusion
  refine keeps_bind (keeps_handleDataOnlyMessage fetched message estimatedRecovery) fun _ => ?_
  exact keeps_bind (keeps_look _) fun _ => keeps_pure _

section Init

theorem keeps_introduce : Keeps Sound (introduce world) := by
  rw [introduce]
  split
  · exact keeps_modifySession fun _ fine => fine
  · exact keeps_modifySession fun _ fine => fine

theorem keeps_greet (systemPrompt : String) : Keeps Sound (greet world systemPrompt) := by
  have opening : WellFormedMessages [.system systemPrompt, .user world.opener] :=
    .speaks (.speaks .nil)
  refine keeps_bind (keeps_look _) fun state => ?_
  refine keeps_bind (fun _ sound => sound_askLlm sound opening) fun answer => ?_
  refine keeps_bind (keeps_modifySession fun _ _ => ?_) fun _ => ?_
  · exact .speaks (.speaks .nil)
  · exact keeps_bind keeps_save fun _ => keeps_pure _

theorem keeps_handleInit : Keeps Sound (handleInit config world user) := by
  refine keeps_bind keeps_introduce fun _ => ?_
  refine keeps_bind (consults_loadForRole _ _).sound fun skills => ?_
  refine keeps_bind (keeps_modifySession fun _ fine => fine) fun _ => ?_
  refine keeps_bind (consults_resumedPlaybookPrompt _).sound fun playbookPrompt => ?_
  refine keeps_bind (consults_activeSkillPrompt _).sound fun skillPrompt => ?_
  refine keeps_bind (keeps_look _) fun state => ?_
  apply keeps_rescue (keeps_greet _)
  intro exn
  cases exn with
  | creditExhausted estimatedRecovery => exact keeps_degrade _ _
  | unavailable =>
    refine keeps_bind (keeps_modifySession fun _ fine => fine) fun _ => ?_
    exact keeps_bind keeps_save fun _ => keeps_pure _
  | error => exact keeps_raise _

end Init

theorem keeps_clearPendingConfirmation : Keeps Sound (clearPendingConfirmation world) :=
  keeps_bind (keeps_modifySession fun _ fine => fine) fun _ => keeps_save

theorem keeps_handleConfirm (confirmationId : String) :
    Keeps Sound (handleConfirm config world confirmationId) := by
  intro turn sound
  cases waiting : turn.session.pendingConfirmation with
  | none =>
    rw [handleConfirm, session_bind, waiting]
    exact sound
  | some pending =>
    by_cases same : pending.confirmationId = confirmationId
    · rw [← same, handleConfirm_eq waiting]
      apply keeps_clearPendingConfirmation
      exact keeps_callTool (fun _ _ _ _ _ => Event.noConfusion) turn sound
    · rw [handleConfirm, session_bind, waiting]
      dsimp only
      rw [if_pos same]
      exact sound

theorem keeps_handleCancel (confirmationId : String) :
    Keeps Sound (handleCancel world confirmationId) := by
  rw [handleCancel]
  refine keeps_bind (keeps_look _) fun state => ?_
  split
  · exact keeps_pure _
  · refine keeps_bind keeps_clearPendingConfirmation fun _ => ?_
    refine keeps_bind (keeps_append rfl) fun _ => ?_
    exact keeps_bind keeps_save fun _ => keeps_pure _

section Naming

/-- The conversation ends with a text of the user's. -/
structure Prompted (turn : Turn) : Prop extends Sound turn where
  last : ∃ earlier text, turn.session.conversationHistory = earlier ++ [.user text]

theorem prompted_append (text : String) :
    Ensures Sound (append (.user text)) (fun _ => Prompted) (fun _ => Sound) :=
  fun turn sound => ⟨keeps_append rfl turn sound, turn.session.conversationHistory, text, rfl⟩

theorem sound_acknowledgeName (content : String) (prompted : Prompted turn) :
    Sound (acknowledgeName world content turn).2 := by
  rw [acknowledgeName]
  apply keeps_bind_at
  · refine ⟨⟨prompted.sends, prompted.others⟩, ?_⟩
    have ⟨earlier, text, whole⟩ := prompted.last
    have fine := prompted.history
    change WellFormedMessages turn.session.conversationHistory.dropLast
    rw [whole] at fine ⊢
    rw [WellFormedMessages, List.map_append] at fine
    rw [List.dropLast_concat]
    exact WellFormed.of_concat_speaks fine
  · intro _
    refine keeps_bind (keeps_append rfl) fun _ => ?_
    refine keeps_bind keeps_save fun _ => ?_
    exact keeps_bind (keeps_look _) fun _ => keeps_pure _

theorem ensures_acknowledgeName (content : String) :
    Ensures Prompted (acknowledgeName world content) (fun _ => Sound) (fun _ => Prompted) :=
  fun _ prompted => sound_acknowledgeName content prompted

theorem ensures_session {before : Turn → Prop} {raised : Failure → Turn → Prop} :
    Ensures before session (fun state turn => before turn ∧ state = turn.session) raised :=
  ensures_look fun _ holds => ⟨holds, rfl⟩

theorem ensures_askLlm (task : String) (state : SessionState) (tools : Option (List Json)) :
    Ensures (fun turn => Prompted turn ∧ state = turn.session)
      (askLlm world task state.conversationHistory tools)
      (fun _ => Prompted) (fun _ => Prompted) := by
  have keeps : Keeps (fun turn => Prompted turn ∧ state = turn.session)
      (askLlm world task state.conversationHistory tools) := by
    intro turn ⟨prompted, same⟩
    have sound := @sound_askLlm world turn task _ tools prompted.toSound prompted.history
    rw [same]
    rw [askLlm_eq] at sound ⊢
    exact ⟨⟨sound, prompted.last⟩, rfl⟩
  exact keeps.ensures.weaken (fun _ holds => holds) (fun _ _ => And.left) fun _ _ => And.left

theorem keeps_handleAgentNaming (message : String) :
    Keeps Sound (handleAgentNaming world message) := by
  refine keeps_bind (keeps_modifySession fun _ fine => fine) fun _ => ?_
  refine keeps_bind (keeps_append rfl) fun _ => ?_
  apply Ensures.keeps
  refine ensures_bind (prompted_append _) fun _ => ?_
  refine ensures_rescue (show Ensures _ _ _ fun _ => Prompted from ?_) ?_
  · refine ensures_bind ensures_session fun state => ?_
    refine ensures_bind (ensures_askLlm _ state _) fun answer => ?_
    exact ensures_acknowledgeName answer.1
  · intro exn
    cases exn with
    | creditExhausted estimatedRecovery =>
      exact (ensures_acknowledgeName _).weaken (fun _ holds => holds) (fun _ _ holds => holds)
        fun _ _ => Prompted.toSound
    | unavailable =>
      exact (ensures_acknowledgeName _).weaken (fun _ holds => holds) (fun _ _ holds => holds)
        fun _ _ => Prompted.toSound
    | error => exact ensures_raise fun _ => Prompted.toSound

end Naming

end Chat

end Onpremai.Conversation
