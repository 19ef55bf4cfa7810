import Onpremai.Conversation.AgentLoop

/-!
# Tallies of tool calls

The log of a turn tells how often the language model was asked, which tool calls it has
requested, and which of them were executed.  Most of the code that handles a request adds
nothing to that.
-/

namespace Onpremai.Conversation

open Onpremai.Library

/-- What a log tells of tool calls: how often the language model was asked, what it has
requested, and what was executed with which result. -/
structure Tally where
  asks : Nat := 0
  requested : List ToolCall := []
  executed : List (ToolCall × ToolResult) := []

def Tally.add (tally : Tally) : Event → Tally
  | .asked _ _ _ (.response _ toolCalls) =>
    { tally with asks := tally.asks + 1, requested := tally.requested ++ toolCalls }
  | .asked _ _ _ _ => { tally with asks := tally.asks + 1 }
  | .called call _ result =>
    if result.isConfirmation then tally
    else { tally with executed := tally.executed ++ [(call, result)] }
  | _ => tally

def Turn.tally (turn : Turn) : Tally := turn.log.foldl Tally.add {}

namespace Chat

open Handler

variable {config : Config} {world : World}

section Silent

/-- Code that returns, and of which the tally tells nothing. -/
def Silent {α : Type} (handler : Chat α) : Prop :=
  ∀ tally, Ensures (fun turn => turn.tally = tally) handler (fun _ turn => turn.tally = tally)
    (fun _ _ => False)

variable {α β : Type} {handler : Chat α}

theorem Silent.andThen {next : α → Chat β} {tally : Tally} {returned : β → Turn → Prop}
    {raised : Failure → Turn → Prop} (silent : Silent handler)
    (then_ : ∀ value, Ensures (fun turn => turn.tally = tally) (next value) returned raised) :
    Ensures (fun turn => turn.tally = tally) (handler >>= next) returned raised := by
  apply ensures_bind
  · apply (silent tally).weaken
    · exact fun _ same => same
    · exact fun _ _ same => same
    · exact fun _ _ never => never.elim
  · exact then_

theorem Silent.bind {next : α → Chat β} (first : Silent handler)
    (second : ∀ value, Silent (next value)) : Silent (handler >>= next) :=
  fun tally => first.andThen fun value => second value tally

theorem Silent.keeps {handler : Chat α} (silent : Silent handler) (kept : Tally → Prop) :
    Keeps (fun turn => kept turn.tally) handler := by
  intro turn holds
  have done := silent turn.tally turn rfl
  cases outcome : handler turn with
  | mk result after =>
    rw [outcome] at done
    cases result with
    | ok value =>
      change kept after.tally
      rw [show after.tally = turn.tally from done]
      exact holds
    | error exn => exact done.elim

theorem silent_pure (value : α) : Silent (pure value : Chat α) := fun _ _ same => same

theorem silent_look (view : Turn → α) : Silent (look view : Chat α) := fun _ _ same => same

theorem silent_modifySession (update : SessionState → SessionState) :
    Silent (modifySession update) := fun _ _ same => same

theorem silent_append (message : Message) : Silent (append message) := silent_modifySession _

def QuietEvent (event : Event) : Prop := ∀ tally : Tally, tally.add event = tally

theorem tally_concat (turn : Turn) (event : Event) :
    Turn.tally { turn with log := turn.log ++ [event] } = turn.tally.add event := by
  simp [Turn.tally]

theorem silent_note {event : Event} (quiet : QuietEvent event) : Silent (note event) := by
  intro tally turn same
  change Turn.tally { turn with log := turn.log ++ [event] } = tally
  rw [tally_concat, quiet, same]

theorem silent_save : Silent (save world) := by
  intro tally turn same
  change Turn.tally { turn with log := turn.log ++ [.stored _ _ _] } = tally
  rw [tally_concat]
  exact same

theorem Consults.silent (consults : Consults handler) : Silent handler := by
  have cached {tally : Tally} {turn : Turn} (same : turn.tally = tally) (key : CacheKey) :
      Turn.tally { turn with log := turn.log ++ [.cached key] } = tally := by
    rw [tally_concat]
    exact same
  induction consults with
  | pure value => exact silent_pure value
  | bind _ _ ih₁ ih₂ => exact ih₁.bind ih₂
  | session => exact silent_look _
  | cachedSkill skillId => exact (silent_note fun _ => rfl).bind fun _ => silent_look _
  | cachedPlaybook playbookId => exact (silent_note fun _ => rfl).bind fun _ => silent_look _
  | cacheSkill skillId skill => exact fun _ _ same => cached same (.skill skillId)
  | cachePlaybook playbookId playbook => exact fun _ _ same => cached same (.playbook playbookId)

theorem silent_advanceStep : Silent (advanceStep config world) := by
  rw [advanceStep]
  apply (silent_look _).bind
  intro state
  split
  · exact silent_pure _
  · apply (consults_loadPlaybook _ _).silent.bind
    intro found
    cases found with
    | none => exact silent_pure _
    | some playbook => exact silent_modifySession _

theorem silent_handleDataOnlyMessage (message : String) (estimatedRecovery : Option String) :
    Silent (handleDataOnlyMessage config world message estimatedRecovery) := by
  rw [handleDataOnlyMessage]
  split
  · exact silent_pure _
  · next intent _ =>
    have fetch : Silent (callTool world (.fetched intent)) := by
      intro tally turn same
      change Turn.tally { turn with log := turn.log ++ [.fetched intent _] } = tally
      rw [tally_concat]
      exact same
    apply fetch.bind
    intro result
    cases result with
    | success data => exact silent_pure _
    | error reason => exact silent_pure _
    | confirmationRequired summary => exact silent_pure _

end Silent

def Tells (tally : Tally) (actions : List ToolAction) (response : ChatResponse) (turn : Turn) :
    Prop :=
  turn.tally = tally ∧ response.actions = actions ∧ response.pendingConfirmation = none

theorem ensures_finish (content : String) (actions : List ToolAction) (tally : Tally) :
    Ensures (fun turn => turn.tally = tally) (finish config world content actions)
      (Tells tally actions) (fun _ _ => False) := by
  apply (silent_append _).andThen
  intro _
  apply silent_save.andThen
  intro _
  apply silent_advanceStep.andThen
  intro _
  apply (silent_look _).andThen
  intro state
  exact ensures_pure fun _ same => ⟨same, rfl, rfl⟩

theorem ensures_giveUp (actions : List ToolAction) (tally : Tally) :
    Ensures (fun turn => turn.tally = tally) (giveUp world actions)
      (Tells tally actions) (fun _ _ => False) := by
  apply (silent_append _).andThen
  intro _
  apply silent_save.andThen
  intro _
  apply (silent_look _).andThen
  intro state
  exact ensures_pure fun _ same => ⟨same, rfl, rfl⟩

theorem ensures_degrade (message : String) (estimatedRecovery : Option String) (tally : Tally) :
    Ensures (fun turn => turn.tally = tally) (degrade config world message estimatedRecovery)
      (Tells tally []) (fun _ _ => False) := by
  apply (silent_modifySession _).andThen
  intro _
  apply silent_save.andThen
  intro _
  apply (silent_handleDataOnlyMessage _ _).andThen
  intro result
  apply (silent_look _).andThen
  intro state
  exact ensures_pure fun _ same => ⟨same, rfl, rfl⟩

theorem silent_recordCall (content : String) (call : ToolCall) (toolId resultText : String) :
    Silent (recordCall content call toolId resultText) :=
  (silent_append _).bind fun _ => silent_append _

theorem silent_finish (content : String) (actions : List ToolAction) :
    Silent (finish config world content actions) := fun tally =>
  (ensures_finish content actions tally).weaken (fun _ same => same) (fun _ _ told => told.1)
    (fun _ _ never => never)

theorem silent_giveUp (actions : List ToolAction) : Silent (giveUp world actions) := fun tally =>
  (ensures_giveUp actions tally).weaken (fun _ same => same) (fun _ _ told => told.1)
    (fun _ _ never => never)

theorem silent_degrade (message : String) (estimatedRecovery : Option String) :
    Silent (degrade config world message estimatedRecovery) := fun tally =>
  (ensures_degrade message estimatedRecovery tally).weaken (fun _ same => same)
    (fun _ _ told => told.1) (fun _ _ never => never)

end Chat

end Onpremai.Conversation
