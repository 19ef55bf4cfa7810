import Onpremai.Gateway.History

/-!
# Answers

What a completion response says of itself, against the attempts that the request
made: it is the most confident of their responses, with the data of the attempt it
came from, and only a request without any response ends in an error.
-/

namespace Onpremai.Gateway

open Onpremai.Library

/-- A served response with all its data from one attempt. -/
structure FromAttempt (app : AppState) (attempt : Attempt) (response : CompletionResponse) :
    Prop where
  content : response.content = attempt.response.content
  toolCalls : response.toolCalls = attempt.response.toolCalls
  usage : response.usage = attempt.response.usage
  model : response.modelUsed = attempt.modelId
  tier : response.tierUsed = attempt.tier
  confidence : response.confidence = attempt.decision.confidence
  cost : response.costUsd = app.costOf attempt.modelId attempt.response.usage

def MostConfident (attempts : List Attempt) (attempt : Attempt) : Prop :=
  ∀ other ∈ attempts, other.decision.confidence ≤ attempt.decision.confidence

def CorrectAnswer (app : AppState) (log : List Event) : Answer → Prop
  | .served response =>
    ∃ attempt ∈ obtained log, FromAttempt app attempt response ∧
      MostConfident (obtained log) attempt
  | _ => obtained log = []

/-- The kept response is the most confident one, and an attempt at a tier named
unknown, by the model that answered last, gave that same response. -/
structure KeptFaithfully (attempts : List Attempt) (kept last : Attempt) : Prop where
  best : MostConfident attempts kept
  named : ∃ attempt ∈ attempts, attempt.tier = "unknown" ∧ attempt.modelId = last.modelId ∧
    attempt.response = kept.response ∧ attempt.decision.confidence = kept.decision.confidence

/-- When a request is answered correctly. -/
def AnswersFaithfully (log : List Event) : Prop := obtained log = [] ∨
    (¬ Raised log ∧ ∃ earlier kept later, obtained log = earlier ++ kept :: later ∧
      Kept earlier kept later ∧ KeptFaithfully (obtained log) kept (later.getLastD kept))

section Served

variable {app : AppState} {body : CompletionRequest} {loop : LoopState} {best : Attempt}
  {attempts : List Attempt}

theorem Reports.ne_nil (reports : Reports loop best attempts) : attempts ≠ [] := by
  rcases reports.kept with ⟨earlier, later, split, _⟩
  rw [split]
  simp

theorem fromAttempt_servedResponse_iff (app : AppState) (body : CompletionRequest)
    {earlier later : List Attempt}
    (reports : Reports loop best attempts) (split : attempts = earlier ++ best :: later)
    (attempt : Attempt) :
    FromAttempt app attempt (servedResponse body loop best
        (app.costOf loop.modelUsed best.response.usage)) ↔
      attempt.tier = "unknown" ∧ attempt.modelId = (later.getLastD best).modelId ∧
        attempt.response = best.response ∧
        attempt.decision.confidence = best.decision.confidence := by
  have used : loop.modelUsed = (later.getLastD best).modelId ∧ loop.tierUsed = "unknown" := by
    apply reports.used
    rw [split, getLast?_append_cons]
    rfl
  constructor
  · intro fromIt
    refine ⟨fromIt.tier.symm.trans used.2, fromIt.model.symm.trans used.1, ?_, ?_⟩
    · have content := fromIt.content
      have toolCalls := fromIt.toolCalls
      have usage := fromIt.usage
      rw [servedResponse] at content toolCalls usage
      cases same : attempt.response
      cases kept : best.response
      simp_all
    · exact fromIt.confidence.symm.trans reports.confidence
  · intro ⟨tier, model, response, confidence⟩
    exact {
      content := by rw [response]; rfl
      toolCalls := by rw [response]; rfl
      usage := by rw [response]; rfl
      model := used.1.trans model.symm
      tier := used.2.trans tier.symm
      confidence := reports.confidence.trans confidence.symm
      cost := by rw [response, model, ← used.1]; rfl }

theorem correctAnswer_servedResponse_iff {log : List Event}
    (reports : Reports loop best (obtained log)) (quiet : ¬ Raised log) :
    CorrectAnswer app log (.served (servedResponse body loop best
        (app.costOf loop.modelUsed best.response.usage))) ↔ AnswersFaithfully log := by
  rcases reports.kept with ⟨earlier, later, split, kept⟩
  have carries := fromAttempt_servedResponse_iff app body reports split
  constructor
  · intro ⟨attempt, member, fromIt, most⟩
    have same := (carries attempt).mp fromIt
    right
    refine ⟨quiet, earlier, best, later, split, kept, ?_, attempt, member, same⟩
    intro other otherMember
    rw [← same.2.2.2]
    exact most other otherMember
  · intro faithful
    rcases faithful with none | ⟨_, first, other, rest, otherSplit, otherKept, faithful⟩
    · exact absurd none reports.ne_nil
    · have unique := kept_unique kept otherKept (split.symm.trans otherSplit)
      rw [← unique.2.1, ← unique.2.2] at faithful
      rcases faithful.named with ⟨attempt, member, same⟩
      refine ⟨attempt, member, (carries attempt).mpr same, ?_⟩
      intro third thirdMember
      rw [same.2.2.2]
      exact faithful.best third thirdMember

end Served

theorem answersFaithfully_iff_of_unanswered {log : List Event}
    (unanswered : Unanswered (obtained log)) : AnswersFaithfully log ↔ obtained log = [] := by
  constructor
  · intro faithful
    rcases faithful with none | ⟨_, earlier, kept, later, split, keptIt, _⟩
    · exact none
    · exact absurd keptIt (not_kept_of_unanswered unanswered split)
  · exact .inl

theorem answersFaithfully_iff_of_raised {log : List Event} (raised : Raised log) :
    AnswersFaithfully log ↔ obtained log = [] := by
  constructor
  · intro faithful
    rcases faithful with none | ⟨quiet, _⟩
    · exact none
    · exact absurd raised quiet
  · exact .inl

theorem correctAnswer_iff_of_phaseHistory {app : AppState} {body : CompletionRequest}
    {log : List Event} {answer : Answer}
    (history : PhaseHistory app body log (.answered answer)) :
    CorrectAnswer app log answer ↔ AnswersFaithfully log := by
  cases answer with
  | served response =>
    rcases history with ⟨loop, best, reports, quiet, responseEq⟩
    rw [responseEq]
    exact correctAnswer_servedResponse_iff reports quiet
  | budgetExhausted level => exact ⟨.inl, fun _ => history⟩
  | llmBudgetExhausted level => exact ⟨.inl, fun _ => history⟩
  | unavailable => exact (answersFaithfully_iff_of_unanswered history.1).symm
  | serverError =>
    rcases history with none | raised
    · exact ⟨.inl, fun _ => none⟩
    · exact (answersFaithfully_iff_of_raised raised).symm

def twoTierApp : AppState where
  config := {
    tiers := .ofList [("fast", [{ id := "haiku" }]), ("mid", [{ id := "sonnet" }])]
    taskRouting := .ofList [("classify", "fast")]
    escalation := { path := ["fast", "mid"] } }
  registry := fun modelId =>
    some ⟨fun inputTokens outputTokens =>
      if modelId = "haiku" then (inputTokens + outputTokens) / 1000
      else (3 * inputTokens + 15 * outputTokens) / 1000⟩
  loads := fun _ => none

/-- A refusal of the fast model, then nothing at all from the mid model. -/
def refusedThenEmpty : List Move :=
  let refusal : NormalizedResponse :=
    { content := some "I cannot do that.", usage := ⟨100, 10⟩ }
  [.arrive { task := "classify", tenantId := "tenant-a" }, .resume 0 {}, .resume 0 {},
    .resume 0 {}, .resume 0 { response := some refusal },
    .resume 0 { response := some { usage := ⟨100, 0⟩ } }, .resume 0 {}, .resume 0 {}]

def refusedThenEmptyFlight : Flight where
  body := { task := "classify", tenantId := "tenant-a" }
  phase := .answered (.served
    { content := some "I cannot do that."
      modelUsed := "sonnet"
      tierUsed := "unknown"
      escalated := true
      escalationPath := ["fast"]
      usage := ⟨100, 10⟩
      confidence := 1 / 10
      costUsd := 9 / 20 })
  log := [.read 0 0, .tried "fast", .called "fast" "haiku",
    .completed { tier := "fast", modelId := "haiku"
                 response := { content := some "I cannot do that.", usage := ⟨100, 10⟩ }
                 decision := { shouldEscalate := true, confidence := 1 / 10 } } 0,
    .tried "mid", .called "mid" "sonnet",
    .completed { tier := "mid", modelId := "sonnet", response := { usage := ⟨100, 0⟩ }
                 decision := { shouldEscalate := true, confidence := 0 } } 0,
    .recorded (9 / 20) 0]

theorem refusedThenEmpty_run :
    (run (System.step twoTierApp) {} refusedThenEmpty).flights = [refusedThenEmptyFlight] := by
  decide +kernel

end Onpremai.Gateway
