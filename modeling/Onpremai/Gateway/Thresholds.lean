import Onpremai.Gateway.History
import Onpremai.Gateway.Reloads

/-!
# Confidence thresholds

A request carries the confidence that it asks for, and the admin API may ask for more
under the request's task.  Whenever a request moves, it is noted which threshold the
endpoint has computed for it and whether another tier could have been tried.
-/

namespace Onpremai.Gateway

open Onpremai.Library

def GatewayApp.effectiveThreshold (app : GatewayApp) (body : CompletionRequest) : Rat :=
  match app.confidenceThresholds.get? body.task with
  | none => body.confidenceThreshold
  | some override => max body.confidenceThreshold override

/-- Why no further tier is tried. -/
inductive Barred (app : AppState) (shared : Shared) (body : CompletionRequest)
    (loop : LoopState) : Prop
  | disabled (off : app.config.escalation.enabled = false)
  | limitReached
      (used : app.config.escalation.maxEscalations ≤ (loop.escalationCount : Int))
  | endOfPath (last : getNextTier app.config.escalation.path loop.currentTier = none)
  | notAllowed {nextTier : String}
      (next : getNextTier app.config.escalation.path loop.currentTier = some nextTier)
      (refused : shared.levels.isTierAllowed body.tenantId nextTier = false)

/-- What is noted of a request: the threshold computed for it, and whether the tier that
it tried last was the last one open to it. -/
structure Note where
  effectiveThreshold : Rat := 0
  barred : Prop := False

def Note.after (note : Note) (app : GatewayApp) (read : AppState) (shared : Shared)
    (body : CompletionRequest) : Phase → Note
  | .counting => { note with effectiveThreshold := app.effectiveThreshold body }
  | .calling loop _ => { note with barred := Barred read shared body loop }
  | _ => note

/-- A response that is on its way to the caller, or has reached it, is below the threshold
only where no further tier was open. -/
def Note.Justifies (note : Note) : Phase → Prop
  | .recording loop _ | .expiring loop _ _ =>
    loop.bestConfidence < note.effectiveThreshold → note.barred
  | .answered (.served response) =>
    response.confidence < note.effectiveThreshold → note.barred
  | _ => True

/-- A response on which the two thresholds disagree: it is good enough for the request's own
threshold and not for the effective one, while a further tier is open. -/
structure Between (app : AppState) (shared : Shared) (body : CompletionRequest)
    (loop : LoopState) (effectiveThreshold : Rat) (response : NormalizedResponse) : Prop where
  more : ¬ Barred app shared body loop
  answers : isEmptyResponse response = false
  complies : isRefusal response = false
  decodes : isJsonParseFailure app.loads response body = false
  enough : body.confidenceThreshold ≤ extractConfidence app.loads response body
  short : extractConfidence app.loads response body < effectiveThreshold

section Check

variable {app : AppState} {shared : Shared} {body : CompletionRequest} {loop : LoopState}

theorem confidenceField_nonneg {data : Json} {confidence : Rat}
    (found : confidenceField data = some confidence) : 0 ≤ confidence := by
  rw [confidenceField] at found
  split at found
  · rw [← Option.some.inj found]
    exact le_max_left 0 _
  · rw [← Option.some.inj found]
    split
    · exact zero_le_one
    · exact le_refl 0
  · exact absurd found (by simp)

theorem extractExplicitConfidence_nonneg {loads : String → Option Json}
    {response : NormalizedResponse} {confidence : Rat}
    (found : extractExplicitConfidence loads response = some confidence) : 0 ≤ confidence := by
  rw [extractExplicitConfidence] at found
  split at found
  · exact absurd found (by simp)
  · exact absurd found (by simp)
  · simp only [Option.orElse_eq_some, Option.bind_eq_some_iff] at found
    cases found with
    | inl direct =>
      have ⟨data, _, field⟩ := direct
      exact confidenceField_nonneg field
    | inr fenced =>
      have ⟨_, data, _, field⟩ := fenced
      exact confidenceField_nonneg field

section

variable (loads : String → Option Json) (response : NormalizedResponse) (body : CompletionRequest)

theorem heuristicConfidence_nonneg : 0 ≤ heuristicConfidence loads response body := by
  rw [heuristicConfidence]
  split
  · exact le_refl 0
  · split
    · norm_num
    · split
      · norm_num
      · norm_num

theorem extractConfidence_nonneg : 0 ≤ extractConfidence loads response body := by
  delta extractConfidence
  cases found : extractExplicitConfidence loads response with
  | none => exact heuristicConfidence_nonneg loads response body
  | some confidence => exact extractExplicitConfidence_nonneg found

end

theorem shouldEscalate_eq_false_iff (app : AppState) (body : CompletionRequest)
    (loop : LoopState) (response : NormalizedResponse) :
    (check app.loads app.config.escalation response body loop.escalationCount).shouldEscalate =
        false ↔
      app.config.escalation.enabled = false ∨
        app.config.escalation.maxEscalations ≤ (loop.escalationCount : Int) ∨
        (isEmptyResponse response = false ∧ isRefusal response = false ∧
          isJsonParseFailure app.loads response body = false ∧
          body.confidenceThreshold ≤ extractConfidence app.loads response body) := by
  have sufficient : ¬ (0 < body.confidenceThreshold ∧
      extractConfidence app.loads response body < body.confidenceThreshold) ↔
      body.confidenceThreshold ≤ extractConfidence app.loads response body := by
    have least := extractConfidence_nonneg app.loads response body
    constructor
    · intro passes
      apply le_of_not_gt
      intro short
      exact passes ⟨lt_of_le_of_lt least short, short⟩
    · intro enough both
      exact absurd both.2 (not_lt.mpr enough)
  rw [← sufficient, check]
  cases enabled : app.config.escalation.enabled with
  | false => simp
  | true =>
    simp only [Bool.not_true, Bool.false_eq_true, if_false, Bool.true_eq_false, false_or]
    split
    · next used => simp [used]
    · next left =>
      simp only [left, false_or]
      cases isEmptyResponse response with
      | true => simp
      | false =>
        cases isRefusal response with
        | true => simp
        | false =>
          cases isJsonParseFailure app.loads response body with
          | true => simp
          | false =>
            simp only [Bool.false_eq_true, if_false, true_and]
            split
            · next short => simp [short]
            · next passes => simp [passes]

theorem confidence_of_sure {response : NormalizedResponse}
    (sure : (check app.loads app.config.escalation response body
      loop.escalationCount).shouldEscalate = false) :
    (check app.loads app.config.escalation response body loop.escalationCount).confidence =
      extractConfidence app.loads response body := by
  rw [check] at sure ⊢
  split
  · rfl
  · split
    · rfl
    · split
      · simp_all
      · split
        · simp_all
        · split
          · simp_all
          · split
            · rfl
            · rfl

theorem between_iff {effectiveThreshold : Rat} {response : NormalizedResponse} :
    Between app shared body loop effectiveThreshold response ↔ ¬ Barred app shared body loop ∧
        (check app.loads app.config.escalation response body
          loop.escalationCount).shouldEscalate = false ∧
        (check app.loads app.config.escalation response body
          loop.escalationCount).confidence < effectiveThreshold := by
  constructor
  · intro between
    have sure := (shouldEscalate_eq_false_iff app body loop response).mpr
      (.inr (.inr ⟨between.answers, between.complies, between.decodes, between.enough⟩))
    refine ⟨between.more, sure, ?_⟩
    rw [confidence_of_sure sure]
    exact between.short
  · intro ⟨more, sure, short⟩
    rw [confidence_of_sure sure] at short
    cases (shouldEscalate_eq_false_iff app body loop response).mp sure with
    | inl off => exact absurd (.disabled off) more
    | inr rest =>
      cases rest with
      | inl used => exact absurd (.limitReached used) more
      | inr passes => exact ⟨more, passes.1, passes.2.1, passes.2.2.1, passes.2.2.2, short⟩

end Check

section Leaving

variable {app : AppState} {shared : Shared} {body : CompletionRequest} {loop : LoopState}

theorem empty_notMem_tiersForLevel (level : Nat) : "" ∉ tiersForLevel level := by
  rw [tiersForLevel]
  split
  · decide
  · split
    · decide
    · split
      · decide
      · decide

section

variable (app : AppState) (shared : Shared) (body : CompletionRequest) (loop : LoopState)

theorem afterFailure_leaves :
    (afterFailure app body shared.levels loop = leaveLoop loop ∧ Barred app shared body loop) ∨
      ∃ nextTier, afterFailure app body shared.levels loop =
        tryTier app (loop.escalate nextTier) := by
  rw [afterFailure]
  split
  · next more =>
    cases next : getNextTier app.config.escalation.path loop.currentTier with
    | none => exact .inl ⟨rfl, .endOfPath next⟩
    | some nextTier =>
      dsimp only
      split
      · exact .inr ⟨nextTier, rfl⟩
      · next closed =>
        refine .inl ⟨rfl, .notAllowed next ?_⟩
        rw [TenantLevels.isTierAllowed, decide_eq_false_iff_not]
        intro allowed
        apply closed
        constructor
        · intro unnamed
          rw [unnamed] at allowed
          exact empty_notMem_tiersForLevel _ allowed
        · rw [TenantLevels.isTierAllowed, decide_eq_true_eq]
          exact allowed
  · next closed =>
    refine .inl ⟨rfl, ?_⟩
    cases enabled : app.config.escalation.enabled with
    | false => exact .disabled enabled
    | true =>
      apply Barred.limitReached
      simpa [enabled] using closed

theorem afterResponse_leaves (attempt : Attempt) :
    (afterResponse app body shared.levels loop attempt = leaveLoop (loop.keep attempt) ∧
        (attempt.decision.shouldEscalate = true → Barred app shared body loop)) ∨
      attempt.decision.shouldEscalate = true ∧ ∃ nextTier,
        afterResponse app body shared.levels loop attempt =
          tryTier app ((loop.keep attempt).escalate nextTier) := by
  rw [afterResponse]
  cases unsure : attempt.decision.shouldEscalate with
  | false => exact .inl ⟨rfl, fun absurdity => absurd absurdity Bool.false_ne_true⟩
  | true =>
    rw [if_neg (by simp), currentTier_keep, escalationCount_keep]
    cases next : getNextTier app.config.escalation.path loop.currentTier with
    | none => exact .inl ⟨rfl, fun _ => .endOfPath next⟩
    | some nextTier =>
      dsimp only
      split
      · next used => exact .inl ⟨rfl, fun _ => .limitReached used⟩
      · split
        · next refused =>
          refine .inl ⟨rfl, fun _ => .notAllowed next ?_⟩
          simpa using refused
        · exact .inr ⟨rfl, nextTier, rfl⟩

end

end Leaving

section Request

variable (app : GatewayApp) (read : AppState) (shared : Shared) (outcome : Outcome)
  (flight : Flight) (note : Note)

/-- A model's answer on which the two thresholds disagree does not come back. -/
def Unambiguous : Prop := ∀ loop model rest response, flight.phase = .calling loop (model :: rest) →
    model.healthy = true → model.enabled = true → (read.registry model.id).isSome = true →
    outcome.response = some response →
    ¬ Between read shared flight.body loop note.effectiveThreshold response

variable {app read shared outcome flight note}

theorem unambiguous_of_not_calling
    (other : ∀ loop model rest, flight.phase ≠ .calling loop (model :: rest)) :
    Unambiguous read shared outcome flight note := by
  intro loop model rest response calling
  exact absurd calling (other loop model rest)

theorem justifies_leaveLoop {loop : LoopState}
    (justified : loop.bestConfidence < note.effectiveThreshold → note.barred) :
    note.Justifies (leaveLoop loop).phase := by
  rw [leaveLoop]
  cases loop.best with
  | none => trivial
  | some best => exact justified

theorem justifies_tryTier (loop : LoopState) : note.Justifies (tryTier read loop).phase := trivial

theorem justifies_afterResponse_iff (read : AppState) (shared : Shared) (body : CompletionRequest)
    (loop : LoopState) (model : ModelConfig) (response : NormalizedResponse)
    (effectiveThreshold : Rat) :
    ({ effectiveThreshold, barred := Barred read shared body loop } : Note).Justifies
        (afterResponse read body shared.levels loop
          (attemptOf read body loop model response)).phase ↔
      ¬ Between read shared body loop effectiveThreshold response := by
  cases afterResponse_leaves read shared body loop (attemptOf read body loop model response) with
  | inl leaves =>
    rw [leaves.1]
    cases unsure : (attemptOf read body loop model response).decision.shouldEscalate with
    | true =>
      have barred := leaves.2 unsure
      constructor
      · intro _ between
        exact between.more barred
      · intro _
        exact justifies_leaveLoop fun _ => barred
    | false =>
      have kept := keep_of_sure loop unsure
      rw [leaveLoop, kept.1, between_iff]
      change ((loop.keep _).bestConfidence < _ → _) ↔ _
      rw [kept.2]
      constructor
      · intro justified between
        exact between.1 (justified between.2.2)
      · intro agree short
        apply Classical.byContradiction
        intro more
        exact agree ⟨more, unsure, short⟩
  | inr escalates =>
    obtain ⟨unsure, nextTier, next⟩ := escalates
    rw [next]
    apply iff_of_true
    · exact justifies_tryTier _
    · intro between
      have sure := (between_iff.mp between).2.1
      exact absurd (sure.symm.trans unsure) Bool.false_ne_true

theorem justifies_resume_iff (justified : note.Justifies flight.phase) :
    (note.after app read shared flight.body flight.phase).Justifies
        (flight.resume read shared outcome).phase ↔
      Unambiguous read shared outcome flight note := by
  rw [Flight.resume]
  cases flight with
  | mk body phase log =>
    cases phase with
    | calling loop pending =>
      cases pending with
      | nil =>
        apply iff_of_true
        · change Note.Justifies _ (afterFailure read body shared.levels loop).phase
          cases afterFailure_leaves read shared body loop with
          | inl leaves =>
            rw [leaves.1]
            exact justifies_leaveLoop fun _ => leaves.2
          | inr escalates =>
            have ⟨nextTier, next⟩ := escalates
            rw [next]
            exact justifies_tryTier _
        · exact unambiguous_of_not_calling (by simp)
      | cons model rest =>
        dsimp only
        rw [advance]
        split
        · next unusable =>
          apply iff_of_true
          · trivial
          · intro _ _ _ _ calling healthy enabled registered
            cases calling
            simp_all
        · next usable =>
          simp only [Bool.or_eq_true, Bool.not_eq_eq_eq_not, Bool.not_true, not_or,
            Bool.not_eq_false, Option.isNone_iff_eq_none, ← Option.isSome_iff_ne_none]
            at usable
          cases answered : outcome.response with
          | none =>
            apply iff_of_true
            · trivial
            · intro _ _ _ response _ _ _ _ found
              simp [answered] at found
          | some response =>
            change Note.Justifies _ (afterResponse read body shared.levels loop
              (attemptOf read body loop model response)).phase ↔ _
            rw [Note.after, justifies_afterResponse_iff]
            constructor
            · intro agree _ _ _ other calling _ _ _ found
              cases calling
              rw [answered] at found
              rw [← Option.some.inj found]
              exact agree
            · intro agree
              exact agree loop model rest response rfl usable.1.1 usable.1.2 usable.2
                answered
    | recording loop best =>
      apply iff_of_true
      · dsimp only
        rw [advance]
        split
        · trivial
        · exact justified
      · exact unambiguous_of_not_calling (by simp)
    | expiring loop best costUsd =>
      apply iff_of_true
      · dsimp only
        rw [advance]
        split
        · trivial
        · exact justified
      · exact unambiguous_of_not_calling (by simp)
    | answered answer =>
      apply iff_of_true
      · exact justified
      · exact unambiguous_of_not_calling (by simp)
    | deciding dailySpend =>
      apply iff_of_true
      · dsimp only
        rw [advance]
        split
        · trivial
        · split
          · trivial
          · trivial
      · exact unambiguous_of_not_calling (by simp)
    | reading | enqueueing level | counting =>
      apply iff_of_true
      · dsimp only
        rw [advance]
        split
        · trivial
        · trivial
      · exact unambiguous_of_not_calling (by simp)

end Request

def Phase.called? : Phase → Option (LoopState × ModelConfig)
  | .calling loop (model :: _) => some (loop, model)
  | _ => none

theorem Phase.exists_of_called? {phase : Phase} {loop : LoopState} {model : ModelConfig}
    (called : phase.called? = some (loop, model)) :
    ∃ rest, phase = .calling loop (model :: rest) := by
  cases phase with
  | calling loop pending =>
    cases pending with
    | nil => cases called
    | cons model rest =>
      cases called
      exact ⟨rest, rfl⟩
  | _ => cases called

/-- An application that serves, with a note on each of its requests. -/
structure Watched where
  serving : Serving
  notes : Nat → Note := fun _ => {}

namespace Watched

variable (charge : ProviderAdapter → Adapter) (loads : String → Option Json) (process : Process)

/-- One move of the application, noted for the request that it moves. -/
def step (state : Watched) (move : ServingMove) : Watched where
  serving := state.serving.step charge loads process move
  notes :=
    match move with
    | .resume index _ _ =>
      match state.serving.flights[index]? with
      | none => state.notes
      | some flight =>
        Function.update state.notes index
          ((state.notes index).after state.serving.app
            (state.serving.app.appState charge loads) state.serving.shared flight.body
            flight.phase)
    | _ => state.notes

/-- Every response is below the threshold of its request only where no further tier was
open. -/
def Governed (state : Watched) : Prop :=
  ∀ index flight, state.serving.flights[index]? = some flight →
    (state.notes index).Justifies flight.phase

/-- The move brings no answer on which the two thresholds of its request disagree. -/
def Agrees (state : Watched) : ServingMove → Prop
  | .resume index outcome _ =>
    ∀ flight, state.serving.flights[index]? = some flight →
      Unambiguous (state.serving.app.appState charge loads) state.serving.shared outcome flight
        (state.notes index)
  | _ => True

variable {charge loads process}

theorem governed_step_iff (state : Watched) (move : ServingMove) (governed : state.Governed) :
    (state.step charge loads process move).Governed ↔ state.Agrees charge loads move := by
  cases move with
  | operate operation outside => exact iff_of_true governed trivial
  | newDay => exact iff_of_true governed trivial
  | arrive body =>
    apply iff_of_true
    · intro index flight found
      change (state.serving.flights ++ [({ body } : Flight)])[index]? = some flight at found
      change (state.notes index).Justifies flight.phase
      rw [List.getElem?_append] at found
      split at found
      · exact governed index flight found
      · have new := List.mem_of_getElem? found
        rw [List.mem_singleton.mp new]
        trivial
    · trivial
  | resume index outcome latencyMs =>
    rw [Agrees]
    cases found : state.serving.flights[index]? with
    | none =>
      have unchanged : state.step charge loads process (.resume index outcome latencyMs) =
          state := by
        simp only [step, Serving.step, found]
      rw [unchanged]
      exact iff_of_true governed (by simp)
    | some flight =>
      have inside : index < state.serving.flights.length := (List.getElem?_eq_some_iff.mp found).1
      have resumed := @justifies_resume_iff state.serving.app
        (state.serving.app.appState charge loads) state.serving.shared outcome flight
        (state.notes index) (governed index flight found)
      simp only [Option.some.injEq, forall_eq']
      rw [← resumed]
      simp only [Governed, step, Serving.step, found]
      constructor
      · intro all
        have own := all index _ (List.getElem?_set_self inside)
        rw [Function.update_self] at own
        exact own
      · intro justified other otherFlight otherFound
        rw [List.getElem?_set] at otherFound
        split at otherFound
        · next same =>
          cases same
          rw [Function.update_self]
          rw [← Option.some.inj otherFound]
          exact justified
        · next apart =>
          rw [Function.update_of_ne (Ne.symm apart)]
          exact governed other otherFlight otherFound

/-- The requests of a run are governed in all the states that it passes exactly when it
brings no answer on which the two thresholds of a request disagree. -/
theorem governed_iff (charge : ProviderAdapter → Adapter) (loads : String → Option Json)
    (process : Process) (app : GatewayApp) (shared : Shared) (moves : List ServingMove) :
    (∀ earlier later, moves = earlier ++ later →
      (run (step charge loads process) { serving := { app, shared } } earlier).Governed) ↔
      Allowed (step charge loads process) (Agrees charge loads) { serving := { app, shared } }
        moves := by
  apply passed_invariant_iff
  · intro state move governed
    exact governed_step_iff state move governed
  · intro index flight found
    simp at found

/-- A request that asks for no confidence under a task for which the admin API asks for
ninety percent, with a plain answer of the model. -/
def plainAnswerRun : List ServingMove :=
  [.operate (.admin 1 .missing (.updateThreshold "summarize" (9 / 10))) rfl,
   .arrive { task := "summarize", tenantId := "acme" }] ++
  [({} : Outcome), {}, {}, { response := some plainResponse }, {}, {}].map fun outcome =>
    .resume 0 outcome 100

def plainAnswerAsked : Watched :=
  run (step freeOfCharge (fun _ => none) bareProcess) { serving := { app := oneModelApp } }
    (plainAnswerRun.take 5)

/-- The override of the admin API does not govern the request: eighty percent are served
while the strong tier is open. -/
theorem override_unheeded : GatewayApp.lifespan bareProcess {} 0 oneModelFile = .ok oneModelApp ∧
      ¬ (∀ earlier later, plainAnswerRun = earlier ++ later →
        (run (step freeOfCharge (fun _ => none) bareProcess)
          { serving := { app := oneModelApp } } earlier).Governed) := by
  constructor
  · rfl
  · intro governed
    have before : plainAnswerAsked.Governed := governed (plainAnswerRun.take 5) _ rfl
    have after : (plainAnswerAsked.step freeOfCharge (fun _ => none) bareProcess
        (.resume 0 { response := some plainResponse } 100)).Governed :=
      governed (plainAnswerRun.take 6) _ rfl
    have agrees := (governed_step_iff plainAnswerAsked _ before).mp after
    have asked : plainAnswerAsked.serving.flights[0]?.map
          (fun flight => (flight.body, flight.phase.called?.map Prod.fst)) =
        some ({ task := "summarize", tenantId := "acme" },
          some { currentTier := "mid" }) := by decide +kernel
    have ready : plainAnswerAsked.serving.flights[0]?.any (fun flight =>
        flight.phase.called?.any fun called => called.2.healthy && called.2.enabled &&
          ((plainAnswerAsked.serving.app.appState freeOfCharge fun _ => none).registry
            called.2.id).isSome) = true := by decide +kernel
    have ⟨flight, found, same⟩ := Option.map_eq_some_iff.mp asked
    rw [found] at ready
    have ⟨ownBody, ownLoop⟩ := Prod.mk.inj same
    have ⟨⟨loop, model⟩, called, first⟩ := Option.map_eq_some_iff.mp ownLoop
    have ⟨rest, waiting⟩ := Phase.exists_of_called? called
    simp only [Option.any_some, called, Bool.and_eq_true] at ready
    cases first
    apply agrees flight found _ model rest plainResponse waiting ready.1.1 ready.1.2 ready.2 rfl
    rw [ownBody]
    constructor
    · intro barred
      -- the strong tier comes next, is allowed, and no escalation has been used
      cases barred with
      | disabled off => exact absurd off (by decide)
      | limitReached used => exact absurd used (by decide)
      | endOfPath last => exact absurd last (by decide)
      | notAllowed next refused =>
        have strong : getNextTier (plainAnswerAsked.serving.app.appState freeOfCharge
            fun _ => none).config.escalation.path "mid" = some "strong" := by decide
        have same := Option.some.inj (next.symm.trans strong)
        rw [same] at refused
        exact absurd refused (by decide +kernel)
    · decide
    · decide
    · decide
    · decide +kernel
    · decide +kernel

end Watched

end Onpremai.Gateway
