import Onpremai.Gateway.Interleaving

/-!
# History of a request

The log of a request determines what its escalation loop holds: the attempt whose
response is kept, and the model that answered last.
-/

namespace Onpremai.Gateway

open Onpremai.Library

/-- The adapter calls that succeeded, each with its day. -/
def completions (log : List Event) : List (Attempt × Day) :=
  log.filterMap fun event =>
    match event with
    | .completed attempt day => some (attempt, day)
    | _ => none

/-- The attempts that gave a response, in order. -/
def obtained (log : List Event) : List Attempt := (completions log).map Prod.fst

def Raised (log : List Event) : Prop := .storeRaised ∈ log ∨ .expiryRaised ∈ log

@[simp] theorem obtained_nil : obtained [] = [] := rfl

@[simp] theorem not_raised_nil : ¬ Raised [] := by
  simp [Raised]

theorem obtained_completed (log : List Event) (tier modelId : String) (attempt : Attempt)
    (day : Day) :
    obtained (log ++ [.called tier modelId, .completed attempt day]) =
      obtained log ++ [attempt] := by
  simp [obtained, completions]

theorem quiet_completed {log : List Event} (quiet : ¬ Raised log) (tier modelId : String)
    (attempt : Attempt) (day : Day) :
    ¬ Raised (log ++ [.called tier modelId, .completed attempt day]) := by
  simpa [Raised] using quiet

/-- The attempt whose response is kept: the last one when it needs no escalation,
else the first one of greatest confidence, which must be positive. -/
inductive Kept : List Attempt → Attempt → List Attempt → Prop
  | accepted {earlier : List Attempt} {kept : Attempt}
      (sure : kept.decision.shouldEscalate = false) : Kept earlier kept []
  | best {earlier later : List Attempt} {kept : Attempt}
      (unsure : (later.getLastD kept).decision.shouldEscalate = true)
      (positive : 0 < kept.decision.confidence)
      (above : ∀ attempt ∈ earlier, attempt.decision.confidence < kept.decision.confidence)
      (notBelow : ∀ attempt ∈ later, attempt.decision.confidence ≤ kept.decision.confidence) :
      Kept earlier kept later

theorem getLast?_append_cons (earlier later : List Attempt) (kept : Attempt) :
    (earlier ++ kept :: later).getLast? = some (later.getLastD kept) := by
  rw [List.getLast?_append, List.getLast?_cons]
  simp [List.getLastD_eq_getLast?]

theorem kept_unique {first second : List Attempt} {one other : Attempt}
    {afterOne afterOther : List Attempt} (keptOne : Kept first one afterOne)
    (keptOther : Kept second other afterOther)
    (same : first ++ one :: afterOne = second ++ other :: afterOther) :
    first = second ∧ one = other ∧ afterOne = afterOther := by
  have last : afterOne.getLastD one = afterOther.getLastD other := by
    have lasts := congrArg List.getLast? same
    rw [getLast?_append_cons, getLast?_append_cons] at lasts
    exact Option.some.inj lasts
  cases keptOne with
  | accepted sure =>
    cases keptOther with
    | accepted sureOther => simpa using List.append_inj' same rfl
    | best unsure positive above notBelow =>
      rw [← last] at unsure
      exact absurd (sure.symm.trans unsure) (by decide)
  | best unsure positive above notBelow =>
    cases keptOther with
    | accepted sureOther =>
      rw [last] at unsure
      exact absurd (sureOther.symm.trans unsure) (by decide)
    | best unsureOther positiveOther aboveOther notBelowOther =>
      -- an attempt that stands before the other one cannot be as confident
      rcases List.append_eq_append_iff.mp same with
        ⟨between, split, rest⟩ | ⟨between, split, rest⟩
      · cases between with
        | nil => simp_all
        | cons head tail =>
          rw [List.cons_append, List.cons.injEq] at rest
          have less := aboveOther one (by simp [split, rest.1])
          have more := notBelow other (by simp [rest.2])
          exact absurd (lt_of_lt_of_le less more) (lt_irrefl _)
      · cases between with
        | nil => simp_all
        | cons head tail =>
          rw [List.cons_append, List.cons.injEq] at rest
          have less := above other (by simp [split, rest.1])
          have more := notBelowOther one (by simp [rest.2])
          exact absurd (lt_of_lt_of_le less more) (lt_irrefl _)

/-- What the loop's best response is, when every attempt so far had to be escalated. -/
inductive BestSoFar (attempts : List Attempt) : Option Attempt → Rat → Prop
  | nothing (low : ∀ attempt ∈ attempts, attempt.decision.confidence ≤ 0) :
      BestSoFar attempts none 0
  | found {earlier later : List Attempt} {best : Attempt}
      (split : attempts = earlier ++ best :: later)
      (positive : 0 < best.decision.confidence)
      (above : ∀ attempt ∈ earlier, attempt.decision.confidence < best.decision.confidence)
      (notBelow : ∀ attempt ∈ later, attempt.decision.confidence ≤ best.decision.confidence) :
      BestSoFar attempts (some best) best.decision.confidence

/-- The loop while it runs, beside the attempts made so far. -/
structure LoopHistory (loop : LoopState) (attempts : List Attempt) : Prop where
  unsure : ∀ attempt ∈ attempts, attempt.decision.shouldEscalate = true
  best : BestSoFar attempts loop.best loop.bestConfidence
  used : ∀ last ∈ attempts.getLast?, loop.modelUsed = last.modelId ∧ loop.tierUsed = "unknown"

/-- The loop at its exit with a best response, beside the attempts made. -/
structure Reports (loop : LoopState) (best : Attempt) (attempts : List Attempt) : Prop where
  kept : ∃ earlier later, attempts = earlier ++ best :: later ∧ Kept earlier best later
  used : ∀ last ∈ attempts.getLast?, loop.modelUsed = last.modelId ∧ loop.tierUsed = "unknown"
  confidence : loop.bestConfidence = best.decision.confidence

/-- The loop at its exit without a response to serve. -/
structure Unanswered (attempts : List Attempt) : Prop where
  unsure : ∀ attempt ∈ attempts, attempt.decision.shouldEscalate = true
  low : ∀ attempt ∈ attempts, attempt.decision.confidence ≤ 0

theorem not_kept_of_unanswered {attempts earlier later : List Attempt} {kept : Attempt}
    (unanswered : Unanswered attempts) (split : attempts = earlier ++ kept :: later) :
    ¬ Kept earlier kept later := by
  have member : kept ∈ attempts := by
    rw [split]
    simp
  intro keptIt
  cases keptIt with
  | accepted sure => exact absurd (sure.symm.trans (unanswered.unsure kept member)) (by decide)
  | best unsure positive above notBelow =>
    exact absurd (unanswered.low kept member) (not_le.mpr positive)

theorem loopHistory_startLoop (app : AppState) (body : CompletionRequest)
    (levels : TenantLevels) (roll : Nat) :
    LoopHistory (startLoop app body levels roll) [] where
  unsure := by simp
  best := .nothing (by simp)
  used := by simp

theorem LoopHistory.escalate {loop : LoopState} {attempts : List Attempt}
    (history : LoopHistory loop attempts) (nextTier : String) :
    LoopHistory (loop.escalate nextTier) attempts :=
  ⟨history.unsure, history.best, history.used⟩

theorem used_keep (loop : LoopState) (attempt : Attempt) :
    (loop.keep attempt).modelUsed = attempt.modelId ∧
      (loop.keep attempt).tierUsed = "unknown" := by
  rw [LoopState.keep]
  dsimp only
  split <;> exact ⟨rfl, rfl⟩

theorem keep_of_sure (loop : LoopState) {attempt : Attempt}
    (sure : attempt.decision.shouldEscalate = false) :
    (loop.keep attempt).best = some attempt ∧
      (loop.keep attempt).bestConfidence = attempt.decision.confidence := by
  rw [LoopState.keep, if_pos (.inr sure)]
  exact ⟨rfl, rfl⟩

theorem keep_of_unsure (loop : LoopState) {attempt : Attempt}
    (unsure : attempt.decision.shouldEscalate = true) :
    (loop.keep attempt).best =
        (if loop.bestConfidence < attempt.decision.confidence then some attempt else loop.best) ∧
      (loop.keep attempt).bestConfidence =
        (if loop.bestConfidence < attempt.decision.confidence then attempt.decision.confidence
          else loop.bestConfidence) := by
  rw [LoopState.keep]
  by_cases better : loop.bestConfidence < attempt.decision.confidence
  · simp [better]
  · simp [better, unsure]

section

variable {attempts : List Attempt} {best : Option Attempt} {confidence : Rat}

theorem BestSoFar.le (history : BestSoFar attempts best confidence) :
    0 ≤ confidence ∧ ∀ old ∈ attempts, old.decision.confidence ≤ confidence := by
  cases history with
  | nothing low => exact ⟨le_refl 0, low⟩
  | found split positive above notBelow =>
    refine ⟨le_of_lt positive, ?_⟩
    intro old member
    rw [split, List.mem_append, List.mem_cons] at member
    rcases member with early | rfl | late
    · exact le_of_lt (above old early)
    · exact le_refl _
    · exact notBelow old late

theorem BestSoFar.snoc (history : BestSoFar attempts best confidence) (attempt : Attempt) :
    BestSoFar (attempts ++ [attempt])
      (if confidence < attempt.decision.confidence then some attempt else best)
      (if confidence < attempt.decision.confidence then attempt.decision.confidence
        else confidence) := by
  have below := history.le
  by_cases better : confidence < attempt.decision.confidence
  · rw [if_pos better, if_pos better]
    refine .found rfl (lt_of_le_of_lt below.1 better) ?_ (by simp)
    intro old member
    exact lt_of_le_of_lt (below.2 old member) better
  · rw [if_neg better, if_neg better]
    cases history with
    | nothing low =>
      apply BestSoFar.nothing
      intro old member
      rcases List.mem_append.mp member with early | new
      · exact low old early
      · rw [List.mem_singleton.mp new]
        exact not_lt.mp better
    | @found earlier later best split positive above notBelow =>
      have extended : attempts ++ [attempt] = earlier ++ best :: (later ++ [attempt]) := by
        rw [split, List.append_assoc, List.cons_append]
      refine .found extended positive above ?_
      intro old member
      rcases List.mem_append.mp member with late | new
      · exact notBelow old late
      · rw [List.mem_singleton.mp new]
        exact not_lt.mp better

end

theorem LoopHistory.snoc {loop : LoopState} {attempts : List Attempt} {attempt : Attempt}
    (history : LoopHistory loop attempts) (unsure : attempt.decision.shouldEscalate = true) :
    LoopHistory (loop.keep attempt) (attempts ++ [attempt]) where
  unsure := by
    intro old member
    rcases List.mem_append.mp member with early | new
    · exact history.unsure old early
    · rw [List.mem_singleton.mp new]
      exact unsure
  best := by
    have kept := keep_of_unsure loop unsure
    rw [kept.1, kept.2]
    exact history.best.snoc attempt
  used := by
    intro last isLast
    rw [List.getLast?_concat] at isLast
    rw [← Option.some.inj isLast]
    exact used_keep loop attempt

@[simp] theorem leaveLoop_events (loop : LoopState) : (leaveLoop loop).events = [] := rfl

def PhaseHistory (app : AppState) (body : CompletionRequest) (log : List Event) : Phase → Prop
  | .reading | .deciding _ | .enqueueing _ | .counting => obtained log = [] ∧ ¬ Raised log
  | .calling loop _ => LoopHistory loop (obtained log) ∧ ¬ Raised log
  | .recording loop best => Reports loop best (obtained log) ∧ ¬ Raised log
  | .expiring loop best costUsd =>
    Reports loop best (obtained log) ∧ ¬ Raised log ∧
      costUsd = app.costOf loop.modelUsed best.response.usage
  | .answered (.served response) =>
    ∃ loop best, Reports loop best (obtained log) ∧ ¬ Raised log ∧
      response = servedResponse body loop best (app.costOf loop.modelUsed best.response.usage)
  | .answered .unavailable => Unanswered (obtained log) ∧ ¬ Raised log
  | .answered .serverError => obtained log = [] ∨ Raised log
  | .answered (.budgetExhausted _) | .answered (.llmBudgetExhausted _) => obtained log = []

section

variable {app : AppState} {body : CompletionRequest}

theorem phaseHistory_leaveLoop {log : List Event}
    {loop : LoopState} (history : LoopHistory loop (obtained log)) (quiet : ¬ Raised log) :
    PhaseHistory app body log (leaveLoop loop).phase := by
  have best := history.best
  rw [leaveLoop]
  cases bestEq : loop.best with
  | none =>
    rw [bestEq] at best
    refine ⟨⟨history.unsure, ?_⟩, quiet⟩
    generalize loop.bestConfidence = confidence at best
    cases best with
    | nothing low => exact low
  | some kept =>
    refine ⟨⟨?_, history.used, ?_⟩, quiet⟩
    · rw [bestEq] at best
      generalize loop.bestConfidence = confidence at best
      cases best with
      | @found earlier later _ split positive above notBelow =>
        refine ⟨earlier, later, split, .best ?_ positive above notBelow⟩
        apply history.unsure
        apply List.mem_of_getLast?
        rw [split, getLast?_append_cons]
    · rw [bestEq] at best
      generalize loop.bestConfidence = confidence at best
      cases best with
      | found split positive above notBelow => rfl

theorem phaseHistory_leaveLoop_of_sure
    {log : List Event} {loop : LoopState} {attempts : List Attempt} {attempt : Attempt}
    (sure : attempt.decision.shouldEscalate = false)
    (attemptsEq : obtained log = attempts ++ [attempt]) (quiet : ¬ Raised log) :
    PhaseHistory app body log (leaveLoop (loop.keep attempt)).phase := by
  have kept := keep_of_sure loop sure
  rw [leaveLoop, kept.1]
  refine ⟨⟨⟨attempts, [], attemptsEq, .accepted sure⟩, ?_, kept.2⟩, quiet⟩
  intro last isLast
  rw [attemptsEq, List.getLast?_concat] at isLast
  rw [← Option.some.inj isLast]
  exact used_keep loop attempt

theorem phaseHistory_advances {shared after : Shared}
    {phase : Phase} {turn : Turn} {log : List Event}
    (move : Advances app body shared phase turn after) (history : PhaseHistory app body log phase) :
    PhaseHistory app body (log ++ turn.events) turn.phase := by
  cases move with
  | readRaised => exact .inl (by simpa [Turn.raise, obtained, completions] using history.1)
  | read => simpa [PhaseHistory, obtained, completions, Raised] using history
  | turnedAway spent unserved =>
    rcases unserved with ⟨level, rfl⟩ | ⟨level, rfl⟩
    · simpa [PhaseHistory] using history
    · simpa [PhaseHistory] using history.1
  | admitted left => simpa [PhaseHistory] using history
  | queued unserved =>
    rcases unserved with rfl | rfl
    · simpa [PhaseHistory] using history.1
    · exact .inl (by simpa using history.1)
  | countRaised => exact .inl (by simpa [Turn.raise, obtained, completions] using history.1)
  | started roll =>
    have nothing : obtained (log ++ (tryTier app (startLoop app body shared.levels roll)).events)
        = [] := by
      simpa [tryTier, obtained, completions] using history.1
    refine ⟨?_, by simpa [tryTier, Raised] using history.2⟩
    rw [nothing]
    exact loopHistory_startLoop app body shared.levels roll
  | passedOver => simpa [PhaseHistory] using history
  | failed => simpa [PhaseHistory, obtained, completions, Raised] using history
  | gaveUp =>
    rw [leaveLoop, List.append_nil]
    exact phaseHistory_leaveLoop history.1 history.2
  | movedOn may =>
    refine ⟨?_, by simpa [tryTier, Raised] using history.2⟩
    simpa [tryTier, obtained, completions] using history.1.escalate _
  | @settled loop model rest response =>
    have quiet := quiet_completed history.2 loop.currentTier model.id
      (attemptOf app body loop model response) shared.today
    have attempts := obtained_completed log loop.currentTier model.id
      (attemptOf app body loop model response) shared.today
    rw [Turn.after, leaveLoop_events, List.append_nil]
    cases unsure : (attemptOf app body loop model response).decision.shouldEscalate with
    | false => exact phaseHistory_leaveLoop_of_sure unsure attempts quiet
    | true =>
      apply phaseHistory_leaveLoop _ quiet
      rw [attempts]
      exact history.1.snoc unsure
  | @escalated loop model rest response nextTier unsure may =>
    have quiet := quiet_completed history.2 loop.currentTier model.id
      (attemptOf app body loop model response) shared.today
    have attempts := obtained_completed log loop.currentTier model.id
      (attemptOf app body loop model response) shared.today
    rw [Turn.after, ← List.append_assoc]
    refine ⟨?_, by simpa [tryTier, Raised] using quiet⟩
    have more := (history.1.snoc unsure).escalate nextTier
    rw [← attempts] at more
    simpa [tryTier, obtained, completions] using more
  | recordRaised => exact .inr (by simp [Turn.raise, Raised])
  | recorded =>
    refine ⟨by simpa [obtained, completions] using history.1, ?_, rfl⟩
    simpa [Raised] using history.2
  | expiryRaised => exact .inr (by simp [Turn.raise, Raised])
  | served =>
    refine ⟨_, _, by simpa using history.1, by simpa using history.2.1, ?_⟩
    rw [history.2.2]
  | @stayed answer => simpa using history

end

end Onpremai.Gateway
