import Onpremai.Gateway.History
import Onpremai.Gateway.Ledger

/-!
# Accounting of completions

What the requests of a tenant record against what their adapter calls cost.
-/

namespace Onpremai.Gateway

open Onpremai.Library

def AppState.price (app : AppState) (attempt : Attempt) : Rat :=
  app.costOf attempt.modelId attempt.response.usage

/-- The cost of the adapter calls that succeeded on a day. -/
def paidOn (app : AppState) (day : Day) (log : List Event) : Rat :=
  ((completions log).map fun completion =>
    if completion.2 = day then app.price completion.1 else 0).sum

/-- A request pays for nothing but the response it keeps, on the day it records the
cost, and at the price of the model that made it. -/
structure ChargedFully (app : AppState) (log : List Event) : Prop where
  paid : ∀ earlier paid day later, completions log = earlier ++ (paid, day) :: later →
    app.price paid ≠ 0 →
      Kept (earlier.map Prod.fst) paid (later.map Prod.fst) ∧ .storeRaised ∉ log ∧
        ∀ costUsd recordDay, .recorded costUsd recordDay ∈ log → recordDay = day
  priced : ∀ earlier kept later, obtained log = earlier ++ kept :: later →
    Kept earlier kept later → .storeRaised ∉ log →
      app.costOf (later.getLastD kept).modelId kept.response.usage = app.price kept

/-- What a request has recorded when it is answered. -/
inductive Settled (app : AppState) (log : List Event) : Prop
  | nothing (unrecorded : records log = [])
      (why : obtained log = [] ∨ .storeRaised ∈ log ∨ Unanswered (obtained log))
  | charged {loop : LoopState} {best : Attempt} {day : Day}
      (reports : Reports loop best (obtained log)) (stored : .storeRaised ∉ log)
      (recorded : records log = [(app.costOf loop.modelUsed best.response.usage, day)])

def ChargePhase (app : AppState) (log : List Event) : Phase → Prop
  | .expiring _ _ costUsd => ∃ day, records log = [(costUsd, day)]
  | .answered _ => Settled app log
  | _ => records log = []

section

variable {app : AppState} {body : CompletionRequest}

theorem chargePhase_leaveLoop {log : List Event} {loop : LoopState} (unrecorded : records log = [])
    (history : PhaseHistory app body log (leaveLoop loop).phase) :
    ChargePhase app log (leaveLoop loop).phase := by
  rw [leaveLoop] at history ⊢
  cases best : loop.best with
  | none =>
    rw [best] at history
    exact .nothing unrecorded (.inr (.inr history.1))
  | some kept => exact unrecorded

theorem chargePhase_advances
    {shared after : Shared} {phase : Phase} {turn : Turn} {log : List Event}
    (move : Advances app body shared phase turn after)
    (history : PhaseHistory app body log phase) (charge : ChargePhase app log phase) :
    ChargePhase app (log ++ turn.events) turn.phase := by
  have next := phaseHistory_advances move history
  have unrecorded : ∀ events, records log = [] → records events = [] →
      records (log ++ events) = [] := by
    intro events logNone eventsNone
    rw [records_append, logNone, eventsNone, List.append_nil]
  cases move with
  | readRaised | countRaised | recordRaised =>
    apply Settled.nothing (unrecorded _ charge rfl)
    right
    left
    simp [Turn.raise]
  | turnedAway spent unserved =>
    rcases unserved with ⟨level, rfl⟩ | ⟨level, rfl⟩
    · exact unrecorded _ charge rfl
    · exact .nothing (unrecorded _ charge rfl) (.inl next)
  | @queued level answer unserved =>
    apply Settled.nothing (unrecorded _ charge rfl)
    left
    simpa using history.1
  | gaveUp => exact chargePhase_leaveLoop (unrecorded _ charge rfl) next
  | settled response => exact chargePhase_leaveLoop (unrecorded _ charge rfl) next
  | @recorded loop best =>
    refine ⟨shared.today, ?_⟩
    rw [records_append, show records log = [] from charge]
    rfl
  | @expiryRaised loop best costUsd =>
    rcases charge with ⟨day, recorded⟩
    have reports : Reports loop best (obtained (log ++ [Event.expiryRaised])) := by
      simpa [obtained, completions] using history.1
    refine .charged reports ?_ (?_ : records _ = [(_, day)])
    · intro raised
      apply history.2.1
      left
      simpa [Turn.raise] using raised
    · rw [Turn.raise, records_append, recorded, history.2.2]
      rfl
  | @served loop best costUsd =>
    rcases charge with ⟨day, recorded⟩
    have reports : Reports loop best (obtained (log ++ [])) := by
      simpa using history.1
    refine .charged reports ?_ (?_ : records _ = [(_, day)])
    · intro raised
      apply history.2.1
      left
      simpa using raised
    · rw [records_append, recorded, history.2.2]
      rfl
  | stayed => simpa using charge
  | read | admitted _ | started _ | passedOver | failed | movedOn _ | escalated _ _ _ =>
    exact unrecorded _ charge rfl

end

section Totals

variable {app : AppState} {log : List Event}

theorem completions_split {earlier later : List Attempt} {kept : Attempt}
    (split : obtained log = earlier ++ kept :: later) :
    ∃ before day behind, completions log = before ++ (kept, day) :: behind ∧
      before.map Prod.fst = earlier ∧ behind.map Prod.fst = later := by
  rcases List.map_eq_append_iff.mp split with ⟨before, rest, completionsEq, beforeEq, restEq⟩
  rcases List.map_eq_cons_iff.mp restEq with ⟨⟨attempt, day⟩, behind, rfl, attemptEq, behindEq⟩
  refine ⟨before, day, behind, ?_, beforeEq, behindEq⟩
  rw [completionsEq, ← attemptEq]

theorem ChargedFully.free (charged : ChargedFully app log) {before behind : List (Attempt × Day)}
    {kept : Attempt} {day : Day} (split : completions log = before ++ (kept, day) :: behind)
    (keptIt : Kept (before.map Prod.fst) kept (behind.map Prod.fst)) :
    ∀ other ∈ before ++ behind, app.price other.1 = 0 := by
  intro other member
  by_contra paid
  -- the other completion would be kept as well, in another place
  have place : ∀ earlier later, completions log = earlier ++ other :: later →
      earlier.length = before.length := by
    intro earlier later otherSplit
    have otherKept := (charged.paid earlier other.1 other.2 later otherSplit paid).1
    have attempts := congrArg (List.map Prod.fst) (otherSplit.symm.trans split)
    rw [List.map_append, List.map_append, List.map_cons, List.map_cons] at attempts
    have unique := kept_unique otherKept keptIt attempts
    simpa using congrArg List.length unique.1
  rcases List.mem_append.mp member with early | late
  · rcases List.append_of_mem early with ⟨earlier, later, beforeEq⟩
    have lengths := place earlier (later ++ (kept, day) :: behind) (by rw [split, beforeEq]; simp)
    rw [beforeEq, List.length_append, List.length_cons] at lengths
    omega
  · rcases List.append_of_mem late with ⟨earlier, later, behindEq⟩
    have lengths := place (before ++ (kept, day) :: earlier) later
      (by rw [split, behindEq]; simp)
    rw [List.length_append, List.length_cons] at lengths
    omega

theorem paidOn_of_free (free : ∀ completion ∈ completions log, app.price completion.1 = 0)
    (day : Day) : paidOn app day log = 0 := by
  apply List.sum_eq_zero
  intro amount member
  rcases List.mem_map.mp member with ⟨completion, completionMember, amountEq⟩
  rw [← amountEq, free completion completionMember, ite_self]

theorem paidOn_of_split {before behind : List (Attempt × Day)} {kept : Attempt} {day : Day}
    (split : completions log = before ++ (kept, day) :: behind)
    (free : ∀ other ∈ before ++ behind, app.price other.1 = 0) (today : Day) :
    paidOn app today log = if day = today then app.price kept else 0 := by
  have none : ∀ completions : List (Attempt × Day), (∀ other ∈ completions, app.price other.1 = 0) →
      (completions.map fun completion =>
        if completion.2 = today then app.price completion.1 else 0).sum = 0 := by
    intro completions all
    apply List.sum_eq_zero
    intro amount member
    rcases List.mem_map.mp member with ⟨completion, completionMember, amountEq⟩
    rw [← amountEq, all completion completionMember, ite_self]
  rw [paidOn, split, List.map_append, List.map_cons, List.sum_append, List.sum_cons,
    none before fun other member => free other (List.mem_append_left _ member),
    none behind fun other member => free other (List.mem_append_right _ member)]
  simp

theorem recordedOn_eq_paidOn (charged : ChargedFully app log) (settled : Settled app log)
    (today : Day) : recordedOn today log = paidOn app today log := by
  cases settled with
  | nothing unrecorded why =>
    have free : ∀ completion ∈ completions log, app.price completion.1 = 0 := by
      intro completion member
      by_contra paid
      rcases List.append_of_mem member with ⟨earlier, later, split⟩
      have obtainedEq : obtained log =
          earlier.map Prod.fst ++ completion.1 :: later.map Prod.fst := by
        rw [obtained, split, List.map_append, List.map_cons]
      have kept := charged.paid earlier completion.1 completion.2 later split paid
      rcases why with none | raised | unanswered
      · rw [none] at obtainedEq
        simp at obtainedEq
      · exact kept.2.1 raised
      · exact not_kept_of_unanswered unanswered obtainedEq kept.1
    rw [paidOn_of_free free, recordedOn, unrecorded]
    rfl
  | @charged loop best recordDay reports stored recorded =>
    rcases reports.kept with ⟨earlier, later, split, kept⟩
    rcases completions_split split with ⟨before, day, behind, place, rfl, rfl⟩
    have free := charged.free place kept
    have used : loop.modelUsed = ((behind.map Prod.fst).getLastD best).modelId := by
      apply (reports.used _ _).1
      rw [split, getLast?_append_cons]
      rfl
    have cost : app.costOf loop.modelUsed best.response.usage = app.price best := by
      rw [used]
      exact charged.priced _ best _ split kept stored
    rw [paidOn_of_split place free, recordedOn, recorded, cost]
    by_cases nothing : app.price best = 0
    · simp [nothing]
    · have paid := charged.paid before best day behind place nothing
      have sameDay : recordDay = day := by
        apply paid.2.2 (app.costOf loop.modelUsed best.response.usage)
        have member : (app.costOf loop.modelUsed best.response.usage, recordDay) ∈
            records log := by
          rw [recorded]
          exact List.mem_singleton.mpr rfl
        rw [records, List.mem_filterMap] at member
        rcases member with ⟨event, eventMember, eventEq⟩
        cases event with
        | recorded costUsd otherDay => simp_all
        | _ => simp at eventEq
      simp [sameDay]

end Totals

def pricedApp : AppState where
  config := {
    tiers := .ofList [("fast", [{ id := "haiku" }]), ("mid", [{ id := "sonnet" }])]
    taskRouting := .ofList [("classify", "fast")] }
  registry := fun _ =>
    some ⟨fun inputTokens outputTokens => (inputTokens + outputTokens) / 1000⟩
  loads := fun _ => none

def firstAnswers (content : String) : List Move :=
  [.arrive { task := "classify", tenantId := "tenant-a" }, .resume 0 {}, .resume 0 {},
    .resume 0 {}, .resume 0 { response := some { content := some content, usage := ⟨100, 10⟩ } }]

def acceptedAtOnce : List Move := firstAnswers "access review" ++ [.resume 0 {}, .resume 0 {}]

def refusedThenAccepted : List Move := firstAnswers "I cannot do that." ++
    [.resume 0 { response := some { content := some "access review", usage := ⟨100, 20⟩ } },
      .resume 0 {}, .resume 0 {}]

def acceptedAttempt : Attempt where
  tier := "fast"
  modelId := "haiku"
  response := { content := some "access review", usage := ⟨100, 10⟩ }
  decision := { shouldEscalate := false, confidence := 8 / 10 }

theorem acceptedAtOnce_logs :
    (run (System.step pricedApp) {} acceptedAtOnce).flights.map (fun flight =>
        (flight.isAnswered, flight.log)) =
      [(true, [.read 0 0, .tried "fast", .called "fast" "haiku",
        .completed acceptedAttempt 0, .recorded (11 / 100) 0])] := by
  decide +kernel

end Onpremai.Gateway
