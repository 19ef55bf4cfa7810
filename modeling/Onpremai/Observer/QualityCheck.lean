import Onpremai.Observer.Diagnosis
import Onpremai.Observer.SelfRegulation

/-!
# Quality check

A cycle diagnoses the detected issues, pairs the diagnoses with the issues by their
positions, and proposes and applies a change for every pair.  The pairs are right only while
no issue that could not be diagnosed comes before one that could.
-/

namespace Onpremai.Observer

open Onpremai.Library

/-- A pair that was considered: what was proposed for it, what became of the change, and
the autonomy level at that time. -/
structure Consideration where
  diagnosis : Diagnosis
  issue : DetectedIssue
  proposed : Option Change := none
  outcome : Option Change := none
  appliedAt : Time
  autonomy : AutonomyLevel

/-- The components of the observer, and the log of the pairs that were considered. -/
structure ObserverState where
  proposer : ProposerState := {}
  applier : ApplierState := {}
  regulator : RegulatorState := {}
  breaker : CircuitBreaker := {}
  log : List Consideration := []

/-- What the application of a pair meets: the id that is drawn, the clock and the replies. -/
structure PairSurroundings where
  changeId : String
  now : Time
  replies : Replies

/-- A diagnosis that is paired with an issue. -/
structure Offer where
  diagnosis : Diagnosis
  issue : DetectedIssue
  surroundings : PairSurroundings

def Offer.pair (offer : Offer) : Diagnosis × DetectedIssue := (offer.diagnosis, offer.issue)

def Consideration.pair (entry : Consideration) : Diagnosis × DetectedIssue :=
  (entry.diagnosis, entry.issue)

/-- What the detector found in a cycle, and what the cycle meets. -/
structure Cycle where
  calls : List DiagnosisCall
  surroundings : Nat → PairSurroundings

section

variable (settings : ObserverSettings) (state : ObserverState)

def proposedFor (offer : Offer) : Option Change :=
  propose settings state.proposer offer.surroundings.changeId offer.surroundings.now
    offer.diagnosis offer.issue

def applied (offer : Offer) (change : Change) : Except PyError (Change × ApplierState) :=
  apply settings state.applier change
    (isOpen (checkCooldown settings offer.surroundings.now state.breaker))
    offer.surroundings.replies

/-- Propose a change for a pair and apply it; the second component tells whether an
exception leaves the cycle. -/
def considerPair (offer : Offer) : ObserverState × Bool :=
  let entry : Consideration := {
    diagnosis := offer.diagnosis
    issue := offer.issue
    proposed := proposedFor settings state offer
    appliedAt := offer.surroundings.replies.appliedAt
    autonomy := state.regulator.autonomy }
  match proposedFor settings state offer with
  | none => ({ state with log := state.log ++ [entry] }, false)
  | some change =>
    let breaker := checkCooldown settings offer.surroundings.now state.breaker
    match applied settings state offer change with
    | .error _ => ({ state with breaker, log := state.log ++ [entry] }, true)
    | .ok (changed, applier) =>
      ({ state with
         applier
         breaker
         regulator := recordChange settings state.regulator changed
         log := state.log ++ [{ entry with outcome := some changed }] }, false)

/-- Consider the pairs of a cycle in order, until an exception leaves it. -/
def considerPairs : ObserverState → List Offer → ObserverState
  | state, [] => state
  | state, offer :: rest =>
    let considered := considerPair settings state offer
    if considered.2 then considered.1 else considerPairs considered.1 rest

def offersOf (diagnoses : List Diagnosis) (cycle : Cycle) : List Offer :=
  (diagnoses.zip (cycle.calls.map DiagnosisCall.issue)).zipIdx.map fun entry =>
    { diagnosis := entry.1.1, issue := entry.1.2, surroundings := cycle.surroundings entry.2 }

/-- The hourly quality check.  An exception ends the job and is logged. -/
def runQualityCheck (decoders : Decoders) (cycle : Cycle) : ObserverState :=
  match diagnoseBatch decoders settings cycle.calls with
  | .error _ => state
  | .ok diagnoses => considerPairs settings state (offersOf diagnoses cycle)

def cycleLog (decoders : Decoders) (cycle : Cycle) : List Consideration :=
  (runQualityCheck settings state decoders cycle).log.drop state.log.length

/-- Every change is proposed from a diagnosis and the issue it was made for, and every
issue that was diagnosed has its own proposal considered. -/
structure PairsRightly (decoders : Decoders) (cycle : Cycle) : Prop where
  own : ∀ entry ∈ cycleLog settings state decoders cycle, ∀ change, entry.proposed = some change →
      change.diagnosisId = entry.diagnosis.id ∧ change.issueId = entry.diagnosis.issueId
  complete : ∀ pair ∈ ownPairs (attempts decoders settings cycle.calls),
    ∃ entry ∈ cycleLog settings state decoders cycle, entry.pair = pair

def AppliesQuietly (state : ObserverState) (offer : Offer) : Prop :=
  ∀ change, proposedFor settings state offer = some change →
    ∃ outcome, applied settings state offer change = .ok outcome

/-- No issue is diagnosed; or no exception leaves the diagnosis, no issue that could not be
diagnosed comes before one that could, and no application but the last raises. -/
def LinesUp (decoders : Decoders) (cycle : Cycle) : Prop :=
  ownPairs (attempts decoders settings cycle.calls) = [] ∨
    raisesInBatch decoders settings cycle.calls = false ∧
      FailuresLast (attempts decoders settings cycle.calls) ∧
        Allowed (fun state offer => (considerPair settings state offer).1)
          (AppliesQuietly settings) state
          (offersOf (results (attempts decoders settings cycle.calls)) cycle).dropLast

end

section

variable {settings : ObserverSettings} {state : ObserverState}

theorem considerPair_log (offer : Offer) :
    ∃ entry, (considerPair settings state offer).1.log = state.log ++ [entry] ∧
      entry.pair = offer.pair ∧ entry.proposed = proposedFor settings state offer := by
  rw [considerPair]
  cases proposedFor settings state offer with
  | none => exact ⟨_, rfl, rfl, rfl⟩
  | some change =>
    dsimp only
    cases applied settings state offer change with
    | error error => exact ⟨_, rfl, rfl, rfl⟩
    | ok outcome => exact ⟨_, rfl, rfl, rfl⟩

theorem considerPair_raised_iff (offer : Offer) :
    (considerPair settings state offer).2 = false ↔ AppliesQuietly settings state offer := by
  rw [considerPair, AppliesQuietly]
  cases proposed : proposedFor settings state offer with
  | none => simp
  | some change =>
    cases outcome : applied settings state offer change with
    | error error => simp [outcome]
    | ok changed => simp [outcome, Prod.exists.symm]

theorem proposedFor_provenance {offer : Offer} {change : Change}
    (proposed : proposedFor settings state offer = some change) :
    change.diagnosisId = offer.diagnosis.id ∧ change.issueId = offer.issue.id :=
  ⟨(propose_provenance proposed).2.1, (propose_provenance proposed).1⟩

theorem considerPairs_log (offers : List Offer) :
    ∃ entries, (considerPairs settings state offers).log = state.log ++ entries ∧
      entries.map Consideration.pair <+: offers.map Offer.pair ∧
      (∀ entry ∈ entries, ∀ change, entry.proposed = some change →
        change.diagnosisId = entry.diagnosis.id ∧ change.issueId = entry.issue.id) ∧
      (entries.length = offers.length ↔
        Allowed (fun state offer => (considerPair settings state offer).1)
          (AppliesQuietly settings) state offers.dropLast) := by
  induction offers generalizing state with
  | nil =>
    refine ⟨[], (List.append_nil _).symm, List.prefix_rfl, ?_, ?_⟩
    · intro entry member
      cases member
    · exact ⟨fun _ => trivial, fun _ => rfl⟩
  | cons offer rest ih =>
    rcases @considerPair_log settings state offer with ⟨entry, logged, pair, proposed⟩
    have provenance : ∀ change, entry.proposed = some change →
        change.diagnosisId = entry.diagnosis.id ∧ change.issueId = entry.issue.id := by
      intro change some
      rw [proposed] at some
      rw [Consideration.pair, Offer.pair, Prod.mk.injEq] at pair
      rw [pair.1, pair.2]
      exact proposedFor_provenance some
    rw [considerPairs]
    cases raised : (considerPair settings state offer).2 with
    | true =>
      refine ⟨[entry], logged, ?_, ?_, ?_⟩
      · rw [List.map_singleton, List.map_cons, pair]
        exact ⟨rest.map Offer.pair, rfl⟩
      · intro other member
        rw [List.mem_singleton.mp member]
        exact provenance
      · cases rest with
        | nil => simp [Allowed]
        | cons next others =>
          have noisy : ¬ AppliesQuietly settings state offer := by
            rw [← considerPair_raised_iff, raised]
            exact Bool.noConfusion
          rw [List.dropLast_cons_of_ne_nil (by simp), Allowed]
          simp [noisy]
    | false =>
      rcases @ih (considerPair settings state offer).1 with
        ⟨entries, later, start, provenances, all⟩
      refine ⟨entry :: entries, ?_, ?_, ?_, ?_⟩
      · simp [later, logged]
      · rw [List.map_cons, List.map_cons, pair]
        exact List.prefix_cons_inj _ |>.mpr start
      · exact List.forall_mem_cons.mpr ⟨provenance, provenances⟩
      · have quiet := (considerPair_raised_iff offer).mp raised
        cases rest with
        | nil =>
          simp only [List.map_nil, List.prefix_nil, List.map_eq_nil_iff] at start
          simp [start, Allowed]
        | cons next others =>
          rw [List.dropLast_cons_of_ne_nil (by simp), Allowed, List.length_cons,
            List.length_cons, Nat.add_right_cancel_iff, all]
          exact (and_iff_right quiet).symm

theorem offersOf_pairs (diagnoses : List Diagnosis) (cycle : Cycle) :
    (offersOf diagnoses cycle).map Offer.pair =
      diagnoses.zip (cycle.calls.map DiagnosisCall.issue) := by
  rw [offersOf, List.map_map]
  exact List.zipIdx_map_fst 0 _

/-! ## A cycle -/

variable {decoders : Decoders} {cycle : Cycle}

theorem cycleLog_raised (raised : raisesInBatch decoders settings cycle.calls = true) :
    cycleLog settings state decoders cycle = [] := by
  rw [cycleLog, runQualityCheck, diagnoseBatch]
  rcases @diagnoseFrom_eq decoders settings 0 cycle.calls with
    ⟨⟨error, failed⟩, -⟩ | ⟨-, quiet, -⟩
  · rw [failed]
    exact List.drop_length
  · rw [raisesInBatch, quiet] at raised
    cases raised

theorem cycleLog_diagnosed (quiet : raisesInBatch decoders settings cycle.calls = false) :
    (cycleLog settings state decoders cycle).map Consideration.pair <+:
        zippedPairs (attempts decoders settings cycle.calls) ∧
      (∀ entry ∈ cycleLog settings state decoders cycle, ∀ change, entry.proposed = some change →
          change.diagnosisId = entry.diagnosis.id ∧ change.issueId = entry.issue.id) ∧
      ((cycleLog settings state decoders cycle).length =
          (zippedPairs (attempts decoders settings cycle.calls)).length ↔
        Allowed (fun state offer => (considerPair settings state offer).1)
          (AppliesQuietly settings) state
          (offersOf (results (attempts decoders settings cycle.calls)) cycle).dropLast) := by
  rcases @diagnoseFrom_eq decoders settings 0 cycle.calls with
    ⟨-, marked⟩ | ⟨returned, -, issues⟩
  · rw [raisesInBatch, marked] at quiet
    cases quiet
  · rcases @considerPairs_log settings state
      (offersOf (results (attempts decoders settings cycle.calls)) cycle) with
      ⟨entries, logged, start, provenance, all⟩
    have pairs := offersOf_pairs (results (attempts decoders settings cycle.calls)) cycle
    have log : cycleLog settings state decoders cycle = entries := by
      rw [cycleLog, runQualityCheck, diagnoseBatch, returned]
      dsimp only
      rw [← attempts, logged, List.drop_left]
    have zipped : zippedPairs (attempts decoders settings cycle.calls) =
        (results (attempts decoders settings cycle.calls)).zip
          (cycle.calls.map DiagnosisCall.issue) := by
      rw [zippedPairs, attempts, issues]
    rw [pairs, ← zipped] at start
    rw [log]
    refine ⟨start, provenance, ?_⟩
    rw [← all, zipped, ← pairs, List.length_map]

theorem attempts_nodup (distinct : (cycle.calls.map fun call => call.issue.id).Nodup)
    (quiet : raisesInBatch decoders settings cycle.calls = false) :
    ((attempts decoders settings cycle.calls).map Prod.fst).Nodup := by
  rcases @diagnoseFrom_eq decoders settings 0 cycle.calls with ⟨-, marked⟩ | ⟨-, -, issues⟩
  · rw [raisesInBatch, marked] at quiet
    cases quiet
  · rw [attempts, issues]
    apply List.Nodup.of_map DetectedIssue.id
    rw [List.map_map]
    exact distinct

theorem linesUp_of_pairsRightly (distinct : (cycle.calls.map fun call => call.issue.id).Nodup)
    (right : PairsRightly settings state decoders cycle) :
    LinesUp settings state decoders cycle := by
  by_cases none : ownPairs (attempts decoders settings cycle.calls) = []
  · exact .inl none
  · right
    have quiet : raisesInBatch decoders settings cycle.calls = false := by
      by_contra raised
      rw [Bool.not_eq_false] at raised
      rcases List.exists_mem_of_ne_nil _ none with ⟨pair, member⟩
      rcases right.complete pair member with ⟨entry, logged, -⟩
      rw [cycleLog_raised raised] at logged
      cases logged
    rcases @cycleLog_diagnosed _ state _ _ quiet with ⟨start, -, all⟩
    have nodup := attempts_nodup distinct quiet
    have inside : ∀ pair ∈ ownPairs (attempts decoders settings cycle.calls),
        pair ∈ (cycleLog settings state decoders cycle).map Consideration.pair := by
      intro pair member
      rcases right.complete pair member with ⟨entry, logged, same⟩
      exact List.mem_map.mpr ⟨entry, logged, same⟩
    have last := (ownPairs_subset_zippedPairs_iff nodup).mp
      fun pair member => start.subset (inside pair member)
    refine ⟨quiet, last, all.mp ?_⟩
    have own : (ownPairs (attempts decoders settings cycle.calls)).Nodup :=
      List.Nodup.of_map Prod.snd ((map_snd_ownPairs_sublist _).nodup nodup)
    have most := (own.subperm inside).length_le
    have least := start.length_le
    rw [zippedPairs_eq_ownPairs last] at least ⊢
    rw [List.length_map] at most least
    exact Nat.le_antisymm least most

theorem cycleLog_of_undiagnosed
    (none : ownPairs (attempts decoders settings cycle.calls) = []) :
    cycleLog settings state decoders cycle = [] := by
  cases raised : raisesInBatch decoders settings cycle.calls with
  | true => exact cycleLog_raised raised
  | false =>
    have start := (@cycleLog_diagnosed _ state _ _ raised).1
    rw [zippedPairs, ← map_fst_ownPairs, none, List.map_nil, List.zip_nil_left,
      List.prefix_nil, List.map_eq_nil_iff] at start
    exact start

theorem pairsRightly_of_linesUp (lines : LinesUp settings state decoders cycle) :
    PairsRightly settings state decoders cycle := by
  rcases lines with none | ⟨quiet, last, calm⟩
  · constructor
    · intro entry logged
      rw [cycleLog_of_undiagnosed none] at logged
      cases logged
    · intro pair member
      rw [none] at member
      cases member
  · rcases @cycleLog_diagnosed _ state _ _ quiet with ⟨start, provenance, all⟩
    have whole := start.eq_of_length (by rw [List.length_map]; exact all.mpr calm)
    rw [zippedPairs_eq_ownPairs last] at whole
    constructor
    · intro entry logged change proposed
      have member : entry.pair ∈ ownPairs (attempts decoders settings cycle.calls) := by
        rw [← whole]
        exact List.mem_map.mpr ⟨entry, logged, rfl⟩
      have made : entry.diagnosis.issueId = entry.issue.id :=
        attemptsFrom_issueId 0 cycle.calls _ member
      rcases provenance entry logged change proposed with ⟨diagnosis, issue⟩
      exact ⟨diagnosis, issue.trans made.symm⟩
    · intro pair member
      rw [← whole] at member
      exact List.mem_map.mp member

end

/-- The pairs of a cycle are right exactly when they line up. -/
theorem pairsRightly_iff (settings : ObserverSettings) (state : ObserverState)
    (decoders : Decoders) (cycle : Cycle)
    (distinct : (cycle.calls.map fun call => call.issue.id).Nodup) :
    PairsRightly settings state decoders cycle ↔ LinesUp settings state decoders cycle :=
  ⟨linesUp_of_pairsRightly distinct, pairsRightly_of_linesUp⟩

/-- A reader of one answer, which asks for another tier. -/
def routingDecoders : Decoders where
  loads := fun _ => .ok (.obj
    [("root_cause", .str "weak model"), ("fix_type", .str "routing"),
     ("fix_description", .str "use the strong tier"), ("confidence", .num (9 / 10)),
     ("requires_prompt_rewrite", .bool false)])
  floatOfString := fun _ => none
  reprOf := fun _ => "None"

def routingAnswer : Json := .obj [("content", .str
    ("\x7b\"root_cause\": \"weak model\", \"fix_type\": \"routing\", " ++
      "\"fix_description\": \"use the strong tier\", \"confidence\": 0.9, " ++
        "\"requires_prompt_rewrite\": false\x7d")),
    ("cost_usd", .num (1 / 10))]

def twoIssueCycle (firstFails : Bool) : Cycle where
  calls :=
    [{ issue := { id := "iss_1", task := "classify", sampleCount := 50 }
       diagnosisId := "diag_1", answer := if firstFails then none else some routingAnswer },
     { issue := { id := "iss_2", task := "summarize", sampleCount := 50 }
       diagnosisId := "diag_2", answer := if firstFails then some routingAnswer else none }]
  surroundings := fun _ =>
    { changeId := "chg_1", now := 0
      replies := { metrics := .answered 200 (.obj []), routing := .answered 200 (.obj [])
                   execute := .answered 200 (.obj []), appliedAt := 0 } }

theorem pairsRightly_iff_secondFails :
    ((twoIssueCycle false).calls.map fun call => call.issue.id).Nodup ∧
      PairsRightly {} {} routingDecoders (twoIssueCycle false) := by
  have distinct : ((twoIssueCycle false).calls.map fun call => call.issue.id).Nodup := by
    decide
  have quiet : raisesInBatch routingDecoders {} (twoIssueCycle false).calls = false := by
    decide +kernel
  have last : FailuresLast (attempts routingDecoders {} (twoIssueCycle false).calls) := by
    decide +kernel
  have one : (offersOf (results (attempts routingDecoders {} (twoIssueCycle false).calls))
      (twoIssueCycle false)).dropLast.length = 0 := by
    decide +kernel
  refine ⟨distinct, (pairsRightly_iff {} {} routingDecoders _ distinct).mpr
    (.inr ⟨quiet, last, ?_⟩)⟩
  rw [List.eq_nil_of_length_eq_zero one]
  trivial

/-- The fix that was diagnosed for the second issue is proposed for the first. -/
theorem failed_diagnosis_shifts_pairs :
    ¬ PairsRightly {} {} routingDecoders (twoIssueCycle true) := by
  intro right
  have shifted : (cycleLog {} {} routingDecoders (twoIssueCycle true)).map (fun entry =>
      (entry.diagnosis.issueId, entry.proposed.map Change.issueId)) =
        [("iss_2", some "iss_1")] := by
    decide +kernel
  rcases List.map_eq_cons_iff.mp shifted with ⟨entry, rest, log, first, -⟩
  rw [Prod.mk.injEq, Option.map_eq_some_iff] at first
  rcases first with ⟨diagnosed, change, proposed, about⟩
  have own := (right.own entry (by rw [log]; exact .head _) change proposed).2
  rw [about, diagnosed] at own
  exact absurd own (by decide)

end Onpremai.Observer
