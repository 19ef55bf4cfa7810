import Mathlib.Algebra.BigOperators.Group.Finset.Piecewise
import Mathlib.Algebra.Order.BigOperators.Group.Finset
import Onpremai.Gateway.Ledger
import Onpremai.Gateway.TierBounds

/-!
# Budget mark

A request is checked against the budget once, when it starts, and charged once,
when it ends.  Within a day a tenant can overshoot the mark of 95 percent only by
what its requests record that were under way when the mark was passed.
-/

namespace Onpremai.Gateway

open Onpremai.Library

/-- The spend from which on requests are turned away. -/
def mark (app : AppState) : Rat := 95 / 100 * app.config.cost.maxPerTenantPerDayUsd

namespace System

/-- Request number `index` is one of the tenant's and not answered yet. -/
def underWay (system : System) (tenantId : String) (index : Nat) : Bool :=
  match system.flights[index]? with
  | none => false
  | some flight => decide (flight.body.tenantId = tenantId) && !flight.isAnswered

def inFlight (system : System) (tenantId : String) : Finset Nat :=
  (Finset.range system.flights.length).filter fun index => system.underWay tenantId index

/-- What request number `index` has recorded today. -/
def recordedBy (system : System) (index : Nat) : Rat :=
  match system.flights[index]? with
  | none => 0
  | some flight => recordedOn system.shared.today flight.log

def NonnegCosts (system : System) : Prop :=
  ∀ flight ∈ system.flights, ∀ record ∈ records flight.log, 0 ≤ record.1

end System

section TurnedAway

variable {app : AppState}

def Untouched (log : List Event) : Prop := adapterCalls log = [] ∧ records log = []

theorem Untouched.append {log events : List Event} (untouched : Untouched log)
    (calls : adapterCalls events = []) (recorded : records events = []) :
    Untouched (log ++ events) := by
  constructor
  · rw [adapterCalls_append, untouched.1, calls, List.append_nil]
  · rw [records_append, untouched.2, recorded, List.append_nil]

def ReadPhase (app : AppState) (log : List Event) : Phase → Prop
  | .reading => spendsRead log = [] ∧ Untouched log
  | .deciding dailySpend => spendsRead log = [dailySpend] ∧ Untouched log
  | .enqueueing _ => Untouched log
  | .counting | .calling _ _ | .recording _ _ | .expiring _ _ _ =>
    ∀ dailySpend ∈ spendsRead log, dailySpend < mark app
  | .answered _ => Untouched log ∨ ∀ dailySpend ∈ spendsRead log, dailySpend < mark app

theorem readPhase_leaveLoop {log : List Event} (loop : LoopState)
    (less : ∀ dailySpend ∈ spendsRead log, dailySpend < mark app) :
    ReadPhase app log (leaveLoop loop).phase := by
  rw [leaveLoop]
  cases loop.best with
  | none => exact .inr less
  | some best => exact less

theorem readPhase_advances (positive : 0 < app.config.cost.maxPerTenantPerDayUsd)
    {body : CompletionRequest} {shared after : Shared} {phase : Phase} {turn : Turn}
    {log : List Event} (move : Advances app body shared phase turn after)
    (history : ReadPhase app log phase) :
    ReadPhase app (log ++ turn.events) turn.phase := by
  have silent : ∀ events, spendsRead events = [] →
      (∀ dailySpend ∈ spendsRead log, dailySpend < mark app) →
      ∀ dailySpend ∈ spendsRead (log ++ events), dailySpend < mark app := by
    intro events none less
    rw [spendsRead_append, none, List.append_nil]
    exact less
  cases move with
  | readRaised => exact .inl (history.2.append rfl rfl)
  | read =>
    refine ⟨?_, history.2.append rfl rfl⟩
    rw [spendsRead_append, history.1]
    rfl
  | turnedAway spent unserved =>
    rcases unserved with ⟨level, rfl⟩ | ⟨level, rfl⟩
    · exact history.2.append rfl rfl
    · exact .inl (history.2.append rfl rfl)
  | @admitted dailySpend left =>
    intro other member
    rw [List.append_nil, history.1, List.mem_singleton] at member
    rw [member]
    apply lt_of_not_ge
    intro most
    exact absurd ((deterministicOnly_le_computeLevel_iff positive).mpr most)
      (Nat.not_le_of_lt left)
  | queued unserved => exact .inl (history.append rfl rfl)
  | gaveUp => exact readPhase_leaveLoop _ (silent _ rfl history)
  | settled response => exact readPhase_leaveLoop _ (silent _ rfl history)
  | countRaised | recordRaised | expiryRaised | served =>
    exact .inr (silent _ rfl history)
  | stayed => simpa using history
  | started _ | passedOver | failed | movedOn _ | escalated _ _ _ | recorded =>
    exact silent _ rfl history

theorem untouched_of_read {log : List Event} {phase : Phase}
    (history : ReadPhase app log phase) {dailySpend : Rat}
    (read : dailySpend ∈ spendsRead log) (most : mark app ≤ dailySpend) : Untouched log := by
  have high : ¬ ∀ dailySpend ∈ spendsRead log, dailySpend < mark app :=
    fun less => absurd (less dailySpend read) (not_lt.mpr most)
  cases phase with
  | reading => exact history.2
  | deciding spend => exact history.2
  | enqueueing level => exact history
  | counting => exact absurd history high
  | calling loop pending => exact absurd history high
  | recording loop best => exact absurd history high
  | expiring loop best costUsd => exact absurd history high
  | answered answer =>
    rcases history with untouched | less
    · exact untouched
    · exact absurd less high

end TurnedAway

section Inert

variable {app : AppState}

/-- A request that records nothing any more, as long as the spend stays from a given
one on. -/
def Inert (app : AppState) (spend : Rat) : Phase → Prop
  | .reading => mark app ≤ spend
  | .deciding dailySpend => mark app ≤ dailySpend
  | .enqueueing _ | .answered _ => True
  | _ => False

theorem Inert.mono {spend more : Rat} (grows : spend ≤ more) {phase : Phase}
    (inert : Inert app spend phase) : Inert app more phase := by
  cases phase with
  | reading => exact le_trans inert grows
  | _ => exact inert

theorem inert_advances (positive : 0 < app.config.cost.maxPerTenantPerDayUsd)
    {body : CompletionRequest} {shared after : Shared} {phase : Phase} {turn : Turn}
    (move : Advances app body shared phase turn after)
    (inert : Inert app (shared.tracker.getDailySpend body.tenantId shared.today) phase) :
    records turn.events = [] ∧ ∀ spend, Inert app spend turn.phase := by
  cases move with
  | readRaised => exact ⟨rfl, fun _ => trivial⟩
  | read => exact ⟨rfl, fun _ => inert⟩
  | turnedAway spent unserved =>
    refine ⟨rfl, fun _ => ?_⟩
    rcases unserved with ⟨level, rfl⟩ | ⟨level, rfl⟩
    · exact trivial
    · exact trivial
  | admitted left =>
    exact absurd ((deterministicOnly_le_computeLevel_iff positive).mpr inert)
      (Nat.not_le_of_lt left)
  | queued unserved => exact ⟨rfl, fun _ => trivial⟩
  | stayed => exact ⟨rfl, fun _ => trivial⟩
  | _ => exact absurd inert id

end Inert

namespace System

variable {app : AppState} {system : System}

theorem getElem?_concat_cases {α : Type} {items : List α} {item found : α} {index : Nat}
    (place : (items ++ [item])[index]? = some found) :
    items[index]? = some found ∨ found = item := by
  rcases Nat.lt_or_ge index items.length with inside | outside
  · left
    rw [List.getElem?_append_left inside] at place
    exact place
  · right
    rw [List.getElem?_append_right outside] at place
    exact List.mem_singleton.mp (List.mem_of_getElem? place)

theorem recordedBy_arrive (body : CompletionRequest) (index : Nat) :
    (system.step app (.arrive body)).recordedBy index = system.recordedBy index := by
  simp only [recordedBy, step]
  rcases Nat.lt_trichotomy index system.flights.length with inside | last | outside
  · rw [List.getElem?_append_left inside]
  · rw [last, List.getElem?_concat_length, List.getElem?_eq_none (le_refl _)]
    rfl
  · rw [List.getElem?_eq_none (by simp; omega), List.getElem?_eq_none (Nat.le_of_lt outside)]

/-- What a move of a request shows. -/
def shown (app : AppState) (system : System) (flight : Flight) (outcome : Outcome) : List Event :=
  (advance app flight.body system.shared outcome flight.phase).1.events

theorem recordedBy_resume {resumed : Nat} {flight : Flight}
    (found : system.flights[resumed]? = some flight) (outcome : Outcome) (index : Nat) :
    (system.step app (.resume resumed outcome)).recordedBy index =
      system.recordedBy index + if index = resumed then
        recordedOn system.shared.today (shown app system flight outcome) else 0 := by
  have sameDay : Move.resume resumed outcome ≠ .newDay := by simp
  have today := (spend_step app system sameDay "").1
  rcases List.getElem?_eq_some_iff.mp found with ⟨inside, flightEq⟩
  rw [recordedBy, recordedBy, today, step_resume_of_some found]
  by_cases same : index = resumed
  · simp [same, inside, flightEq, Flight.resume, shown]
  · simp [same, Ne.symm same]

theorem spend_resume {resumed : Nat} {flight : Flight}
    (found : system.flights[resumed]? = some flight) (outcome : Outcome) (tenantId : String) :
    (system.step app (.resume resumed outcome)).spend tenantId =
      system.spend tenantId + if flight.body.tenantId = tenantId then
        recordedOn system.shared.today (shown app system flight outcome) else 0 := by
  have charges := charges_advances
    (advance_advances app flight.body system.shared outcome flight.phase)
  rw [step_resume_of_some found]
  simp only [spend, Flight.share, charges.today]
  exact charges.spend tenantId

/-- The spend of a tenant is made of what was there before and what a set of its
requests recorded, and its other requests record nothing any more. -/
structure ChargedBy (app : AppState) (tenantId : String) (indices : Finset Nat) (base : Rat)
    (system : System) : Prop where
  owned : ∀ index ∈ indices, ∃ flight, system.flights[index]? = some flight ∧
    flight.body.tenantId = tenantId
  spend : system.spend tenantId = base + ∑ index ∈ indices, system.recordedBy index
  inert : ∀ index flight, system.flights[index]? = some flight →
    flight.body.tenantId = tenantId → index ∉ indices →
      Inert app (system.spend tenantId) flight.phase

variable {tenantId : String} {indices : Finset Nat} {base : Rat}

theorem ChargedBy.arrive (charged : ChargedBy app tenantId indices base system)
    {body : CompletionRequest}
    (most : mark app ≤ (system.step app (.arrive body)).spend tenantId) :
    ChargedBy app tenantId indices base (system.step app (.arrive body)) where
  owned := by
    intro index member
    rcases charged.owned index member with ⟨flight, found, owner⟩
    refine ⟨flight, ?_, owner⟩
    exact List.getElem?_append_left (List.getElem?_eq_some_iff.mp found).1 ▸ found
  spend := by
    simp only [recordedBy_arrive]
    exact charged.spend
  inert := by
    intro index flight found owner outside
    rcases getElem?_concat_cases found with old | new
    · exact charged.inert index flight old owner outside
    · rw [new]
      exact most

theorem ChargedBy.resume (positive : 0 < app.config.cost.maxPerTenantPerDayUsd)
    (charged : ChargedBy app tenantId indices base system) {resumed : Nat} {outcome : Outcome}
    (grows : system.spend tenantId ≤ (system.step app (.resume resumed outcome)).spend tenantId) :
    ChargedBy app tenantId indices base (system.step app (.resume resumed outcome)) := by
  cases found : system.flights[resumed]? with
  | none =>
    rw [step_resume_of_none found]
    exact charged
  | some flight =>
    have move := advance_advances app flight.body system.shared outcome flight.phase
    -- outside the set, a request of the tenant records nothing and stays so
    have still : flight.body.tenantId = tenantId → resumed ∉ indices →
        records (shown app system flight outcome) = [] ∧
          ∀ spend, Inert app spend (flight.resume app system.shared outcome).phase := by
      intro owner outside
      apply inert_advances positive move
      rw [owner]
      exact charged.inert resumed flight found owner outside
    rcases List.getElem?_eq_some_iff.mp found with ⟨inside, flightEq⟩
    have place : (system.step app (.resume resumed outcome)).flights[resumed]? =
        some (flight.resume app system.shared outcome) := by
      rw [step_resume_of_some found]
      exact List.getElem?_set_self inside
    have elsewhere : ∀ index, index ≠ resumed →
        (system.step app (.resume resumed outcome)).flights[index]? =
          system.flights[index]? := by
      intro index other
      rw [step_resume_of_some found]
      exact List.getElem?_set_ne (Ne.symm other)
    refine ⟨?_, ?_, ?_⟩
    · intro index member
      rcases charged.owned index member with ⟨owned, ownedFound, owner⟩
      by_cases same : index = resumed
      · rw [same] at ownedFound ⊢
        rw [found, Option.some.injEq] at ownedFound
        rw [← ownedFound] at owner
        exact ⟨_, place, owner⟩
      · rw [elsewhere index same]
        exact ⟨owned, ownedFound, owner⟩
    · rw [spend_resume found, charged.spend]
      simp only [recordedBy_resume found, Finset.sum_add_distrib, Finset.sum_ite_eq']
      rw [add_assoc]
      congr 2
      by_cases member : resumed ∈ indices
      · rcases charged.owned resumed member with ⟨owned, ownedFound, owner⟩
        rw [found, Option.some.injEq] at ownedFound
        rw [← ownedFound] at owner
        rw [if_pos owner, if_pos member]
      · rw [if_neg member]
        by_cases owner : flight.body.tenantId = tenantId
        · rw [if_pos owner, recordedOn, (still owner member).1]
          rfl
        · rw [if_neg owner]
    · intro index other otherFound owner outside
      by_cases same : index = resumed
      · rw [same] at otherFound outside
        rw [place, Option.some.injEq] at otherFound
        rw [← otherFound] at owner ⊢
        exact (still owner outside).2 _
      · rw [elsewhere index same] at otherFound
        exact (charged.inert index other otherFound owner outside).mono grows

theorem ChargedBy.step (positive : 0 < app.config.cost.maxPerTenantPerDayUsd)
    (charged : ChargedBy app tenantId indices base system) {move : Move}
    (sameDay : move ≠ .newDay)
    (grows : system.spend tenantId ≤ (system.step app move).spend tenantId)
    (most : mark app ≤ (system.step app move).spend tenantId) :
    ChargedBy app tenantId indices base (system.step app move) := by
  cases move with
  | arrive body => exact charged.arrive most
  | resume resumed outcome => exact charged.resume positive grows
  | newDay => exact absurd rfl sameDay

theorem NonnegCosts.of_step {move : Move} (nonneg : NonnegCosts (system.step app move)) :
    NonnegCosts system := by
  intro flight member record recorded
  cases move with
  | arrive body => exact nonneg flight (List.mem_append_left _ member) record recorded
  | resume resumed outcome =>
    cases found : system.flights[resumed]? with
    | none =>
      rw [step_resume_of_none found] at nonneg
      exact nonneg flight member record recorded
    | some old =>
      rcases List.getElem?_of_mem member with ⟨index, place⟩
      rw [step_resume_of_some found] at nonneg
      rcases List.getElem?_eq_some_iff.mp found with ⟨inside, _⟩
      by_cases same : index = resumed
      · rw [same, found, Option.some.injEq] at place
        apply nonneg (flight.resume app system.shared outcome)
        · rw [← place]
          exact List.mem_of_getElem? (List.getElem?_set_self inside)
        · rw [Flight.resume, records_append]
          exact List.mem_append_left _ recorded
      · apply nonneg flight _ record recorded
        apply List.mem_of_getElem? (i := index)
        rw [List.getElem?_set_ne (Ne.symm same)]
        exact place
  | newDay => exact nonneg flight member record recorded

theorem NonnegCosts.of_run {moves : List Move}
    (nonneg : NonnegCosts (run (System.step app) system moves)) : NonnegCosts system := by
  induction moves generalizing system with
  | nil => exact nonneg
  | cons move rest ih => exact NonnegCosts.of_step (ih nonneg)

theorem spend_le_step {move : Move} (sameDay : move ≠ .newDay)
    (nonneg : NonnegCosts (system.step app move)) (tenantId : String) :
    system.spend tenantId ≤ (system.step app move).spend tenantId := by
  cases move with
  | arrive body => exact le_refl _
  | resume resumed outcome =>
    cases found : system.flights[resumed]? with
    | none => rw [step_resume_of_none found]
    | some flight =>
      rw [spend_resume found]
      apply le_add_of_nonneg_right
      split
      · apply List.sum_nonneg
        intro amount member
        rcases List.mem_map.mp member with ⟨record, recorded, rfl⟩
        split
        · rw [step_resume_of_some found] at nonneg
          rcases List.getElem?_eq_some_iff.mp found with ⟨inside, _⟩
          apply nonneg (flight.resume app system.shared outcome)
          · exact List.mem_of_getElem? (List.getElem?_set_self inside)
          · rw [Flight.resume, records_append]
            exact List.mem_append_right _ recorded
        · exact le_refl _
      · exact le_refl _
  | newDay => exact absurd rfl sameDay

theorem ChargedBy.run (positive : 0 < app.config.cost.maxPerTenantPerDayUsd)
    (charged : ChargedBy app tenantId indices base system)
    (most : mark app ≤ system.spend tenantId) {moves : List Move}
    (oneDay : ∀ move ∈ moves, move ≠ .newDay)
    (nonneg : NonnegCosts (run (System.step app) system moves)) :
    ChargedBy app tenantId indices base (run (System.step app) system moves) := by
  induction moves generalizing system with
  | nil => exact charged
  | cons move rest ih =>
    rw [List.forall_mem_cons] at oneDay
    have grows := spend_le_step oneDay.1 (NonnegCosts.of_run nonneg) tenantId
    have more := le_trans most grows
    exact ih (charged.step positive oneDay.1 grows more) more oneDay.2 nonneg

theorem mem_inFlight_iff {index : Nat} :
    index ∈ system.inFlight tenantId ↔ ∃ flight, system.flights[index]? = some flight ∧
      flight.body.tenantId = tenantId ∧ flight.isAnswered = false := by
  rw [inFlight, Finset.mem_filter, Finset.mem_range, underWay]
  cases found : system.flights[index]? with
  | none => simp
  | some flight =>
    have inside := (List.getElem?_eq_some_iff.mp found).1
    simp [inside]

theorem chargedBy_inFlight (app : AppState) (system : System) (tenantId : String) :
    ChargedBy app tenantId (system.inFlight tenantId)
      (system.spend tenantId -
        ∑ index ∈ system.inFlight tenantId, system.recordedBy index) system where
  owned := by
    intro index member
    rcases mem_inFlight_iff.mp member with ⟨flight, found, owner, _⟩
    exact ⟨flight, found, owner⟩
  spend := (sub_add_cancel _ _).symm
  inert := by
    intro index flight found owner outside
    have answered : flight.isAnswered = true := by
      by_contra going
      apply outside
      exact mem_inFlight_iff.mpr ⟨flight, found, owner, by simpa using going⟩
    rcases isAnswered_iff.mp answered with ⟨answer, phase⟩
    rw [phase]
    exact trivial

theorem NonnegCosts.recordedBy_nonneg (nonneg : NonnegCosts system) (index : Nat) :
    0 ≤ system.recordedBy index := by
  rw [recordedBy]
  cases found : system.flights[index]? with
  | none => exact le_refl _
  | some flight =>
    apply List.sum_nonneg
    intro amount member
    rcases List.mem_map.mp member with ⟨record, recorded, rfl⟩
    split
    · exact nonneg flight (List.mem_of_getElem? found) record recorded
    · exact le_refl _

theorem spend_le_of_crossing (positive : 0 < app.config.cost.maxPerTenantPerDayUsd)
    {move : Move} {later : List Move} (below : system.spend tenantId < mark app)
    (reached : mark app ≤ (system.step app move).spend tenantId)
    (oneDay : ∀ next ∈ move :: later, next ≠ .newDay)
    (nonneg : NonnegCosts (run (System.step app) system (move :: later))) :
    (run (System.step app) system (move :: later)).spend tenantId ≤
      mark app + ∑ index ∈ system.inFlight tenantId,
        (run (System.step app) system (move :: later)).recordedBy index := by
  rw [List.forall_mem_cons] at oneDay
  have before : NonnegCosts system := NonnegCosts.of_run nonneg
  have crossed : NonnegCosts (system.step app move) := by
    rw [run_cons] at nonneg
    exact NonnegCosts.of_run nonneg
  have first := (chargedBy_inFlight app system tenantId).step positive oneDay.1
    (spend_le_step oneDay.1 crossed tenantId) reached
  have last := first.run positive reached oneDay.2 nonneg
  have start : 0 ≤ ∑ index ∈ system.inFlight tenantId, system.recordedBy index :=
    Finset.sum_nonneg fun index _ => before.recordedBy_nonneg index
  rw [run_cons, last.spend]
  linarith

end System

/-- How far requests can overshoot the mark of 95 percent within a day. -/
theorem spend_within_mark (app : AppState)
    (positive : 0 < app.config.cost.maxPerTenantPerDayUsd) (shared : Shared)
    (moves : List Move) (oneDay : ∀ move ∈ moves, move ≠ .newDay)
    (nonneg : (run (System.step app) { shared } moves).NonnegCosts) (tenantId : String) :
    let state := fun earlier => run (System.step app) { shared } earlier
    -- a request that reads the mark or more reaches no adapter and records no cost
    (∀ flight ∈ (state moves).flights, ∀ dailySpend ∈ spendsRead flight.log,
      mark app ≤ dailySpend → adapterCalls flight.log = [] ∧ records flight.log = []) ∧
    -- above the mark from the start, the spend does not move
    (mark app ≤ (state []).spend tenantId →
      (state moves).spend tenantId = (state []).spend tenantId) ∧
    -- else it passes the mark with one move, and gains what was then in flight
    ((state []).spend tenantId < mark app → mark app ≤ (state moves).spend tenantId →
      ∃ earlier move later, moves = earlier ++ move :: later ∧
        (state earlier).spend tenantId < mark app ∧
        mark app ≤ (state (earlier ++ [move])).spend tenantId ∧
        (state moves).spend tenantId ≤ mark app +
          ∑ index ∈ (state earlier).inFlight tenantId, (state moves).recordedBy index) ∧
    -- which is the cost of one request when they run one after another
    ((state []).spend tenantId < mark app →
      (∀ earlier later, moves = earlier ++ later → ((state earlier).inFlight tenantId).card ≤ 1) →
      (state moves).spend tenantId ≤ mark app ∨
        ∃ index, (state moves).spend tenantId ≤ mark app + (state moves).recordedBy index) := by
  intro state
  have crossing : (state []).spend tenantId < mark app → mark app ≤ (state moves).spend tenantId →
      ∃ earlier move later, moves = earlier ++ move :: later ∧
        (state earlier).spend tenantId < mark app ∧
        mark app ≤ (state (earlier ++ [move])).spend tenantId ∧
        (state moves).spend tenantId ≤ mark app +
          ∑ index ∈ (state earlier).inFlight tenantId, (state moves).recordedBy index := by
    intro below reached
    rcases exists_crossing (System.step app)
      (fun system => mark app ≤ system.spend tenantId) (not_le.mpr below) reached with
      ⟨earlier, move, later, split, before, after⟩
    have whole : state moves = run (System.step app) (state earlier) (move :: later) := by
      rw [split]
      exact run_append _ _ _ _
    refine ⟨earlier, move, later, split, not_le.mp before, ?_, ?_⟩
    · rw [show state (earlier ++ [move]) = _ from run_concat _ _ _ _]
      exact after
    · rw [whole]
      apply System.spend_le_of_crossing positive (not_le.mp before) after
      · intro next member
        apply oneDay
        rw [split]
        exact List.mem_append_right _ member
      · change System.NonnegCosts (run (System.step app) (state earlier) (move :: later))
        rw [← whole]
        exact nonneg
  refine ⟨?_, ?_, crossing, ?_⟩
  · intro flight member dailySpend read most
    have history := System.flights_invariant app
      (fun _ phase log => ReadPhase app log phase)
      (fun _ => ⟨rfl, rfl, rfl⟩)
      (fun body shared phase turn after log move => readPhase_advances positive move)
      { shared } (by simp) moves flight member
    exact untouched_of_read history read most
  · intro most
    have start : System.ChargedBy app tenantId ∅ ((state []).spend tenantId) { shared } :=
      ⟨by simp, by simp [state], by simp⟩
    have last := start.run positive most oneDay nonneg
    simpa using last.spend
  · intro below alone
    by_cases reached : mark app ≤ (state moves).spend tenantId
    · rcases crossing below reached with ⟨earlier, move, later, split, _, _, bound⟩
      have few := alone earlier (move :: later) split
      rcases Nat.le_one_iff_eq_zero_or_eq_one.mp few with none | one
      · left
        rw [Finset.card_eq_zero.mp none, Finset.sum_empty, add_zero] at bound
        exact bound
      · right
        rcases Finset.card_eq_one.mp one with ⟨index, single⟩
        rw [single, Finset.sum_singleton] at bound
        exact ⟨index, bound⟩
    · exact .inl (le_of_lt (not_le.mp reached))

def tenDollarApp : AppState where
  config := {
    tiers := .ofList [("mid", [{ id := "sonnet" }])]
    cost := { maxPerTenantPerDayUsd := 10 } }
  registry := fun _ => some ⟨fun inputTokens outputTokens => (inputTokens + outputTokens) / 1000⟩
  loads := fun _ => none

/-- Two requests of six dollars that start together. -/
def twoTogether : List Move :=
  let response : NormalizedResponse := { content := some "access review", usage := ⟨5000, 1000⟩ }
  [.arrive { task := "classify", tenantId := "tenant-a" },
    .arrive { task := "classify", tenantId := "tenant-a" }, .resume 0 {}, .resume 1 {}] ++
    (List.replicate 3 [.resume 0 { response := some response },
      .resume 1 { response := some response }]).flatten ++ [.resume 0 {}, .resume 1 {}]

theorem spend_within_mark_twoTogether :
    ∃ earlier move later, twoTogether = earlier ++ move :: later ∧
      (run (System.step tenDollarApp) {} earlier).spend "tenant-a" < mark tenDollarApp ∧
      mark tenDollarApp ≤ (run (System.step tenDollarApp) {} (earlier ++ [move])).spend "tenant-a" ∧
      (run (System.step tenDollarApp) {} twoTogether).spend "tenant-a" ≤ mark tenDollarApp +
        ∑ index ∈ (run (System.step tenDollarApp) {} earlier).inFlight "tenant-a",
          (run (System.step tenDollarApp) {} twoTogether).recordedBy index := by
  have nonneg : (run (System.step tenDollarApp) {} twoTogether).NonnegCosts := by
    unfold System.NonnegCosts
    decide +kernel
  apply (spend_within_mark tenDollarApp (by norm_num [tenDollarApp]) {} twoTogether
    (by simp [twoTogether]) nonneg "tenant-a").2.2.1
  · decide +kernel
  · decide +kernel

end Onpremai.Gateway
