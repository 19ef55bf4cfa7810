import Onpremai.Assistant.Interleaving

/-!
# Orderly moves keep the system coherent

Every part of coherence is kept by the move of a request.  The last save of a clearing
is the case apart: it is the only move after which a used confirmation has no request
left to clear it.
-/

namespace Onpremai.Assistant

open Onpremai.Library

open SessionManager

section Resume

variable {settings : Settings} {system : System} {index : Nat} {flight : Flight}
  {outcome : Outcome}

theorem turn_moves (settings : Settings) (system : System) (flight : Flight)
    (outcome : Outcome) :
    Moves flight.request system.process outcome flight.phase
      (system.turn settings flight outcome) :=
  advance_moves settings flight.request system.process outcome flight.phase

theorem getElem?_resume (found : system.flights[index]? = some flight) {other : Nat}
    {resumed : Flight}
    (after : (system.step settings (.resume index outcome)).flights[other]? = some resumed) :
    (other = index ∧
      resumed = { flight with phase := (system.turn settings flight outcome).phase }) ∨
      (other ≠ index ∧ system.flights[other]? = some resumed) := by
  rw [System.step_resume_of_some found] at after
  by_cases same : other = index
  · left
    refine ⟨same, ?_⟩
    have inside := (List.getElem?_eq_some_iff.mp found).1
    rw [same, List.getElem?_set_self inside] at after
    exact (Option.some.inj after).symm
  · right
    rw [List.getElem?_set_ne (Ne.symm same)] at after
    exact ⟨same, after⟩

/-- The request that moved is among the requests after the move. -/
theorem mem_resume (found : system.flights[index]? = some flight) :
    { flight with phase := (system.turn settings flight outcome).phase } ∈
      (system.step settings (.resume index outcome)).flights := by
  rw [System.step_resume_of_some found]
  exact List.mem_set (List.getElem?_eq_some_iff.mp found).1 _

/-- The other requests are still among the requests. -/
theorem mem_resume_other (found : system.flights[index]? = some flight) {other : Nat}
    {rival : Flight} (place : system.flights[other]? = some rival) (apart : other ≠ index) :
    rival ∈ (system.step settings (.resume index outcome)).flights := by
  rw [System.step_resume_of_some found]
  apply List.mem_of_getElem?
  rw [List.getElem?_set_ne (Ne.symm apart)]
  exact place

theorem log_resume (found : system.flights[index]? = some flight) :
    (system.step settings (.resume index outcome)).log =
      system.log ++ (system.turn settings flight outcome).event.toList := by
  rw [System.step_resume_of_some found]

theorem process_resume (found : system.flights[index]? = some flight) :
    (system.step settings (.resume index outcome)).process =
      (system.turn settings flight outcome).process := by
  rw [System.step_resume_of_some found]

theorem Coherent.backed_loaded (coherent : Coherent system) (request : Request)
    (outcome : Outcome) :
    Backed system.log system.flights request.sessionId
      ((loadedProcess request system.process outcome).sessions.read
        (loadedSession request system.process outcome)) :=
  (grows_getOrCreate (backed_kind system.log system.flights) coherent.sessions
    request.sessionId request.user outcome.recalled).2.2

theorem Coherent.issued_of_takesUp (coherent : Coherent system)
    {pending : PendingConfirmation}
    (taken : takesUp? flight.request system.process outcome = some pending) :
    ∃ owner, .issued flight.request.sessionId pending owner ∈ system.log :=
  (coherent.backed_loaded flight.request outcome).issued pending (loadedPending_of_takesUp taken)

theorem Coherent.not_usedUp_of_takesUp (coherent : Coherent system)
    (orderly : Orderly system (.resume index outcome))
    (found : system.flights[index]? = some flight) (loading : flight.phase.isLoading = true)
    {pending : PendingConfirmation}
    (taken : takesUp? flight.request system.process outcome = some pending) :
    ¬ UsedUp system.log pending.confirmationId := by
  intro used
  have backed := coherent.backed_loaded flight.request outcome
  rcases backed.clearing pending (loadedPending_of_takesUp taken) used with
    ⟨rival, member, session, clearing⟩
  rcases List.mem_iff_getElem?.mp member with ⟨other, place⟩
  have apart : other ≠ index := by
    rintro rfl
    rw [found] at place
    cases place
    cases phase : flight.phase with
    | loading =>
      rw [phase] at clearing
      cases clearing
    | _ =>
      rw [phase] at loading
      cases loading
  have quiet := ((orderly flight found).1 loading).1 rival
    (System.mem_rivals.mpr ⟨⟨other, apart, place⟩, session⟩)
  rw [clearing] at quiet
  cases quiet

theorem Coherent.idle_of_rival (coherent : Coherent system)
    (orderly : Orderly system (.resume index outcome))
    (found : system.flights[index]? = some flight) {other : Nat} {rival : Flight}
    (place : system.flights[other]? = some rival) (apart : other ≠ index)
    (session : rival.request.sessionId = flight.request.sessionId)
    (clearing : rival.phase.clears? ≠ none) :
    (system.turn settings flight outcome).process = system.process ∧
      (system.turn settings flight outcome).phase.session? = none := by
  apply advance_idle
  · exact coherent.exclusive other rival place clearing flight
      (System.mem_rivals.mpr ⟨⟨index, apart.symm, found⟩, session.symm⟩)
  · by_contra loading
    rw [Bool.not_eq_false] at loading
    have quiet := ((orderly flight found).1 loading).1 rival
      (System.mem_rivals.mpr ⟨⟨other, apart, place⟩, session⟩)
    exact clearing (Option.isNone_iff_eq_none.mp quiet)

theorem Coherent.read_of_rival (coherent : Coherent system)
    (orderly : Orderly system (.resume index outcome))
    (found : system.flights[index]? = some flight) {other : Nat} {rival : Flight}
    (place : system.flights[other]? = some rival) (apart : other ≠ index)
    (clearing : rival.phase.clears? ≠ none) {session : SessionRef}
    (held : rival.phase.session? = some session) :
    (system.turn settings flight outcome).process.sessions.read session =
      system.process.sessions.read session := by
  by_cases same : rival.request.sessionId = flight.request.sessionId
  · rw [(coherent.idle_of_rival orderly found place apart same clearing).1]
  · have valid := (coherent.holds rival (List.mem_of_getElem? place)).session session held
    have own : ∀ sessionId state, Backed system.log system.flights sessionId state →
        state.sessionId = sessionId := fun _ _ backed => backed.own
    have keeps := keeps_advance owned_kind settings flight.request outcome
      (coherent.sessions.mono own)
      ((coherent.holds flight (List.mem_of_getElem? found)).mono own)
      fun _ _ _ _ owned => owned
    rw [← valid.2.own] at same
    exact (keeps.grows.frame session valid.1 same).2

theorem Coherent.backed_resume (coherent : Coherent system) (settings : Settings)
    (outcome : Outcome) (found : system.flights[index]? = some flight)
    (lasting : flight.phase.finishes? = none) :
    ∀ sessionId state, Backed system.log system.flights sessionId state →
      Backed (system.step settings (.resume index outcome)).log
        (system.step settings (.resume index outcome)).flights sessionId state := by
  intro sessionId state backed
  have moves := turn_moves settings system flight outcome
  refine ⟨backed.own, ?_, ?_⟩
  · intro pending held
    rcases backed.issued pending held with ⟨owner, issued⟩
    refine ⟨owner, ?_⟩
    rw [log_resume found]
    exact List.mem_append_left _ issued
  · intro pending held used
    rw [log_resume found, usedUp_append, usedUp_toList] at used
    rcases used with old | new
    · rcases backed.clearing pending held old with ⟨clearer, member, session, clearing⟩
      rcases List.mem_iff_getElem?.mp member with ⟨other, place⟩
      by_cases same : other = index
      · rw [same, found] at place
        rw [← Option.some.inj place] at session clearing
        exact ⟨_, mem_resume found, session, moves.clears?_of_lasting lasting clearing⟩
      · exact ⟨clearer, mem_resume_other found place same, session, clearing⟩
    · rcases moves.usesUp new with ⟨loading, taken, isTaken, same, clearing⟩
      rcases coherent.issued_of_takesUp isTaken with ⟨owner, issued⟩
      rcases backed.issued pending held with ⟨other, otherIssued⟩
      have equal := coherent.unique _ _ _ issued _ _ _ otherIssued same
      refine ⟨_, mem_resume found, equal.1, ?_⟩
      rw [← equal.2]
      exact clearing

theorem Coherent.keeps_resume (coherent : Coherent system) (settings : Settings)
    (outcome : Outcome) (found : system.flights[index]? = some flight)
    (lasting : flight.phase.finishes? = none) :
    Keeps (Backed (system.step settings (.resume index outcome)).log
      (system.step settings (.resume index outcome)).flights) flight.request.sessionId
      system.process (system.turn settings flight outcome) := by
  have backed := coherent.backed_resume settings outcome found lasting
  apply keeps_advance (backed_kind _ _) settings flight.request outcome
    (coherent.sessions.mono backed)
    ((coherent.holds flight (List.mem_of_getElem? found)).mono backed)
  intro pending owner shown state held
  have fresh := ((turn_moves settings system flight outcome).issued shown).1
  refine ⟨held.own, ?_, ?_⟩
  · intro other same
    rw [← Option.some.inj same, log_resume found]
    refine ⟨owner, List.mem_append_right _ ?_⟩
    rw [System.turn, shown]
    exact List.mem_singleton_self _
  · intro other same used
    rw [← Option.some.inj same, log_resume found, usedUp_append, usedUp_toList, System.turn,
      shown] at used
    rcases used with old | new
    · rcases coherent.usedIssued _ old with ⟨sessionId, earlier, earlierOwner, issued, equal⟩
      have drawn := coherent.drawn _ _ _ issued
      rw [equal, fresh] at drawn
      exact absurd drawn (Nat.lt_irrefl _)
    · cases new

section Finish

variable {pending : PendingConfirmation}

theorem backed_finish (settings : Settings) (outcome : Outcome)
    (found : system.flights[index]? = some flight)
    (last : flight.phase.finishes? = some pending) :
    ∀ sessionId state, Backed system.log system.flights sessionId state →
      (sessionId = flight.request.sessionId → state.pendingConfirmation ≠ some pending) →
        Backed (system.step settings (.resume index outcome)).log
          (system.step settings (.resume index outcome)).flights sessionId state := by
  intro sessionId state backed without
  rcases (turn_moves settings system flight outcome).saved_of_finishes last with
    ⟨session, snapshot, next, saving, quiet, saved, answers⟩
  have sameLog : (system.step settings (.resume index outcome)).log = system.log := by
    rw [log_resume found, quiet, Option.toList_none, List.append_nil]
  rw [sameLog]
  refine ⟨backed.own, backed.issued, ?_⟩
  intro other held used
  rcases backed.clearing other held used with ⟨clearer, member, session, clearing⟩
  rcases List.mem_iff_getElem?.mp member with ⟨place, placed⟩
  by_cases same : place = index
  · rw [same, found] at placed
    rw [← Option.some.inj placed] at session clearing
    rw [Phase.clears?_of_finishes? last] at clearing
    rw [← clearing] at held
    exact absurd held (without session.symm)
  · exact ⟨clearer, mem_resume_other found placed same, session, clearing⟩

theorem Coherent.sessions_finish (coherent : Coherent system) (settings : Settings)
    (orderly : Orderly system (.resume index outcome))
    (found : system.flights[index]? = some flight)
    (last : flight.phase.finishes? = some pending) :
    All (Backed (system.step settings (.resume index outcome)).log
      (system.step settings (.resume index outcome)).flights)
      (system.step settings (.resume index outcome)).process.sessions := by
  have member := List.mem_of_getElem? found
  have holds := coherent.holds flight member
  have noCopy := (orderly flight found).2 pending last
  have backed := backed_finish settings outcome found last
  rcases (turn_moves settings system flight outcome).saved_of_finishes last with
    ⟨session, snapshot, next, saving, quiet, saved, answers⟩
  have clearing : flight.phase.clears? ≠ none := by
    rw [Phase.clears?_of_finishes? last]
    nofun
  have cleared := coherent.cleared flight member clearing session snapshot next saving
  have valid := holds.session session (by rw [saving]; rfl)
  have sent := holds.snapshot snapshot (by rw [saving]; rfl)
  have kept := coherent.sessions.finishSave (backed_kind _ _).own valid sent outcome.applied
    outcome.acknowledged
  rw [process_resume found, saved]
  constructor
  · intro sessionId state stored
    apply backed sessionId state (kept.stored sessionId state stored)
    rintro rfl held
    rw [← sent.own, stored_finishSave] at stored
    split at stored
    · rw [← Option.some.inj stored, cleared.sent] at held
      cases held
    · next unapplied =>
      rw [sent.own] at stored
      apply noCopy.1 (by simpa using unapplied) state stored
      rw [SessionState.pendingId, held]
      rfl
  · intro sessionId ref cached
    have inside := kept.cached sessionId ref cached
    refine ⟨inside.1, backed sessionId _ inside.2 ?_⟩
    rintro rfl held
    rw [← valid.2.own, cached_finishSave] at cached
    split at cached
    · next acknowledged =>
      rw [valid.2.own] at cached
      apply noCopy.2 acknowledged ref cached
      rw [SessionState.pendingId]
      rw [read_finishSave] at held
      rw [held]
      rfl
    · rw [← Option.some.inj cached, read_finishSave, cleared.object] at held
      cases held

end Finish

theorem Coherent.sessions_resume (coherent : Coherent system) (settings : Settings)
    (orderly : Orderly system (.resume index outcome))
    (found : system.flights[index]? = some flight) :
    All (Backed (system.step settings (.resume index outcome)).log
      (system.step settings (.resume index outcome)).flights)
      (system.step settings (.resume index outcome)).process.sessions := by
  cases last : flight.phase.finishes? with
  | none =>
    rw [process_resume found]
    exact (coherent.keeps_resume settings outcome found last).grows.all
  | some pending => exact coherent.sessions_finish settings orderly found last

theorem Coherent.holds_resume (coherent : Coherent system) (settings : Settings)
    (outcome : Outcome) (found : system.flights[index]? = some flight) :
    ∀ resumed ∈ (system.step settings (.resume index outcome)).flights,
      Holds (Backed (system.step settings (.resume index outcome)).log
        (system.step settings (.resume index outcome)).flights)
        (system.step settings (.resume index outcome)).process resumed.request.sessionId
        resumed.phase := by
  intro resumed member
  rcases List.mem_iff_getElem?.mp member with ⟨other, after⟩
  rw [process_resume found]
  cases last : flight.phase.finishes? with
  | none =>
    have keeps := coherent.keeps_resume settings outcome found last
    rcases getElem?_resume found after with ⟨_, rfl⟩ | ⟨_, place⟩
    · exact keeps.holds
    · apply keeps.grows.holds
      exact (coherent.holds resumed (List.mem_of_getElem? place)).mono
        (coherent.backed_resume settings outcome found last)
  | some pending =>
    have backed := backed_finish settings outcome found last
    have clearing : flight.phase.clears? ≠ none := by
      rw [Phase.clears?_of_finishes? last]
      nofun
    rcases (turn_moves settings system flight outcome).saved_of_finishes last with
      ⟨session, snapshot, next, saving, quiet, saved, answers⟩
    have cleared := coherent.cleared flight (List.mem_of_getElem? found) clearing session
      snapshot next saving
    -- whoever is in the session now holds nothing
    have idle : resumed.request.sessionId = flight.request.sessionId →
        resumed.phase.session? = none := by
      intro same
      rcases getElem?_resume found after with ⟨_, rfl⟩ | ⟨apart, place⟩
      · exact answers cleared.object
      · exact coherent.exclusive index flight found clearing resumed
          (System.mem_rivals.mpr ⟨⟨other, apart, place⟩, same⟩)
    by_cases same : resumed.request.sessionId = flight.request.sessionId
    · constructor
      · intro ref held
        rw [idle same] at held
        cases held
      · intro state sent
        rw [Phase.snapshot?_of_session? (idle same)] at sent
        cases sent
    · rcases getElem?_resume found after with ⟨_, rfl⟩ | ⟨apart, place⟩
      · exact absurd rfl same
      · have holds := coherent.holds resumed (List.mem_of_getElem? place)
        rw [saved]
        constructor
        · intro ref held
          have valid := holds.session ref held
          exact ⟨valid.1, backed _ _ valid.2 fun own => absurd own same⟩
        · intro state sent
          exact backed _ _ (holds.snapshot state sent) fun own => absurd own same

theorem Coherent.exclusive_resume (coherent : Coherent system) (settings : Settings)
    (orderly : Orderly system (.resume index outcome))
    (found : system.flights[index]? = some flight) :
    ∀ other resumed, (system.step settings (.resume index outcome)).flights[other]? =
      some resumed → resumed.phase.clears? ≠ none →
        ∀ rival ∈ (system.step settings (.resume index outcome)).rivals other
          resumed.request.sessionId, rival.phase.session? = none := by
  intro other resumed after clearing rival among
  rcases System.mem_rivals.mp among with ⟨⟨place, apart, rivalAfter⟩, session⟩
  rcases getElem?_resume found after with ⟨rfl, rfl⟩ | ⟨otherApart, before⟩
  · -- the request that moved clears: its rivals have not moved
    rcases getElem?_resume found rivalAfter with ⟨rfl, _⟩ | ⟨_, rivalBefore⟩
    · exact absurd rfl apart
    · have rivalAmong := System.mem_rivals.mpr ⟨⟨place, apart, rivalBefore⟩, session⟩
      rcases (turn_moves settings system flight outcome).clears?_of_turn clearing with
        old | ⟨loading, taken⟩
      · exact coherent.exclusive other flight found old rival rivalAmong
      · rcases Option.ne_none_iff_exists'.mp taken with ⟨pending, isTaken⟩
        exact (((orderly flight found).1 loading).2 pending isTaken).1 rival rivalAmong
  · rcases getElem?_resume found rivalAfter with ⟨rfl, rfl⟩ | ⟨_, rivalBefore⟩
    · exact (coherent.idle_of_rival orderly found before otherApart session.symm clearing).2
    · exact coherent.exclusive other resumed before clearing rival
        (System.mem_rivals.mpr ⟨⟨place, apart, rivalBefore⟩, session⟩)

theorem Coherent.cleared_resume (coherent : Coherent system) (settings : Settings)
    (orderly : Orderly system (.resume index outcome))
    (found : system.flights[index]? = some flight) :
    ∀ resumed ∈ (system.step settings (.resume index outcome)).flights,
      resumed.phase.clears? ≠ none → ∀ session snapshot next,
        resumed.phase = .saving session snapshot next →
          SentCleared (system.step settings (.resume index outcome)).process session
            snapshot := by
  intro resumed member clearing session snapshot next saving
  rcases List.mem_iff_getElem?.mp member with ⟨other, after⟩
  rw [process_resume found]
  rcases getElem?_resume found after with ⟨rfl, rfl⟩ | ⟨apart, place⟩
  · exact (turn_moves settings system flight outcome).sentCleared
      (coherent.cleared flight (List.mem_of_getElem? found)) clearing saving
  · have old := coherent.cleared resumed (List.mem_of_getElem? place) clearing session
      snapshot next saving
    refine ⟨?_, old.sent⟩
    rw [coherent.read_of_rival orderly found place apart clearing (by rw [saving]; rfl)]
    exact old.object

theorem Coherent.unique_resume (coherent : Coherent system) (settings : Settings)
    (outcome : Outcome) (found : system.flights[index]? = some flight) :
    ∀ sessionId pending owner, .issued sessionId pending owner ∈
        (system.step settings (.resume index outcome)).log →
      ∀ otherId other otherOwner, .issued otherId other otherOwner ∈
          (system.step settings (.resume index outcome)).log →
        pending.confirmationId = other.confirmationId →
          sessionId = otherId ∧ pending = other := by
  intro sessionId pending owner issued otherId other otherOwner otherIssued same
  have moves := turn_moves settings system flight outcome
  rw [log_resume found, List.mem_append, Option.mem_toList] at issued otherIssued
  rcases issued with old | new
  · rcases otherIssued with otherOld | otherNew
    · exact coherent.unique _ _ _ old _ _ _ otherOld same
    · have drawn := coherent.drawn _ _ _ old
      rw [same, (moves.issued otherNew).1] at drawn
      exact absurd drawn (Nat.lt_irrefl _)
  · rcases otherIssued with otherOld | otherNew
    · have drawn := coherent.drawn _ _ _ otherOld
      rw [← same, (moves.issued new).1] at drawn
      exact absurd drawn (Nat.lt_irrefl _)
    · rw [new] at otherNew
      cases otherNew
      exact ⟨rfl, rfl⟩

theorem Coherent.drawn_resume (coherent : Coherent system) (settings : Settings)
    (outcome : Outcome) (found : system.flights[index]? = some flight) :
    ∀ sessionId pending owner, .issued sessionId pending owner ∈
        (system.step settings (.resume index outcome)).log →
        pending.confirmationId <
          (system.step settings (.resume index outcome)).process.nextId := by
  intro sessionId pending owner issued
  have moves := turn_moves settings system flight outcome
  rw [log_resume found, List.mem_append, Option.mem_toList] at issued
  rw [process_resume found]
  rcases issued with old | new
  · exact Nat.lt_of_lt_of_le (coherent.drawn _ _ _ old) moves.nextId_le
  · have fresh := moves.issued new
    rw [fresh.1, fresh.2]
    exact Nat.lt_succ_self _

theorem Coherent.usedIssued_resume (coherent : Coherent system) (settings : Settings)
    (outcome : Outcome) (found : system.flights[index]? = some flight) :
    ∀ confirmationId, UsedUp (system.step settings (.resume index outcome)).log confirmationId →
        ∃ sessionId pending owner, .issued sessionId pending owner ∈
            (system.step settings (.resume index outcome)).log ∧
          pending.confirmationId = confirmationId := by
  intro confirmationId used
  rw [log_resume found, usedUp_append, usedUp_toList] at used
  rw [log_resume found]
  rcases used with old | new
  · rcases coherent.usedIssued _ old with ⟨sessionId, pending, owner, issued, same⟩
    exact ⟨sessionId, pending, owner, List.mem_append_left _ issued, same⟩
  · rcases (turn_moves settings system flight outcome).usesUp new with
      ⟨loading, pending, taken, same, clearing⟩
    rcases coherent.issued_of_takesUp taken with ⟨owner, issued⟩
    exact ⟨_, pending, owner, List.mem_append_left _ issued, same⟩

theorem Coherent.lawful_resume (coherent : Coherent system) (settings : Settings)
    (orderly : Orderly system (.resume index outcome))
    (found : system.flights[index]? = some flight) :
    Lawful (system.step settings (.resume index outcome)).log := by
  rw [log_resume found]
  apply coherent.lawful.append
  intro confirmationId toolName params user shown
  rcases (turn_moves settings system flight outcome).executed shown with
    ⟨loading, pending, taken, asked, rfl, rfl, rfl, rfl⟩
  rcases coherent.issued_of_takesUp taken with ⟨owner, issued⟩
  have unused := coherent.not_usedUp_of_takesUp orderly found loading taken
  have addressed := (((orderly flight found).1 loading).2 pending taken).2 asked _ issued
    (pending, owner) rfl rfl
  constructor
  · exact ⟨flight.request, coherent.requested flight (List.mem_of_getElem? found), asked, rfl⟩
  · exact ⟨_, pending, owner, issued, rfl, rfl, rfl, addressed⟩
  · intro otherTool otherParams other executed
    exact unused ⟨_, executed, rfl⟩
  · intro cancelled
    exact unused ⟨_, cancelled, rfl⟩

theorem Coherent.resume (coherent : Coherent system) (settings : Settings)
    (orderly : Orderly system (.resume index outcome))
    (found : system.flights[index]? = some flight) :
    Coherent (system.step settings (.resume index outcome)) where
  sessions := coherent.sessions_resume settings orderly found
  holds := coherent.holds_resume settings outcome found
  drawn := coherent.drawn_resume settings outcome found
  unique := coherent.unique_resume settings outcome found
  usedIssued := coherent.usedIssued_resume settings outcome found
  exclusive := coherent.exclusive_resume settings orderly found
  cleared := coherent.cleared_resume settings orderly found
  requested := by
    intro resumed member
    rcases List.mem_iff_getElem?.mp member with ⟨other, after⟩
    rw [log_resume found]
    apply List.mem_append_left
    rcases getElem?_resume found after with ⟨_, rfl⟩ | ⟨_, place⟩
    · exact coherent.requested flight (List.mem_of_getElem? found)
    · exact coherent.requested resumed (List.mem_of_getElem? place)
  lawful := coherent.lawful_resume settings orderly found

end Resume

section Arrive

variable {system : System}

theorem getElem?_arrive {settings : Settings} {request : Request} {index : Nat}
    {flight : Flight}
    (after : (system.step settings (.arrive request)).flights[index]? = some flight) :
    flight = { request := request } ∨ system.flights[index]? = some flight := by
  change (system.flights ++ [({ request := request } : Flight)])[index]? = some flight at after
  rw [List.getElem?_append] at after
  split at after
  · exact .inr after
  · exact .inl (List.mem_singleton.mp (List.mem_of_getElem? after))

theorem Coherent.arrive (coherent : Coherent system) (settings : Settings) (request : Request) :
    Coherent (system.step settings (.arrive request)) := by
  have logged : ∀ {event}, event ∈ system.log →
      event ∈ (system.step settings (.arrive request)).log :=
    fun member => List.mem_append_left _ member
  have issuedBefore : ∀ {sessionId pending owner},
      .issued sessionId pending owner ∈ (system.step settings (.arrive request)).log →
        .issued sessionId pending owner ∈ system.log := by
    intro sessionId pending owner issued
    rcases List.mem_append.mp issued with old | new
    · exact old
    · cases List.mem_singleton.mp new
  have usedBefore : ∀ {confirmationId},
      UsedUp (system.step settings (.arrive request)).log confirmationId →
        UsedUp system.log confirmationId := by
    rintro confirmationId ⟨event, member, used⟩
    rcases List.mem_append.mp member with old | new
    · exact ⟨event, old, used⟩
    · rw [List.mem_singleton.mp new] at used
      cases used
  have backed : ∀ sessionId state, Backed system.log system.flights sessionId state →
      Backed (system.step settings (.arrive request)).log
        (system.step settings (.arrive request)).flights sessionId state := by
    intro sessionId state backed
    refine ⟨backed.own, ?_, ?_⟩
    · intro pending held
      rcases backed.issued pending held with ⟨owner, issued⟩
      exact ⟨owner, logged issued⟩
    · intro pending held used
      rcases backed.clearing pending held (usedBefore used) with ⟨clearer, member, clearing⟩
      exact ⟨clearer, List.mem_append_left _ member, clearing⟩
  constructor
  · exact coherent.sessions.mono backed
  · intro flight member
    rcases List.mem_append.mp member with old | new
    · exact (coherent.holds flight old).mono backed
    · rw [List.mem_singleton.mp new]
      exact ⟨nofun, nofun⟩
  · exact fun _ _ _ issued => coherent.drawn _ _ _ (issuedBefore issued)
  · intro _ _ _ issued _ _ _ otherIssued
    exact coherent.unique _ _ _ (issuedBefore issued) _ _ _ (issuedBefore otherIssued)
  · intro confirmationId used
    rcases coherent.usedIssued _ (usedBefore used) with ⟨sessionId, pending, owner, issued, same⟩
    exact ⟨sessionId, pending, owner, logged issued, same⟩
  · intro index flight found clearing rival among
    rcases System.mem_rivals.mp among with ⟨⟨other, apart, rivalFound⟩, session⟩
    rcases getElem?_arrive rivalFound with rfl | rivalOld
    · rfl
    · rcases getElem?_arrive found with rfl | old
      · exact absurd rfl clearing
      · exact coherent.exclusive index flight old clearing rival
          (System.mem_rivals.mpr ⟨⟨other, apart, rivalOld⟩, session⟩)
  · intro flight member clearing
    rcases List.mem_append.mp member with old | new
    · exact coherent.cleared flight old clearing
    · rw [List.mem_singleton.mp new] at clearing
      exact absurd rfl clearing
  · intro flight member
    rcases List.mem_append.mp member with old | new
    · exact logged (coherent.requested flight old)
    · rw [List.mem_singleton.mp new]
      exact List.mem_append_right _ (List.mem_singleton_self _)
  · have unexecuted : ∀ confirmationId toolName params user, some (Event.requested request) =
            some (Event.executed confirmationId toolName params user) →
          Justified system.log confirmationId toolName params user := by
      intro confirmationId toolName params user same
      cases same
    exact coherent.lawful.append unexecuted

end Arrive

theorem Coherent.step {system : System} (coherent : Coherent system) (settings : Settings)
    {move : Move} (orderly : Orderly system move) : Coherent (system.step settings move) := by
  cases move with
  | arrive request => exact coherent.arrive settings request
  | resume index outcome =>
    cases found : system.flights[index]? with
    | none =>
      rw [System.step_resume_of_none found]
      exact coherent
    | some flight => exact coherent.resume settings orderly found

/-!
## Confirmed executions

What the runs of the assistant do with confirmations.
-/

/-- In every run of orderly moves, a tool is executed as confirmed only on a confirm
request of the user of the tenant that the confirmation was issued to, with the tool and
the parameters it was issued for, at most once, and never after it was cancelled. -/
theorem lawful_of_orderly (settings : Settings) (moves : List Move)
    (orderly : Allowed (System.step settings) Orderly {} moves) :
    Lawful (run (System.step settings) {} moves).log := by
  have coherent := run_allowed (System.step settings) Coherent
    (fun _ _ orderly coherent => coherent.step settings orderly) orderly coherent_empty
  exact coherent.lawful

def deletionIssued : List Move := [.arrive
      { sessionId := "s1", user := { tenantId := "t1", userId := "u1" },
        action := .chat "Delete the policy." },
    .resume 0 {},
    .resume 0 {},
    .resume 0 { llm := .toolCalls { name := "delete_policy", arguments := .null } [] },
    .resume 0 { tool := .confirmationRequired none },
    .resume 0 {},
    .resume 0 {}]

def deletionConfirmed : Request where
  sessionId := "s1"
  user := { tenantId := "t1", userId := "u1" }
  action := .confirm 0

theorem lawful_of_orderly_confirmed :
    let moves := deletionIssued ++
      [.arrive deletionConfirmed, .resume 1 {}, .resume 1 {}, .resume 1 {}]
    .executed 0 "delete_policy" .null deletionConfirmed.user ∈ (run (System.step {}) {} moves).log ∧
      Lawful (run (System.step {}) {} moves).log := by
  constructor
  · change _ ∈ [Event.requested _, .issued _ _ _, .requested _, .executed _ _ _ _]
    simp
  · exact lawful_of_orderly {} _ (by decide)

/-- Two confirms that are in flight together both find the confirmation pending: the
first clears it only after its tool has run. -/
theorem executed_twice_when_in_flight : ¬ Lawful (run (System.step {}) {} (deletionIssued ++
      [.arrive deletionConfirmed, .arrive deletionConfirmed, .resume 1 {}, .resume 2 {}])).log := by
  intro lawful
  have second := lawful
    [.requested
        { sessionId := "s1", user := deletionConfirmed.user,
          action := .chat "Delete the policy." },
      .issued "s1" ⟨0, "delete_policy", "Confirm execution of delete_policy", .null⟩
        deletionConfirmed.user,
      .requested deletionConfirmed,
      .requested deletionConfirmed,
      .executed 0 "delete_policy" .null deletionConfirmed.user]
    0 "delete_policy" .null deletionConfirmed.user [] rfl
  apply second.first "delete_policy" .null deletionConfirmed.user
  simp

end Onpremai.Assistant
