import Onpremai.MemoryService.DecisionLifecycle

/-!
# Concurrent overrides and approvals

An override or approve request reads the document with one Redis command and
writes the edited document back with another.  Commands of other requests fall
between the two.
-/

namespace Onpremai.MemoryService

open Library

/-- A request aimed at one decision record. -/
inductive RecordRequest where
  | override (body : DecisionOverrideBody)
  | approve (body : DecisionApproveBody)
  deriving DecidableEq

/-- What a request does to the document that it read. -/
inductive Edit where
  | override (entry : Override) (updatedAt : Rat)
  | approve (body : DecisionApproveBody) (approvedAt updatedAt : Rat)
  deriving DecidableEq

/-- The edit of a request; the id and the times are drawn after the read. -/
def RecordRequest.edit (id : String) (madeAt updatedAt : Rat) : RecordRequest → Edit
  | .override body => .override (body.entry id madeAt) updatedAt
  | .approve body => .approve body madeAt updatedAt

def Edit.apply (decision : Decision) : Edit → Decision
  | .override entry updatedAt => decision.overridden entry updatedAt
  | .approve body approvedAt updatedAt => decision.approve body approvedAt updatedAt

/-- The document shows the edit. -/
def Edit.ShownIn (decision : Decision) : Edit → Prop
  | .override entry _ => entry ∈ decision.overrides
  | .approve body approvedAt _ =>
    decision.status = .approved ∧ decision.approvedBy = some body.approvedBy ∧
      decision.approvedAt = some approvedAt ∧ decision.notes = some body.notes

instance (decision : Decision) : ∀ edit : Edit, Decidable (edit.ShownIn decision)
  | .override entry _ => inferInstanceAs (Decidable (entry ∈ decision.overrides))
  | .approve _ _ _ => inferInstanceAs (Decidable (_ ∧ _ ∧ _ ∧ _))

/-- The record, the requests between their two commands with the document that each
of them read, and the edits whose callers were told `ok`. -/
structure RecordState where
  record : Option Decision
  inFlight : List (RecordRequest × Decision) := []
  acknowledged : List Edit := []

/-- A Redis command of some request. -/
inductive RecordCommand where
  /-- The `GET` of a request that just arrived. -/
  | get (request : RecordRequest)
  /-- The `SET` of a request in flight, and what it drew. -/
  | set (index : Nat) (id : String) (madeAt updatedAt : Rat)

def RecordRequest.Refused : RecordRequest → Prop
  | .override body => body.lacksReason
  | .approve _ => False

instance : ∀ request : RecordRequest, Decidable request.Refused
  | .override body => inferInstanceAs (Decidable body.lacksReason)
  | .approve _ => inferInstanceAs (Decidable False)

namespace RecordState

def step (state : RecordState) : RecordCommand → RecordState
  | .get request =>
    if request.Refused then state
    else match state.record with
      | none => state
      | some decision => { state with inFlight := state.inFlight ++ [(request, decision)] }
  | .set index id madeAt updatedAt =>
    match state.inFlight[index]? with
    | none => state
    | some (request, read) =>
      let edit := request.edit id madeAt updatedAt
      { record := some (edit.apply read)
        inFlight := state.inFlight.eraseIdx index
        acknowledged := state.acknowledged ++ [edit] }

def AllShown (state : RecordState) : Prop :=
  ∀ edit ∈ state.acknowledged, ∃ decision, state.record = some decision ∧ edit.ShownIn decision

end RecordState

theorem edit_shown_after (edit : Edit) (decision : Decision) :
    edit.ShownIn (edit.apply decision) := by
  cases edit with
  | override entry updatedAt => simp [Edit.ShownIn, Edit.apply, Decision.overridden]
  | approve body approvedAt updatedAt => exact ⟨rfl, rfl, rfl, rfl⟩

def Edit.isApproval : Edit → Bool
  | .override _ _ => false
  | .approve _ _ _ => true

theorem shown_apply {earlier edit : Edit} {decision : Decision}
    (shown : earlier.ShownIn decision)
    (apart : edit.isApproval → earlier.isApproval = false) :
    earlier.ShownIn (edit.apply decision) := by
  cases edit with
  | override entry updatedAt =>
    cases earlier with
    | override other _ => exact List.mem_append_left _ shown
    | approve body approvedAt _ => exact shown
  | approve body approvedAt updatedAt =>
    cases earlier with
    | override other _ => exact shown
    | approve other _ _ => cases apart rfl

namespace RecordRequest

def key : RecordRequest → String
  | .override body => decisionKey body.tenantId body.evaluationId
  | .approve body => decisionKey body.tenantId body.evaluationId

def served (id : String) (madeAt updatedAt : Rat) : RecordRequest → DecisionRequest
  | .override body => .override body id madeAt updatedAt
  | .approve body => .approve body madeAt updatedAt

end RecordRequest

namespace RecordState

/-- A `SET` writes over the document that its own `GET` read, and an approval does not
replace an acknowledged one. -/
def Orderly (state : RecordState) : RecordCommand → Prop
  | .get _ => True
  | .set index id madeAt updatedAt =>
    ∀ request read, state.inFlight[index]? = some (request, read) → state.record = some read ∧
        ((request.edit id madeAt updatedAt).isApproval →
          ∀ edit ∈ state.acknowledged, edit.isApproval = false)

theorem allShown_step {state : RecordState} {command : RecordCommand}
    (orderly : Orderly state command) (all : AllShown state) :
    AllShown (step state command) := by
  cases command with
  | get request =>
    rw [step]
    split
    · exact all
    · split <;> exact all
  | set index id madeAt updatedAt =>
    rw [step]
    split
    · exact all
    · next request read found =>
      rcases orderly request read found with ⟨unchanged, approvals⟩
      intro edit member
      rcases List.mem_append.mp member with old | new
      · rcases all edit old with ⟨decision, current, shown⟩
        rw [unchanged, Option.some.injEq] at current
        subst current
        exact ⟨_, rfl, shown_apply shown fun approval => approvals approval edit old⟩
      · rw [List.mem_singleton] at new
        rw [new]
        exact ⟨_, rfl, edit_shown_after _ read⟩

/-- In a run of orderly commands no acknowledged edit is lost. -/
theorem acknowledged_shown (record : Option Decision) (commands : List RecordCommand)
    (orderly : Allowed step Orderly ⟨record, [], []⟩ commands)
    (earlier later : List RecordCommand) (reached : commands = earlier ++ later) :
    AllShown (run step ⟨record, [], []⟩ earlier) := by
  rw [reached, allowed_append] at orderly
  apply run_allowed step AllShown _ orderly.1
  · exact fun _ member => absurd member List.not_mem_nil
  · intro state command
    exact allShown_step

def criterionOverride (criterionId overriddenBy : String) : DecisionOverrideBody where
  evaluationId := "eval-001"
  tenantId := "tenant-alpha"
  criterionId := criterionId
  aiResult := "FAIL"
  userResult := "PASS"
  reason := "Reviewed manually"
  overriddenBy := overriddenBy

def draftDecision : Decision :=
  DecisionCreateBody.decision ⟨"eval-001", "tenant-alpha", "CC6.1", "SOC2", 1 / 2, "partial"⟩ 1 1

theorem acknowledged_shown_in_turn : AllShown (run step ⟨some draftDecision, [], []⟩
      [.get (.override (criterionOverride "TC-04" "sarah")), .set 0 "a" 2 2,
        .get (.override (criterionOverride "TC-06" "omar")), .set 0 "b" 3 3]) := by
  apply acknowledged_shown (some draftDecision) _ _ _ [] (List.append_nil _).symm
  refine ⟨trivial, ?_, trivial, ?_, trivial⟩
  all_goals
    rintro request read ⟨⟩
    exact ⟨rfl, fun approval => by cases approval⟩

/-- Two overrides that both read the draft: the second write drops the first override. -/
theorem concurrent_override_lost : ¬ AllShown (run step ⟨some draftDecision, [], []⟩
      [.get (.override (criterionOverride "TC-04" "sarah")),
        .get (.override (criterionOverride "TC-06" "omar")),
        .set 0 "a" 2 2, .set 0 "b" 3 3]) := by
  intro all
  rcases all (.override ((criterionOverride "TC-04" "sarah").entry "a" 2) 2)
    (List.mem_cons_self ..) with ⟨decision, current, shown⟩
  rw [← Option.some.inj current] at shown
  revert shown
  decide

/-- What a `SET` drew is new: the record does not show it yet. -/
def Fresh (state : RecordState) : RecordCommand → Prop
  | .get _ => True
  | .set index id madeAt updatedAt =>
    ∀ request read, state.inFlight[index]? = some (request, read) →
      ∀ decision ∈ state.record, ¬ (request.edit id madeAt updatedAt).ShownIn decision

def StaleMisses (state : RecordState) : Prop :=
  ∀ flight ∈ state.inFlight, state.record = some flight.2 ∨
    ∃ edit ∈ state.acknowledged, ¬ edit.ShownIn flight.2

end RecordState

end Onpremai.MemoryService
