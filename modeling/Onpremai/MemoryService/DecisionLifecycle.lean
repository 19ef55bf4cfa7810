import Onpremai.MemoryService.Decisions
import Onpremai.Library.Except
import Onpremai.Library.Machine

/-!
# The lifecycle of a decision

None of the write endpoints looks at the status of the document it writes, so an
approved decision stays as it is exactly as long as no request is aimed at it.
-/

namespace Onpremai.MemoryService

open Library

/-- A write request, with the id and the times its handler draws. -/
inductive DecisionRequest where
  | create (body : DecisionCreateBody) (createdAt updatedAt : Rat)
  | override (body : DecisionOverrideBody) (id : String) (overriddenAt updatedAt : Rat)
  | approve (body : DecisionApproveBody) (approvedAt updatedAt : Rat)

/-- The documents after a request; a refused request writes nothing. -/
def serve (store : Decisions) : DecisionRequest → Decisions
  | .create body createdAt updatedAt => (createDecision body createdAt updatedAt store).2
  | .override body id overriddenAt updatedAt =>
    match overrideCriterion body id overriddenAt updatedAt store with
    | .ok (_, written) => written
    | .error _ => store
  | .approve body approvedAt updatedAt =>
    match approveDecision body approvedAt updatedAt store with
    | .ok (_, written) => written
    | .error _ => store

theorem serve_override (store : Decisions) (body : DecisionOverrideBody) (id : String)
    (overriddenAt updatedAt : Rat) :
    serve store (.override body id overriddenAt updatedAt) =
      if body.lacksReason then store
      else (store.get? (decisionKey body.tenantId body.evaluationId)).elim store
        fun decision => store.set (decisionKey body.tenantId body.evaluationId)
          (decision.overridden (body.entry id overriddenAt) updatedAt) := by
  rw [serve, overrideCriterion, readDecision]
  by_cases lacks : body.lacksReason
  · simp [lacks, bind, Except.bind]
  · simp only [lacks, if_false, bind, Except.bind]
    cases store.get? (decisionKey body.tenantId body.evaluationId) <;> rfl

theorem serve_approve (store : Decisions) (body : DecisionApproveBody)
    (approvedAt updatedAt : Rat) :
    serve store (.approve body approvedAt updatedAt) =
      (store.get? (decisionKey body.tenantId body.evaluationId)).elim store
        fun decision => store.set (decisionKey body.tenantId body.evaluationId)
          (decision.approve body approvedAt updatedAt) := by
  rw [serve, approveDecision, readDecision]
  cases store.get? (decisionKey body.tenantId body.evaluationId) <;> rfl

/-- The part of an approved decision that is final. -/
structure SameApproval (decision later : Decision) : Prop where
  status : later.status = .approved
  overrides : later.overrides = decision.overrides
  approvedBy : later.approvedBy = decision.approvedBy
  approvedAt : later.approvedAt = decision.approvedAt
  finalStatus : later.finalStatus = decision.finalStatus

def Final (first second : Decisions) : Prop :=
  ∀ key decision, first.get? key = some decision → decision.status = .approved →
    ∃ later, second.get? key = some later ∧ SameApproval decision later

theorem final_refl (store : Decisions) : Final store store := by
  intro key decision found approved
  exact ⟨decision, found, approved, rfl, rfl, rfl, rfl⟩

theorem final_trans (first second third : Decisions) (earlier : Final first second)
    (later : Final second third) : Final first third := by
  intro key decision found approved
  rcases earlier key decision found approved with ⟨middle, middleFound, same⟩
  rcases later key middle middleFound same.status with ⟨last, lastFound, again⟩
  refine ⟨last, lastFound, again.status, ?_, ?_, ?_, ?_⟩
  · rw [again.overrides, same.overrides]
  · rw [again.approvedBy, same.approvedBy]
  · rw [again.approvedAt, same.approvedAt]
  · rw [again.finalStatus, same.finalStatus]

theorem final_set_iff (store : Decisions) (key : String) (written : Decision) :
    Final store (store.set key written) ↔ ∀ decision ∈ store.get? key, decision.status = .approved →
        SameApproval decision written := by
  constructor
  · intro final decision found approved
    rcases final key decision found approved with ⟨later, laterFound, same⟩
    rw [Dict.get?_set, if_pos rfl, Option.some.injEq] at laterFound
    rwa [laterFound]
  · intro same other decision found approved
    rw [Dict.get?_set]
    split
    · next here =>
      subst here
      exact ⟨written, rfl, same decision found approved⟩
    · exact ⟨decision, found, approved, rfl, rfl, rfl, rfl⟩

def LeavesApproved (store : Decisions) : DecisionRequest → Prop
  | .create body _ _ =>
    ∀ decision ∈ store.get? (decisionKey body.tenantId body.evaluationId),
      decision.status ≠ .approved
  | .override body _ _ _ =>
    body.lacksReason ∨ ∀ decision ∈ store.get? (decisionKey body.tenantId body.evaluationId),
        decision.status ≠ .approved
  | .approve body approvedAt _ =>
    ∀ decision ∈ store.get? (decisionKey body.tenantId body.evaluationId),
      decision.status = .approved →
        decision.approvedBy = some body.approvedBy ∧ decision.approvedAt = some approvedAt

theorem final_serve_iff (store : Decisions) (request : DecisionRequest) :
    Final store (serve store request) ↔ LeavesApproved store request := by
  cases request with
  | create body createdAt updatedAt =>
    rw [serve, createDecision, final_set_iff]
    constructor
    · intro same decision found approved
      cases (same decision found approved).status
    · intro away decision found approved
      exact absurd approved (away decision found)
  | override body id overriddenAt updatedAt =>
    rw [serve_override, LeavesApproved]
    split
    · next lacks => exact iff_of_true (final_refl store) (Or.inl lacks)
    · next hasReason =>
      simp only [hasReason, false_or]
      cases found : store.get? (decisionKey body.tenantId body.evaluationId) with
      | none => exact iff_of_true (final_refl store) (by simp)
      | some decision =>
        simp only [Option.elim_some, final_set_iff, found, Option.mem_def,
          Option.some.injEq, forall_eq']
        constructor
        · intro same approved
          have grown := (same approved).overrides
          simp [Decision.overridden] at grown
        · intro away approved
          exact absurd approved away
  | approve body approvedAt updatedAt =>
    rw [serve_approve, LeavesApproved]
    cases found : store.get? (decisionKey body.tenantId body.evaluationId) with
    | none => exact iff_of_true (final_refl store) (by simp)
    | some decision =>
      simp only [Option.elim_some, final_set_iff, found, Option.mem_def,
        Option.some.injEq, forall_eq']
      constructor
      · intro same approved
        exact ⟨(same approved).approvedBy.symm, (same approved).approvedAt.symm⟩
      · intro again approved
        rcases again approved with ⟨approver, time⟩
        exact ⟨rfl, rfl, approver.symm, time.symm, rfl⟩

/-- Approvals are final throughout a history exactly when its requests leave the
approved decisions alone. -/
theorem approvals_final_iff (start : Decisions) (requests : List DecisionRequest) :
    (∀ earlier middle later, requests = earlier ++ middle ++ later →
      Final (run serve start earlier) (run serve start (earlier ++ middle))) ↔
        Allowed serve LeavesApproved start requests := by
  rw [passed_related_iff serve final_refl final_trans]
  apply allowed_iff serve fun _ => True
  · exact fun _ _ _ => trivial
  · intro store request _
    exact final_serve_iff store request
  · trivial

def accessReview : DecisionCreateBody where
  evaluationId := "eval-001"
  tenantId := "tenant-alpha"
  controlId := "CC6.1"
  framework := "SOC2"
  aiScore := 87 / 100
  aiStatus := "compliant"

def accessApproval : DecisionApproveBody where
  evaluationId := "eval-001"
  tenantId := "tenant-alpha"
  approvedBy := "sarah"

/-- A second creation for an approved evaluation puts its decision back to draft. -/
theorem create_reopens_approved : ¬ ∀ earlier middle later,
      [DecisionRequest.create accessReview 1 1, .approve accessApproval 2 2,
        .create accessReview 3 3] = earlier ++ middle ++ later →
          Final (run serve Dict.empty earlier) (run serve Dict.empty (earlier ++ middle)) := by
  intro final
  rcases final [.create accessReview 1 1, .approve accessApproval 2 2]
    [.create accessReview 3 3] [] rfl "eval_decision:tenant-alpha:eval-001" _ rfl rfl with
    ⟨later, found, same⟩
  have status := same.status
  rw [← Option.some.inj found] at status
  cases status

end Onpremai.MemoryService
