import Onpremai.Library.Dict
import Onpremai.Library.Text
import Mathlib.Data.Rat.Defs

/-!
# Evaluation decisions

The draft → approved lifecycle of evaluation results.  A decision is one JSON
document in Redis; `json.loads` gives back what `json.dumps` was given, so the
store holds the documents themselves.
-/

namespace Onpremai.MemoryService

open Library

inductive DecisionStatus where
  | draft
  | approved
  deriving DecidableEq

structure Override where
  id : String
  criterionId : String
  aiResult : String
  userResult : String
  reason : String
  overriddenBy : String
  overriddenAt : Rat
  deriving DecidableEq

structure Decision where
  evaluationId : String
  tenantId : String
  controlId : String
  framework : String
  aiScore : Rat
  aiStatus : String
  finalScore : Rat
  finalStatus : String
  status : DecisionStatus
  overrides : List Override
  approvedBy : Option String
  approvedAt : Option Rat
  notes : Option String
  createdAt : Rat
  updatedAt : Rat
  deriving DecidableEq

structure DecisionCreateBody where
  evaluationId : String
  tenantId : String
  controlId : String
  framework : String
  aiScore : Rat
  aiStatus : String

structure DecisionOverrideBody where
  evaluationId : String
  tenantId : String
  criterionId : String
  aiResult : String
  userResult : String
  reason : String
  overriddenBy : String
  deriving DecidableEq

structure DecisionApproveBody where
  evaluationId : String
  tenantId : String
  approvedBy : String
  notes : String := ""
  deriving DecidableEq

structure HTTPException where
  statusCode : Nat
  detail : String
  deriving DecidableEq

def decisionKey (tenantId evaluationId : String) : String :=
  "eval_decision:" ++ tenantId ++ ":" ++ evaluationId

def DecisionCreateBody.decision (body : DecisionCreateBody) (createdAt updatedAt : Rat) :
    Decision where
  evaluationId := body.evaluationId
  tenantId := body.tenantId
  controlId := body.controlId
  framework := body.framework
  aiScore := body.aiScore
  aiStatus := body.aiStatus
  finalScore := body.aiScore
  finalStatus := body.aiStatus
  status := .draft
  overrides := []
  approvedBy := none
  approvedAt := none
  notes := none
  createdAt := createdAt
  updatedAt := updatedAt

def DecisionOverrideBody.entry (body : DecisionOverrideBody) (id : String)
    (overriddenAt : Rat) : Override where
  id := id
  criterionId := body.criterionId
  aiResult := body.aiResult
  userResult := body.userResult
  reason := body.reason
  overriddenBy := body.overriddenBy
  overriddenAt := overriddenAt

/-- `not body.reason.strip()`. -/
def DecisionOverrideBody.lacksReason (body : DecisionOverrideBody) : Prop :=
  Text.strip body.reason = ""

instance (body : DecisionOverrideBody) : Decidable body.lacksReason :=
  inferInstanceAs (Decidable (_ = _))

def Decision.overridden (decision : Decision) (entry : Override) (updatedAt : Rat) : Decision :=
  { decision with overrides := decision.overrides ++ [entry], updatedAt := updatedAt }

def Decision.approve (decision : Decision) (body : DecisionApproveBody)
    (approvedAt updatedAt : Rat) : Decision :=
  { decision with
    status := .approved
    approvedBy := some body.approvedBy
    approvedAt := some approvedAt
    notes := some body.notes
    updatedAt := updatedAt }

abbrev Decisions := Dict String Decision

def createDecision (body : DecisionCreateBody) (createdAt updatedAt : Rat)
    (store : Decisions) : Decision × Decisions :=
  let decision := body.decision createdAt updatedAt
  (decision, store.set (decisionKey body.tenantId body.evaluationId) decision)

/-- The document a write endpoint edits. -/
def readDecision (tenantId evaluationId : String) (store : Decisions) :
    Except HTTPException Decision :=
  match store.get? (decisionKey tenantId evaluationId) with
  | none => .error ⟨404, "Decision not found"⟩
  | some decision => .ok decision

/-- `id` and the two times are what `uuid4` and the clock give during the request. -/
def overrideCriterion (body : DecisionOverrideBody) (id : String)
    (overriddenAt updatedAt : Rat) (store : Decisions) :
    Except HTTPException (Override × Decisions) := do
  if body.lacksReason then
    .error ⟨422, "Override reason is required"⟩
  let decision ← readDecision body.tenantId body.evaluationId store
  let entry := body.entry id overriddenAt
  return (entry, store.set (decisionKey body.tenantId body.evaluationId)
    (decision.overridden entry updatedAt))

def approveDecision (body : DecisionApproveBody) (approvedAt updatedAt : Rat)
    (store : Decisions) : Except HTTPException (Decision × Decisions) := do
  let decision ← readDecision body.tenantId body.evaluationId store
  let approved := decision.approve body approvedAt updatedAt
  return (approved, store.set (decisionKey body.tenantId body.evaluationId) approved)

end Onpremai.MemoryService
