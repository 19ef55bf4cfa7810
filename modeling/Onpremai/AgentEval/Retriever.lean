import Onpremai.AgentEval.Tribunal

/-!
# Loading the testing criteria

Criteria come from the memory service, else from the bundled index, else from a
default list, so a run always has criteria.
-/

namespace Onpremai.AgentEval

open Onpremai.Library

/-- The bundled index: the criteria documents by framework and control. -/
structure RagIndex where
  loaded : Bool
  criteriaIndex : Dict String Json

/-- What loading asks of its surroundings. -/
structure RetrieverServices where
  skillRecall : Except PyError Json
  ragIndex : RagIndex
  validateCriteria : Json → Option TestingCriteria

def RagIndex.getTestingCriteria (index : RagIndex) (framework controlId : String) : Option Json :=
  let key := Text.lower framework ++ ":" ++ Text.upper controlId
  match index.criteriaIndex.get? key with
  | some chunk => some chunk
  | none =>
    (index.criteriaIndex.entries.find? fun entry =>
      decide (Text.lower entry.1 = Text.lower key)).map Prod.snd

def loadFromMemory (services : RetrieverServices) : Option TestingCriteria :=
  match services.skillRecall with
  | .ok (.arr (skillData :: _)) =>
    match getField skillData "skill_data" skillData with
    | .ok data => services.validateCriteria data
    | .error _ => none
  | _ => none

def loadFromRag (services : RetrieverServices) (framework controlId : String) :
    Option TestingCriteria :=
  if services.ragIndex.loaded then
    match services.ragIndex.getTestingCriteria framework controlId with
    | none => none
    | some chunk => services.validateCriteria chunk
  else none

def generateDefaultCriteria (framework controlId : String) : TestingCriteria where
  controlId := controlId
  framework := framework
  criteria :=
    [{ id := "TC-" ++ controlId ++ "-01"
       category := "policy"
       question := "Is there a documented policy for this control?"
       evidenceType := "document"
       passCondition := "Policy document exists, is current (within 12 months), and covers the control objective"
       failCondition := "No policy document, or document is expired or does not cover the control"
       weight := 20 / 100
       checkType := some "file_existence" },
     { id := "TC-" ++ controlId ++ "-02"
       category := "procedure"
       question := "Is there a documented procedure for implementing this control?"
       evidenceType := "document"
       passCondition := "Procedure document exists and describes implementation steps"
       failCondition := "No procedure documentation found"
       weight := 15 / 100
       checkType := some "file_existence" },
     { id := "TC-" ++ controlId ++ "-03"
       category := "implementation"
       question := "Is there evidence that the control is operating?"
       evidenceType := "structured_data"
       passCondition := "Records exist showing control activity during the audit period"
       failCondition := "No operational records found"
       weight := 30 / 100
       checkType := some "row_count" },
     { id := "TC-" ++ controlId ++ "-04"
       category := "implementation"
       question := "Are control records complete and populated?"
       evidenceType := "structured_data"
       passCondition := "Key columns are populated with >= 95% completeness"
       failCondition := "Key columns have significant null/empty values"
       weight := 20 / 100
       checkType := some "null_rate" },
     { id := "TC-" ++ controlId ++ "-05"
       category := "monitoring"
       question := "Is the control being monitored for effectiveness?"
       evidenceType := "unstructured"
       passCondition := "Monitoring evidence shows ongoing oversight of control effectiveness"
       failCondition := "No monitoring or review evidence found"
       weight := 15 / 100 }]

def loadTestingCriteria (services : RetrieverServices) (framework controlId : String) :
    TestingCriteria :=
  match loadFromMemory services with
  | some criteria => criteria
  | none =>
    match loadFromRag services framework controlId with
    | some criteria => criteria
    | none => generateDefaultCriteria framework controlId

def loadTestingCriteriaNode (services : RetrieverServices) (state : EvalGraphState) :
    EvalGraphState :=
  { testingCriteria := some (some
      (loadTestingCriteria services (state.framework.getD "") (state.controlId.getD ""))) }

end Onpremai.AgentEval
