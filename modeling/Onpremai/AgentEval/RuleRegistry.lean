import Mathlib.Algebra.BigOperators.Group.List.Basic
import Onpremai.AgentEval.ContentRules
import Onpremai.AgentEval.PresenceRules
import Onpremai.Library.Orderings

/-!
# The registry of the rules

Which rule a check type stands for, the verdict of a rule on some evidence, and the rules
whose verdict no order of the evidence changes: those that look at all files before they
decide.
-/

namespace Onpremai.AgentEval

open Onpremai.Library

def ruleHandlers (services : RuleServices) : RuleHandlers
  | "file_existence" => some (checkFileExistence services)
  | "freshness" => some (checkFreshness services)
  | "schema_presence" => some fun criterion metadata _ =>
    checkSchemaPresence services criterion metadata
  | "row_count" => some fun criterion metadata _ => checkRowCount services criterion metadata
  | "null_rate" => some fun criterion metadata _ => checkNullRate services criterion metadata
  | "cross_reference" => some fun criterion metadata _ =>
    checkCrossReference services criterion metadata
  | "quantitative" => some fun criterion metadata _ =>
    checkQuantitative services criterion metadata
  | "keyword_presence" => some fun criterion metadata _ =>
    checkKeywordPresence services criterion metadata
  | _ => none

def checkTypeOf (criterion : Criterion) : Option String :=
  truthy? criterion.checkType <|> inferCheckType criterion

def layer1Verdict (services : RuleServices) (criterion : Criterion)
    (evidenceMetadata : List EvidenceMetadata) (evidenceFiles : List EvidenceFile) :
    CriterionResultEnum :=
  (evaluateCriterionWithRules (ruleHandlers services) criterion evidenceMetadata
    evidenceFiles).result

def ruleVerdict : Except RaisedException CriterionResult → CriterionResultEnum
  | .ok result => result.result
  | .error _ => .needsJudgment

def SameVerdict (first second : CriterionResult) : Prop := first.result = second.result

theorem ruleVerdict_eq {first second : Except RaisedException CriterionResult}
    (alike : Alike SameVerdict first second) : ruleVerdict first = ruleVerdict second := by
  cases alike with
  | raised exn other => rfl
  | returned same => exact same

section

variable {services : RuleServices} {criterion : Criterion}
  {evidenceMetadata metadataOrder : List EvidenceMetadata}
  {evidenceFiles filesOrder : List EvidenceFile}

theorem layer1Verdict_of_handler {checkType : String} {handler : RuleHandler}
    (resolved : checkTypeOf criterion = some checkType)
    (registered : ruleHandlers services checkType = some handler) :
    layer1Verdict services criterion evidenceMetadata evidenceFiles =
      ruleVerdict (handler criterion evidenceMetadata evidenceFiles) := by
  rw [checkTypeOf] at resolved
  rw [layer1Verdict, evaluateCriterionWithRules, resolved]
  simp only [dispatchRule, registered]
  cases handler criterion evidenceMetadata evidenceFiles with
  | error exn => rfl
  | ok result => rfl

theorem layer1Verdict_unregistered {checkType : String}
    (resolved : checkTypeOf criterion = some checkType)
    (unregistered : ruleHandlers services checkType = none) :
    layer1Verdict services criterion evidenceMetadata evidenceFiles = .needsJudgment := by
  rw [checkTypeOf] at resolved
  rw [layer1Verdict, evaluateCriterionWithRules, resolved]
  simp only [dispatchRule, unregistered]
  rfl

theorem layer1Verdict_unresolved (unresolved : checkTypeOf criterion = none) :
    layer1Verdict services criterion evidenceMetadata evidenceFiles = .needsJudgment := by
  rw [checkTypeOf] at unresolved
  rw [layer1Verdict, evaluateCriterionWithRules, unresolved]
  rfl

theorem matchingFiles_perm {types : List String} {namePattern : Json}
    {files order : List (String × String)} (perm : order.Perm files) :
    Alike List.Perm (matchingFiles services types namePattern order)
      (matchingFiles services types namePattern files) :=
  (filterM_perm perm).bind fun _ _ kept => .returned (kept.map Prod.snd)

theorem existenceResult_perm {expectedType : String} {namePattern : Json}
    {matching found : List String} (perm : matching.Perm found) :
    SameVerdict (existenceResult services criterion expectedType namePattern matching)
      (existenceResult services criterion expectedType namePattern found) := by
  simp only [SameVerdict, existenceResult, ← List.length_eq_zero_iff, perm.length_eq]
  split
  · rfl
  · rfl

theorem checkFileExistence_perm (metadataPerm : metadataOrder.Perm evidenceMetadata)
    (filesPerm : filesOrder.Perm evidenceFiles) :
    Alike SameVerdict (checkFileExistence services criterion metadataOrder filesOrder)
      (checkFileExistence services criterion evidenceMetadata evidenceFiles) := by
  apply (matchingFiles_perm (metadataPerm.map _)).bind
  intro described others describedPerm
  have matched : ∀ types namePattern, Alike List.Perm
        (if described = [] then
          matchingFiles services types namePattern
            (filesOrder.map fun file => (file.fileType, file.storageKey))
        else .ok described)
        (if others = [] then
          matchingFiles services types namePattern
            (evidenceFiles.map fun file => (file.fileType, file.storageKey))
        else .ok others) := by
    intro types namePattern
    simp only [← List.length_eq_zero_iff, describedPerm.length_eq]
    split
    · exact matchingFiles_perm (filesPerm.map _)
    · exact .returned describedPerm
  exact (matched _ _).bind fun _ _ matchingPerm => .returned (existenceResult_perm matchingPerm)

theorem addFresh_eq_nil {threshold : Timestamp} {fresh : List String}
    {metadata : List EvidenceMetadata} :
    addFresh threshold fresh metadata = [] ↔
      fresh = [] ∧ ∀ file ∈ metadata, file.extractedAt < threshold := by
  rw [addFresh]
  induction metadata generalizing fresh with
  | nil => simp
  | cons file rest ih =>
    rw [List.foldl_cons, ih, List.forall_mem_cons]
    by_cases added : threshold ≤ file.extractedAt ∧ file.storageKey ∉ fresh
    · simp [added]
    · rw [if_neg added]
      constructor
      · rintro ⟨rfl, old⟩
        exact ⟨rfl, by simpa using added, old⟩
      · rintro ⟨rfl, -, old⟩
        exact ⟨rfl, old⟩

theorem freshnessResult_eq {maxAgeDays : Json} {fresh otherFresh stale otherStale : List String}
    (sameFresh : fresh = [] ↔ otherFresh = []) (sameStale : stale = [] ↔ otherStale = []) :
    SameVerdict (freshnessResult services criterion maxAgeDays fresh stale)
      (freshnessResult services criterion maxAgeDays otherFresh otherStale) := by
  simp only [SameVerdict, freshnessResult, sameFresh, sameStale]
  split
  · rfl
  · split
    · rfl
    · split
      · rfl
      · rfl

theorem checkFreshness_perm (metadataPerm : metadataOrder.Perm evidenceMetadata)
    (filesPerm : filesOrder.Perm evidenceFiles) :
    Alike SameVerdict (checkFreshness services criterion metadataOrder filesOrder)
      (checkFreshness services criterion evidenceMetadata evidenceFiles) := by
  apply alike_bind
  intro maxAgeDays
  cases maxAgeDays with
  | none => exact .returned rfl
  | some days =>
    apply alike_bind
    intro threshold
    have nil_iff : ∀ keep : EvidenceFile → Bool,
        (filesOrder.filter keep).map EvidenceFile.storageKey = [] ↔
          (evidenceFiles.filter keep).map EvidenceFile.storageKey = [] := by
      intro keep
      rw [List.map_eq_nil_iff, List.map_eq_nil_iff, ← List.perm_nil, ← List.perm_nil]
      exact (filesPerm.filter keep).congr_left []
    refine .returned (freshnessResult_eq ?_ (nil_iff _))
    rw [addFresh_eq_nil, addFresh_eq_nil, nil_iff]
    simp only [metadataPerm.mem_iff]

theorem schemaResult_perm {required existing others matching found : List String}
    (perm : existing.Perm others) :
    SameVerdict (schemaResult criterion required existing matching)
      (schemaResult criterion required others found) := by
  have present : isPresent existing = isPresent others := by
    funext column
    exact perm.any_eq
  simp only [SameVerdict, schemaResult, present]
  split
  · rfl
  · split
    · rfl
    · rfl

theorem checkSchemaPresence_perm (perm : metadataOrder.Perm evidenceMetadata) :
    Alike SameVerdict (checkSchemaPresence services criterion metadataOrder)
      (checkSchemaPresence services criterion evidenceMetadata) := by
  have columns : (allColumns services metadataOrder).Perm
      (allColumns services evidenceMetadata) :=
    (perm.filter _).flatMap_right _
  simp only [checkSchemaPresence, ← List.length_eq_zero_iff, columns.length_eq]
  split
  · exact .returned rfl
  · split
    · exact .returned rfl
    · apply alike_bind
      intro lowered
      exact .returned (schemaResult_perm columns)

theorem checkRowCount_perm (perm : metadataOrder.Perm evidenceMetadata) :
    Alike SameVerdict (checkRowCount services criterion metadataOrder)
      (checkRowCount services criterion evidenceMetadata) := by
  have files := perm.filter fun file : EvidenceMetadata =>
    isStructured file.fileType && decide (0 < file.rowCount)
  have total : ((filesWithRows metadataOrder).map EvidenceMetadata.rowCount).sum =
      ((filesWithRows evidenceMetadata).map EvidenceMetadata.rowCount).sum :=
    (files.map EvidenceMetadata.rowCount).sum_eq
  have count : ((filesWithRows metadataOrder).map EvidenceMetadata.storageKey).length =
      ((filesWithRows evidenceMetadata).map EvidenceMetadata.storageKey).length :=
    (files.map EvidenceMetadata.storageKey).length_eq
  simp only [checkRowCount, total, ← List.length_eq_zero_iff, count]
  split
  · exact .returned rfl
  · apply alike_bind
    intro minimum
    apply alike_bind
    intro minText
    split
    · exact .returned rfl
    · exact .returned rfl

end

end Onpremai.AgentEval
