import Onpremai.AgentEval.KeywordOrder

/-!
# Verdicts and the order of the evidence

The keys of the evidence are listed from a set, in no particular order.  Three rules return at the
first file that has something to say, and one searches a text in which the texts of the files
follow each other: on these the order of the files can change the verdict.
-/

namespace Onpremai.AgentEval

open Onpremai.Library

def OrderIndependent (services : RuleServices) (criterion : Criterion)
    (evidenceMetadata : List EvidenceMetadata) (evidenceFiles : List EvidenceFile) : Prop :=
  ∀ metadataOrder filesOrder, metadataOrder.Perm evidenceMetadata → filesOrder.Perm evidenceFiles →
      layer1Verdict services criterion metadataOrder filesOrder =
        layer1Verdict services criterion evidenceMetadata evidenceFiles

section

variable {services : RuleServices} {criterion : Criterion}
  {evidenceMetadata metadataOrder : List EvidenceMetadata}

/-- What one file decides: the verdict on it, also where the rule raises. -/
def decisionOf (outcome : Except RaisedException (Option CriterionResult)) :
    Option CriterionResultEnum :=
  outcomeOf CriterionResult.result .needsJudgment outcome

theorem ruleVerdict_first
    {outcome : EvidenceMetadata → Except RaisedException (Option CriterionResult)}
    {goOn : Option CriterionResult → Except RaisedException CriterionResult}
    {files : List EvidenceMetadata} (returned : ∀ result, goOn (some result) = .ok result)
    (judged : ruleVerdict (goOn none) = .needsJudgment) :
    ruleVerdict (files.findSomeM? outcome >>= goOn) =
      (files.findSome? fun file => decisionOf (outcome file)).getD .needsJudgment := by
  have search := outcomeOf_findSomeM? CriterionResult.result .needsJudgment outcome files
  simp only [decisionOf, ← search]
  cases files.findSomeM? outcome with
  | error exn => rfl
  | ok found =>
    cases found with
    | some result => exact congrArg ruleVerdict (returned result)
    | none => exact judged

theorem ruleVerdict_checkNullRate :
    ruleVerdict (checkNullRate services criterion evidenceMetadata) =
      (evidenceMetadata.findSome? fun file =>
        decisionOf (nullRateOutcome services criterion file)).getD .needsJudgment :=
  ruleVerdict_first (fun _ => rfl) rfl

theorem ruleVerdict_checkQuantitative :
    ruleVerdict (checkQuantitative services criterion evidenceMetadata) =
      (evidenceMetadata.findSome? fun file =>
        decisionOf (metricOutcome services criterion file)).getD .needsJudgment := by
  refine ruleVerdict_first (fun _ => rfl) ?_
  simp only [pure, Except.pure]
  split
  · rfl
  · rfl

theorem decisionOf_eq {first second : Except RaisedException (Option CriterionResult)}
    (alike : Alike (fun found other => found.map CriterionResult.result =
      other.map CriterionResult.result) first second) :
    decisionOf first = decisionOf second := by
  cases alike with
  | raised exn other => rfl
  | returned same => exact same

theorem decisionOf_crossReferenceOutcome (used other : List String) (file : EvidenceMetadata) :
    decisionOf (crossReferenceOutcome services criterion used file) =
      decisionOf (crossReferenceOutcome services criterion other file) := by
  apply decisionOf_eq
  simp only [crossReferenceOutcome]
  cases param? file.schemaInfo "cross_reference_results" with
  | none => exact .returned rfl
  | some xrefResults =>
    apply alike_bind
    intro fields
    apply alike_bind
    intro checked
    split
    · exact .returned rfl
    · exact .returned rfl

theorem shareColumn_iff {first second : EvidenceMetadata} :
    shareColumn services first second = true ↔ ∃ column ∈ first.columns.map services.unicode.lower,
        column ∈ second.columns.map services.unicode.lower := by
  simp only [shareColumn, Bool.or_eq_true, Bool.not_eq_true', List.isEmpty_eq_false_iff_exists_mem,
    List.mem_filter, decide_eq_true_eq]
  constructor
  · rintro (⟨column, ⟨here, there⟩, -⟩ | ⟨column, here, there⟩)
    · exact ⟨column, here, there⟩
    · exact ⟨column, here, there⟩
  · rintro ⟨column, here, there⟩
    exact Or.inr ⟨column, here, there⟩

theorem shareColumn_comm (first second : EvidenceMetadata) :
    shareColumn services first second = shareColumn services second first := by
  rw [Bool.eq_iff_iff, shareColumn_iff, shareColumn_iff]
  constructor
  · rintro ⟨column, here, there⟩
    exact ⟨column, there, here⟩
  · rintro ⟨column, here, there⟩
    exact ⟨column, there, here⟩

theorem checkJoinabilityAuto_eq_false {files : List EvidenceMetadata} :
    checkJoinabilityAuto services files = false ↔
      files.Pairwise fun first second => shareColumn services first second = false := by
  induction files with
  | nil => simp [checkJoinabilityAuto]
  | cons file rest ih =>
    rw [checkJoinabilityAuto, Bool.or_eq_false_iff, ih, List.pairwise_cons, List.any_eq_false]
    simp

theorem isJoinable_perm {files order : List EvidenceMetadata} (perm : order.Perm files) :
    isJoinable services criterion order = isJoinable services criterion files := by
  have auto : checkJoinabilityAuto services order = checkJoinabilityAuto services files := by
    have symmetric : ∀ {first second : EvidenceMetadata},
        shareColumn services first second = false → shareColumn services second first = false := by
      intro first second apart
      rw [shareColumn_comm, apart]
    rw [Bool.eq_iff_iff, ← not_iff_not, Bool.not_eq_true, Bool.not_eq_true,
      checkJoinabilityAuto_eq_false, checkJoinabilityAuto_eq_false]
    exact perm.pairwise_iff symmetric
  simp only [isJoinable, checkJoinabilityByColumn, auto, (perm.filter _).length_eq]

def CrossReferencesAgree (services : RuleServices) (criterion : Criterion)
    (evidenceMetadata : List EvidenceMetadata) : Prop :=
  let files := structuredFiles evidenceMetadata
  files.length < 2 ∨ isJoinable services criterion files ≠ .ok true ∨
    Agree (fun file => decisionOf (crossReferenceOutcome services criterion [] file)) files

theorem ruleVerdict_few_files (few : (structuredFiles evidenceMetadata).length < 2) :
    ruleVerdict (checkCrossReference services criterion evidenceMetadata) =
      if (structuredFiles evidenceMetadata).length = 0 then .fail else .needsJudgment := by
  simp only [checkCrossReference, if_pos few]
  split
  · rfl
  · rfl

theorem ruleVerdict_joinable (several : ¬ (structuredFiles evidenceMetadata).length < 2)
    (joinable : isJoinable services criterion (structuredFiles evidenceMetadata) = .ok true) :
    ruleVerdict (checkCrossReference services criterion evidenceMetadata) =
      ((structuredFiles evidenceMetadata).findSome? fun file =>
        decisionOf (crossReferenceOutcome services criterion [] file)).getD .needsJudgment := by
  have used : (fun file => decisionOf (crossReferenceOutcome services criterion [] file)) =
      fun file => decisionOf (crossReferenceOutcome services criterion
        (((structuredFiles evidenceMetadata).map EvidenceMetadata.storageKey).take 3) file) := by
    funext file
    exact decisionOf_crossReferenceOutcome _ _ file
  have some_ : ¬ (structuredFiles evidenceMetadata).length = 0 := by omega
  rw [checkCrossReference, if_neg some_, if_neg several, joinable, used]
  exact ruleVerdict_first (fun _ => rfl) rfl

theorem ruleVerdict_not_joinable (several : ¬ (structuredFiles evidenceMetadata).length < 2)
    (apart : isJoinable services criterion (structuredFiles evidenceMetadata) ≠ .ok true) :
    ruleVerdict (checkCrossReference services criterion evidenceMetadata) = .needsJudgment := by
  have some_ : ¬ (structuredFiles evidenceMetadata).length = 0 := by omega
  rw [checkCrossReference, if_neg some_, if_neg several]
  cases ran : isJoinable services criterion (structuredFiles evidenceMetadata) with
  | error exn => rfl
  | ok joinable =>
    cases joinable with
    | true => exact absurd ran apart
    | false => rfl

theorem anyOrder_checkCrossReference_iff :
    AnyOrder (fun order => ruleVerdict (checkCrossReference services criterion order))
        evidenceMetadata ↔
      CrossReferencesAgree services criterion evidenceMetadata := by
  have structured : ∀ order : List EvidenceMetadata, order.Perm evidenceMetadata →
      (structuredFiles order).Perm (structuredFiles evidenceMetadata) :=
    fun order perm => perm.filter _
  by_cases few : (structuredFiles evidenceMetadata).length < 2
  · refine iff_of_true (fun order perm => ?_) (Or.inl few)
    have length := (structured order perm).length_eq
    simp only [ruleVerdict_few_files few, ruleVerdict_few_files (length ▸ few), length]
  · by_cases joinable : isJoinable services criterion (structuredFiles evidenceMetadata) = .ok true
    · have verdicts := anyOrder_congr fun (order : List EvidenceMetadata) perm =>
        @ruleVerdict_joinable services criterion order
          (by rwa [(structured order perm).length_eq])
          (by rwa [isJoinable_perm (structured order perm)])
      rw [verdicts, CrossReferencesAgree]
      simp only [few, joinable, ne_eq, not_true_eq_false, false_or]
      exact anyOrder_findSome?_filter_iff
    · have judged : ∀ order : List EvidenceMetadata, order.Perm evidenceMetadata →
          ruleVerdict (checkCrossReference services criterion order) = .needsJudgment := by
        intro order perm
        exact ruleVerdict_not_joinable (by rwa [(structured order perm).length_eq])
          (by rwa [isJoinable_perm (structured order perm)])
      exact iff_of_true (anyOrder_of_eq _ judged) (Or.inr (Or.inl joinable))

/-! ## All rules -/

/-- The files agree where the rule of the criterion depends on their order: those that
decide on a null rate, on a metric or on a cross reference decide the same, and no phrase
between two files matters. -/
structure FilesAgree (services : RuleServices) (criterion : Criterion)
    (evidenceMetadata : List EvidenceMetadata) : Prop where
  nullRate : checkTypeOf criterion = some "null_rate" →
    Agree (fun file => decisionOf (nullRateOutcome services criterion file)) evidenceMetadata
  quantitative : checkTypeOf criterion = some "quantitative" →
    Agree (fun file => decisionOf (metricOutcome services criterion file)) evidenceMetadata
  crossReference : checkTypeOf criterion = some "cross_reference" →
    CrossReferencesAgree services criterion evidenceMetadata
  keywordPresence : checkTypeOf criterion = some "keyword_presence" →
    KeywordsAgree services criterion evidenceMetadata

theorem ruleHandlers_cases (checkType : String) :
    checkType ∈ ["file_existence", "freshness", "schema_presence", "row_count", "null_rate",
        "cross_reference", "quantitative", "keyword_presence"] ∨
      ruleHandlers services checkType = none := by
  unfold ruleHandlers
  split <;> simp

variable {evidenceFiles filesOrder : List EvidenceFile}

theorem orderIndependent_iff_anyOrder {checkType : String}
    {check : List EvidenceMetadata → Except RaisedException CriterionResult}
    {handler : RuleHandler} (resolved : checkTypeOf criterion = some checkType)
    (registered : ruleHandlers services checkType = some handler)
    (reads : ∀ metadata files, handler criterion metadata files = check metadata) :
    OrderIndependent services criterion evidenceMetadata evidenceFiles ↔
      AnyOrder (fun order => ruleVerdict (check order)) evidenceMetadata := by
  simp only [OrderIndependent, layer1Verdict_of_handler resolved registered, reads]
  constructor
  · intro independent order perm
    exact independent order evidenceFiles perm (List.Perm.refl evidenceFiles)
  · intro anyOrder order _ perm _
    exact anyOrder order perm

theorem orderIndependent_of_alike {checkType : String} {handler : RuleHandler}
    (resolved : checkTypeOf criterion = some checkType)
    (registered : ruleHandlers services checkType = some handler)
    (alike : ∀ metadataOrder filesOrder, metadataOrder.Perm evidenceMetadata →
      filesOrder.Perm evidenceFiles → Alike SameVerdict (handler criterion metadataOrder filesOrder)
          (handler criterion evidenceMetadata evidenceFiles)) :
    OrderIndependent services criterion evidenceMetadata evidenceFiles := by
  intro metadataOrder filesOrder metadataPerm filesPerm
  rw [layer1Verdict_of_handler resolved registered, layer1Verdict_of_handler resolved registered]
  exact ruleVerdict_eq (alike metadataOrder filesOrder metadataPerm filesPerm)

/-- The check types whose rules the order of the files can matter to. -/
def orderedTypes : List String :=
  ["null_rate", "quantitative", "cross_reference", "keyword_presence"]

theorem filesAgree_of_free
    (free : ∀ checkType ∈ orderedTypes, checkTypeOf criterion ≠ some checkType) :
    FilesAgree services criterion evidenceMetadata where
  nullRate resolved := absurd resolved (free _ (by simp [orderedTypes]))
  quantitative resolved := absurd resolved (free _ (by simp [orderedTypes]))
  crossReference resolved := absurd resolved (free _ (by simp [orderedTypes]))
  keywordPresence resolved := absurd resolved (free _ (by simp [orderedTypes]))

theorem filesAgree_nullRate_iff (resolved : checkTypeOf criterion = some "null_rate") :
    FilesAgree services criterion evidenceMetadata ↔
      Agree (fun file => decisionOf (nullRateOutcome services criterion file))
        evidenceMetadata := by
  constructor
  · exact fun agree => agree.nullRate resolved
  · exact fun agree => ⟨fun _ => agree, by simp [resolved], by simp [resolved], by simp [resolved]⟩

theorem filesAgree_quantitative_iff (resolved : checkTypeOf criterion = some "quantitative") :
    FilesAgree services criterion evidenceMetadata ↔
      Agree (fun file => decisionOf (metricOutcome services criterion file))
        evidenceMetadata := by
  constructor
  · exact fun agree => agree.quantitative resolved
  · exact fun agree => ⟨by simp [resolved], fun _ => agree, by simp [resolved], by simp [resolved]⟩

theorem filesAgree_crossReference_iff
    (resolved : checkTypeOf criterion = some "cross_reference") :
    FilesAgree services criterion evidenceMetadata ↔
      CrossReferencesAgree services criterion evidenceMetadata := by
  constructor
  · exact fun agree => agree.crossReference resolved
  · exact fun agree => ⟨by simp [resolved], by simp [resolved], fun _ => agree, by simp [resolved]⟩

theorem filesAgree_keywordPresence_iff
    (resolved : checkTypeOf criterion = some "keyword_presence") :
    FilesAgree services criterion evidenceMetadata ↔
      KeywordsAgree services criterion evidenceMetadata := by
  constructor
  · exact fun agree => agree.keywordPresence resolved
  · exact fun agree => ⟨by simp [resolved], by simp [resolved], by simp [resolved], fun _ => agree⟩

end

def asciiData : UnicodeData where
  lower := Text.lower
  isWord := fun char => char.isAlphanum || char == '_'
  decimal := fun char => if char.isDigit then some (char.toNat - 48) else none
  lower_empty := by simp [Text.lower]
  lower_space := by
    intro first second
    simp [Text.lower, ← String.toList_inj, Text.lowerChar]
  isWord_space := by decide

def asciiServices : RuleServices where
  unicode := asciiData
  floatOfText := fun _ => none
  reSearch := fun pattern text => .ok (Text.contains pattern text)
  now := 0
  numberText := fun format value =>
    toString value.floor ++ (if format = .fixed 1 then ".0" else "")
  strOf := fun _ => ""

def populatedCriterion : Criterion where
  id := "CC6.1-3"
  category := "access"
  checkType := some "null_rate"
  checkParams := .obj [("columns", .arr [.str "email"]), ("min_populated_rate", .num (95 / 100))]

def fileWithRate (storageKey : String) (rate : Rat) : EvidenceMetadata where
  storageKey := storageKey
  fileType := "csv"
  columns := ["email"]
  rowCount := 100
  schemaInfo := .obj [("null_rates", .obj [("email", .num rate)])]

end Onpremai.AgentEval
