import Onpremai.Preprocessor.ObligationConsolidator

/-!
# Coverage of conflicts

Conflicts are looked for among the obligations that the deduplication keeps.  A contradiction of
the policies is reported exactly when what its sides demand is demanded by obligations that are
kept, whether an obligation is kept being a matter of the texts before it.
-/

namespace Onpremai.Preprocessor

open Onpremai.Library
open Onpremai.Observer (PyError)

section

variable {decoders : Decoders} {lower : String → String}

theorem uniqueNodes_dedupObligation (state : DedupState) (obl : PolicyEntity Document) :
    (dedupObligation lower state obl).uniqueNodes =
      keepNew (isNearDuplicate lower) state.uniqueNodes obl := by
  rw [dedupObligation, keepNew]
  cases found : state.uniqueNodes.find? (isNearDuplicate lower obl) with
  | some existing =>
    have similar := List.any_eq_true.mpr
      ⟨existing, List.mem_of_find?_eq_some found, List.find?_some found⟩
    rw [if_pos similar]
  | none =>
    have alone := List.any_eq_false.mpr (List.find?_eq_none.mp found)
    rw [if_neg (Bool.eq_false_iff.mp alone)]

theorem uniqueNodes_dedupObligations (obligations : List (PolicyEntity Document)) :
    (obligations.foldl (dedupObligation lower) {}).uniqueNodes =
      representatives (isNearDuplicate lower) obligations := by
  have kept (state : DedupState) : (obligations.foldl (dedupObligation lower) state).uniqueNodes =
        obligations.foldl (keepNew (isNearDuplicate lower)) state.uniqueNodes := by
    induction obligations generalizing state with
    | nil => rfl
    | cons obl rest ih =>
      rw [List.foldl_cons, List.foldl_cons, ih, uniqueNodes_dedupObligation]
  exact kept {}

theorem filter_dedupOthers (others : List (PolicyEntity Document))
    (typed : ∀ node ∈ others, isObligation node = false)
    (state : DedupState × Dict String String) :
    (others.foldl (dedupOther lower) state).1.uniqueNodes.filter isObligation =
      state.1.uniqueNodes.filter isObligation := by
  induction others generalizing state with
  | nil => rfl
  | cons node rest ih =>
    rw [List.forall_mem_cons] at typed
    rw [List.foldl_cons, ih typed.2, dedupOther]
    cases state.2.get? (labelKey lower node) with
    | some canonical => rfl
    | none =>
      rw [List.filter_append, List.filter_singleton, typed.1]
      exact List.append_nil _

theorem filter_deduplicateNodes (nodes : List (PolicyEntity Document)) :
    (deduplicateNodes lower nodes).uniqueNodes.filter isObligation =
      representatives (isNearDuplicate lower) (nodes.filter isObligation) := by
  rw [deduplicateNodes, filter_dedupOthers, uniqueNodes_dedupObligations]
  · apply List.filter_eq_self.mpr
    intro obl member
    exact List.of_mem_filter (representatives_subset _ member)
  · intro node member
    have other := @List.of_mem_filter _ (fun node => !isObligation node) node nodes member
    exact Bool.not_eq_true' _ ▸ other

/-! ## The conflicts among them -/

variable (lower)

def actionKey? (obl : PolicyEntity Document) : Option String :=
  match obl.property "action" with
  | .str action =>
    let action := Text.strip (lower action)
    if action = "" then none else some (normalizeAction lower action)
  | _ => none

def Demands (obl : PolicyEntity Document) (key : String) (threshold : Document) : Prop :=
  actionKey? lower obl = some key ∧ obl.property "threshold" = threshold ∧ threshold.truthy = true

variable {lower}

def Conflict.Names (conflict : Conflict) (key : String) (left right : Document) : Prop :=
  conflict.controlId = key ∧
    (conflict.sourceA.threshold = left ∧ conflict.sourceB.threshold = right ∨
      conflict.sourceA.threshold = right ∧ conflict.sourceB.threshold = left)

theorem returns_groupingEntry {obl : PolicyEntity Document} :
    Returns (groupingEntry lower obl) ↔ IsText (obl.property "action") := by
  rw [groupingEntry, returns_bind_pure, loweredAction]
  cases obl.property "action" with
  | str action => exact iff_of_true (returns_ok _) trivial
  | _ => exact iff_of_false (not_returns_error _) id

theorem groupingEntry_of_text {obl : PolicyEntity Document} {action : String}
    (told : obl.property "action" = .str action) :
    groupingEntry lower obl =
      .ok (if (obl.property "threshold").truthy then
        (actionKey? lower obl).map fun key => (key, obl) else none) := by
  simp only [groupingEntry, loweredAction, actionKey?, told, ok_bind]
  by_cases absent : Text.strip (lower action) = ""
  · simp only [absent, if_true, decide_true, Bool.or_true, Option.map_none, ite_self]
    rfl
  · simp only [absent, decide_false, Bool.or_false, if_false, Option.map_some]
    cases (obl.property "threshold").truthy with
    | true => rfl
    | false => rfl

theorem groupingEntry_eq_some_iff {obl other : PolicyEntity Document} {key : String} :
    groupingEntry lower obl = .ok (some (key, other)) ↔
      Demands lower obl key (obl.property "threshold") ∧ obl = other := by
  rw [Demands]
  cases told : obl.property "action" with
  | str action =>
    rw [groupingEntry_of_text told, Except.ok.injEq]
    cases (obl.property "threshold").truthy with
    | false => exact iff_of_false (fun same => by cases same) (fun held => by cases held.1.2.2)
    | true =>
      rw [if_pos rfl, Option.map_eq_some_iff]
      constructor
      · intro made
        obtain ⟨found, keyed, same⟩ := made
        cases same
        exact ⟨⟨keyed, rfl, rfl⟩, rfl⟩
      · intro held
        exact ⟨key, held.1.1, by rw [held.2]⟩
  | _ =>
    apply iff_of_false
    · intro made
      rw [groupingEntry, loweredAction, told] at made
      cases made
    · intro held
      rw [actionKey?, told] at held
      cases held.1.1

theorem conflictOf_eq_some {key : String} {pair : PolicyEntity Document × PolicyEntity Document}
    {conflict : Conflict} (made : conflictOf decoders key pair = some conflict) :
    conflict.controlId = key ∧ conflict.sourceA.threshold = pair.1.property "threshold" ∧
      conflict.sourceB.threshold = pair.2.property "threshold" := by
  rw [conflictOf] at made
  split at made
  · cases made
    exact ⟨rfl, rfl, rfl⟩
  · cases made

theorem equalValues_of_ne {left right : Document} (differ : marksOf left ≠ marksOf right) :
    equalValues left right = false := by
  rw [equalValues, decide_eq_false differ]
  rfl

theorem conflictOf_of_demands {left right : PolicyEntity Document} {key : String}
    {leftThreshold rightThreshold : Document} (first : Demands lower left key leftThreshold)
    (second : Demands lower right key rightThreshold)
    (differ : marksOf leftThreshold ≠ marksOf rightThreshold) :
    ∃ conflict, conflictOf decoders key (left, right) = some conflict := by
  obtain ⟨-, rfl, leftTold⟩ := first
  obtain ⟨-, rfl, rightTold⟩ := second
  rw [conflictOf, if_pos]
  · exact ⟨_, rfl⟩
  · rw [leftTold, rightTold, equalValues_of_ne differ]
    rfl

section

variable {obligations : List (PolicyEntity Document)}

theorem returns_detectConflicts : Returns (detectConflicts decoders lower obligations) ↔
      ∀ obl ∈ obligations, IsText (obl.property "action") := by
  rw [detectConflicts, returns_bind_pure, returns_mapM]
  simp only [returns_groupingEntry]

theorem names_detectConflicts_iff {conflicts : List Conflict}
    (detected : detectConflicts decoders lower obligations = .ok conflicts)
    {key : String} {left right : Document} (differ : marksOf left ≠ marksOf right) :
    (∃ conflict ∈ conflicts, conflict.Names key left right) ↔
      (∃ obl ∈ obligations, Demands lower obl key left) ∧
        ∃ obl ∈ obligations, Demands lower obl key right := by
  obtain ⟨entries, grouped, same⟩ := bind_eq_ok.mp detected
  cases same
  have inGroup (obl : PolicyEntity Document) (query : String) :
      (query, obl) ∈ entries.reduceOption ↔
        obl ∈ obligations ∧ Demands lower obl query (obl.property "threshold") := by
    rw [List.reduceOption_mem_iff]
    constructor
    · intro member
      obtain ⟨other, inside, made⟩ := exists_of_mem_mapM grouped member
      obtain ⟨demands, same⟩ := groupingEntry_eq_some_iff.mp made
      rw [← same]
      exact ⟨inside, demands⟩
    · intro held
      exact mem_of_mapM grouped held.1 (groupingEntry_eq_some_iff.mpr ⟨held.2, rfl⟩)
  constructor
  · intro named
    obtain ⟨conflict, member, controlled, sides⟩ := named
    obtain ⟨group, inGroups, inside⟩ := List.mem_flatMap.mp member
    obtain ⟨pair, paired, made⟩ := List.mem_filterMap.mp inside
    obtain ⟨keyed, leftSide, rightSide⟩ := conflictOf_eq_some made
    have held := (Dict.mem_entries_iff _ _ _).mp inGroups
    have both := mem_of_mem_pairsOf paired
    rw [← keyed, controlled] at held
    obtain ⟨firstIn, first⟩ := (inGroup _ _).mp (Dict.mem_group_iff.mp ⟨_, held, both.1⟩)
    obtain ⟨secondIn, second⟩ := (inGroup _ _).mp (Dict.mem_group_iff.mp ⟨_, held, both.2⟩)
    rcases sides with ⟨isLeft, isRight⟩ | ⟨isRight, isLeft⟩
    · rw [leftSide] at isLeft
      rw [rightSide] at isRight
      exact ⟨⟨_, firstIn, isLeft ▸ first⟩, ⟨_, secondIn, isRight ▸ second⟩⟩
    · rw [leftSide] at isRight
      rw [rightSide] at isLeft
      exact ⟨⟨_, secondIn, isLeft ▸ second⟩, ⟨_, firstIn, isRight ▸ first⟩⟩
  · intro demanded
    obtain ⟨⟨first, firstIn, firstDemands⟩, second, secondIn, secondDemands⟩ := demanded
    have firstThreshold := firstDemands.2.1
    have secondThreshold := secondDemands.2.1
    have apart : first ≠ second := by
      intro same
      rw [same, secondThreshold] at firstThreshold
      exact differ (congrArg marksOf firstThreshold.symm)
    obtain ⟨group, held, firstMember⟩ := Dict.mem_group_iff.mpr
      ((inGroup first key).mpr ⟨firstIn, firstThreshold ▸ firstDemands⟩)
    obtain ⟨other, otherHeld, secondMember⟩ := Dict.mem_group_iff.mpr
      ((inGroup second key).mpr ⟨secondIn, secondThreshold ▸ secondDemands⟩)
    rw [held] at otherHeld
    cases otherHeld
    have reported {pair : PolicyEntity Document × PolicyEntity Document} {conflict : Conflict}
        (paired : pair ∈ pairsOf group) (made : conflictOf decoders key pair = some conflict) :
        conflict ∈ (Dict.group entries.reduceOption).entries.flatMap fun group =>
          (pairsOf group.2).filterMap (conflictOf decoders group.1) :=
      List.mem_flatMap.mpr ⟨(key, group), (Dict.mem_entries_iff _ _ _).mpr held,
        List.mem_filterMap.mpr ⟨pair, paired, made⟩⟩
    rcases mem_pairsOf_or firstMember secondMember apart with paired | paired
    · obtain ⟨conflict, made⟩ := conflictOf_of_demands firstDemands secondDemands differ
      obtain ⟨keyed, leftSide, rightSide⟩ := conflictOf_eq_some made
      exact ⟨conflict, reported paired made, keyed,
        Or.inl ⟨leftSide.trans firstThreshold, rightSide.trans secondThreshold⟩⟩
    · obtain ⟨conflict, made⟩ := conflictOf_of_demands secondDemands firstDemands differ.symm
      obtain ⟨keyed, leftSide, rightSide⟩ := conflictOf_eq_some made
      exact ⟨conflict, reported paired made, keyed,
        Or.inr ⟨leftSide.trans secondThreshold, rightSide.trans firstThreshold⟩⟩

end

def inputObligations (graphs : List (PolicyGraph Document)) : List (PolicyEntity Document) :=
  (graphs.flatMap PolicyGraph.nodes).filter isObligation

theorem conflicts_mergeGraphs (graphs : List (PolicyGraph Document)) :
    (mergeGraphs decoders lower graphs).map MergeReport.conflicts = detectConflicts decoders lower
        (representatives (isNearDuplicate lower) (inputObligations graphs)) := by
  cases graphs with
  | nil => rfl
  | cons first rest =>
    rw [inputObligations, ← filter_deduplicateNodes]
    simp only [mergeGraphs]
    cases detectConflicts decoders lower ((deduplicateNodes lower
      ((first :: rest).flatMap PolicyGraph.nodes)).uniqueNodes.filter isObligation) with
    | ok conflicts => rfl
    | error exn => rfl

variable (decoders lower)

def CoversConflicts (graphs : List (PolicyGraph Document)) : Prop :=
  ∃ report, mergeGraphs decoders lower graphs = .ok report ∧
    ∀ obl ∈ inputObligations graphs, ∀ other ∈ inputObligations graphs, ∀ key left right,
      Demands lower obl key left → Demands lower other key right → marksOf left ≠ marksOf right →
        ∃ conflict ∈ report.conflicts, conflict.Names key left right

def StandsFor (obligations : List (PolicyEntity Document)) (obl : PolicyEntity Document) : Prop :=
  ∃ before after, obligations = before ++ obl :: after ∧
    StandsAlone (isNearDuplicate lower) obl before.reverse

variable {decoders lower}

/-- The conflicts are covered exactly when the obligations that stand for themselves have texts
for actions, and every demand that another one contradicts is that of such an obligation. -/
theorem coversConflicts_iff (graphs : List (PolicyGraph Document)) :
    CoversConflicts decoders lower graphs ↔
      (∀ obl, StandsFor lower (inputObligations graphs) obl → IsText (obl.property "action")) ∧
        ∀ obl ∈ inputObligations graphs, ∀ other ∈ inputObligations graphs, ∀ key left right,
          Demands lower obl key left → Demands lower other key right →
            marksOf left ≠ marksOf right → ∃ told, StandsFor lower (inputObligations graphs) told ∧
                Demands lower told key left := by
  have standing (obl : PolicyEntity Document) : StandsFor lower (inputObligations graphs) obl ↔
        obl ∈ representatives (isNearDuplicate lower) (inputObligations graphs) :=
    mem_representatives_iff.symm
  simp only [standing, CoversConflicts]
  constructor
  · intro covered
    obtain ⟨report, merged, covers⟩ := covered
    have detected := @conflicts_mergeGraphs decoders lower graphs
    rw [merged] at detected
    refine ⟨returns_detectConflicts.mp ⟨_, detected.symm⟩, ?_⟩
    intro obl member other otherMember key left right first second differ
    have named := covers obl member other otherMember key left right first second differ
    exact ((names_detectConflicts_iff detected.symm differ).mp named).1
  · intro condition
    obtain ⟨texts, told⟩ := condition
    obtain ⟨conflicts, detected⟩ := returns_detectConflicts.mpr texts
    obtain ⟨report, merged, same⟩ :=
      map_eq_ok.mp ((@conflicts_mergeGraphs decoders lower graphs).trans detected)
    refine ⟨report, merged, ?_⟩
    intro obl member other otherMember key left right first second differ
    rw [same, names_detectConflicts_iff detected differ]
    exact ⟨told obl member other otherMember key left right first second differ,
      told other otherMember obl member key right left second first differ.symm⟩

end

def patchNode (threshold : String) : PolicyEntity Document where
  id := threshold
  entityType := "obligation"
  label := "Apply patches in time"
  properties := [("action", .str "apply patches"), ("threshold", .str threshold)]
  sourceText := "Apply patches in time"

def patchGraph (threshold : String) : PolicyGraph Document where
  tenantId := "tenant"
  documentId := threshold
  nodes := [patchNode threshold]

theorem similar_patchNodes :
    isNearDuplicate Text.lower (patchNode "14 days") (patchNode "30 days") = true := by
  decide +kernel

theorem demands_patchNode {threshold : String} (told : threshold ≠ "") :
    Demands Text.lower (patchNode threshold) "apply patches" (.str threshold) := by
  refine ⟨?_, rfl, decide_eq_true told⟩
  have keyed : actionKey? Text.lower (patchNode "") = some "apply patches" := by
    decide
  exact keyed

/-- Two policies that demand different thresholds in the same words contradict each other without
a conflict in the report. -/
theorem not_coversConflicts_patches : ¬ CoversConflicts AnalysisRun.twoDocuments Text.lower
      [patchGraph "30 days", patchGraph "14 days"] := by
  intro covered
  obtain ⟨report, merged, covers⟩ := covered
  have inputs : inputObligations [patchGraph "30 days", patchGraph "14 days"] =
      [patchNode "30 days", patchNode "14 days"] := rfl
  have kept : representatives (isNearDuplicate Text.lower)
      [patchNode "30 days", patchNode "14 days"] = [patchNode "30 days"] := by
    simp [representatives, keepNew, similar_patchNodes]
  have detected := @conflicts_mergeGraphs AnalysisRun.twoDocuments Text.lower
      [patchGraph "30 days", patchGraph "14 days"]
  rw [inputs, kept, merged] at detected
  have differ : marksOf (.str "30 days") ≠ marksOf (.str "14 days") := by decide
  rw [inputs] at covers
  have named := covers _ List.mem_cons_self _ (List.mem_cons_of_mem _ List.mem_cons_self) _ _ _
    (demands_patchNode (by decide)) (demands_patchNode (by decide)) differ
  obtain ⟨-, told, member, demanded⟩ := (names_detectConflicts_iff detected.symm differ).mp named
  rw [List.mem_singleton.mp member] at demanded
  exact absurd (congrArg marksOf demanded.2.1) (by decide)

end Onpremai.Preprocessor
