import Onpremai.Preprocessor.ConflictCoverage

/-!
# Merged graphs

The merge thins out the nodes of all graphs and leads every edge to the nodes that are kept.  A
node that is left out is represented by one that is kept, and a merged graph is merged into
itself.
-/

namespace Onpremai.Preprocessor

open Onpremai.Library

/-! ## The nodes that are kept -/

section

variable (lower : String → String)

def isSameLabel (node other : PolicyEntity Document) : Bool :=
  decide (labelKey lower node = labelKey lower other)

/-- A node stands for itself, and for the nodes of its kind that are left out because of it. -/
def Represents (kept node : PolicyEntity Document) : Prop :=
  kept = node ∨ (isObligation kept = isObligation node ∧
    if isObligation node = true then isNearDuplicate lower node kept = true
    else isSameLabel lower node kept = true)

def Represented (state : DedupState) (nodes : List (PolicyEntity Document)) : Prop :=
  ∀ node ∈ nodes, ∃ kept ∈ state.uniqueNodes,
    state.idMap.get? node.id = some kept.id ∧ Represents lower kept node

def Assigns (state next : DedupState) (node : PolicyEntity Document) : Prop :=
  state.uniqueNodes ⊆ next.uniqueNodes ∧ ∃ kept ∈ next.uniqueNodes,
    next.idMap = state.idMap.set node.id kept.id ∧ Represents lower kept node

def Sees (seen : Dict String String) (kept : List (PolicyEntity Document)) : Prop :=
  ∀ key, seen.get? key = (kept.find? fun node => labelKey lower node = key).map (·.id)

end

section

variable {lower : String → String} {state next : DedupState} {nodes : List (PolicyEntity Document)}
  {node : PolicyEntity Document}

theorem Represented.assign (represented : Represented lower state nodes)
    (assigns : Assigns lower state next node) (fresh : node.id ∉ nodes.map (·.id)) :
    Represented lower next (nodes ++ [node]) := by
  obtain ⟨grows, kept, inside, mapped, represents⟩ := assigns
  rw [Represented, List.forall_mem_append, List.forall_mem_singleton]
  constructor
  · intro earlier member
    obtain ⟨other, otherIn, named, stands⟩ := represented earlier member
    have apart : node.id ≠ earlier.id := by
      intro same
      rw [same] at fresh
      exact fresh (List.mem_map_of_mem member)
    exact ⟨other, grows otherIn, by rw [mapped, Dict.get?_set, if_neg apart, named], stands⟩
  · exact ⟨kept, inside, by rw [mapped, Dict.get?_set, if_pos rfl], represents⟩

theorem assigns_dedupObligation (typed : isObligation node = true)
    (kinds : ∀ kept ∈ state.uniqueNodes, isObligation kept = true) :
    Assigns lower state (dedupObligation lower state node) node := by
  rw [dedupObligation]
  cases found : state.uniqueNodes.find? (isNearDuplicate lower node) with
  | some existing =>
    have inside := List.mem_of_find?_eq_some found
    refine ⟨List.Subset.refl _, existing, inside, rfl, Or.inr ⟨?_, ?_⟩⟩
    · rw [kinds existing inside, typed]
    · rw [if_pos typed]
      exact List.find?_some found
  | none => exact ⟨List.subset_append_left _ _, node, by simp, rfl, Or.inl rfl⟩

theorem represented_dedupObligations (obligations : List (PolicyEntity Document))
    (typed : ∀ obl ∈ obligations, isObligation obl = true)
    (distinct : (obligations.map (·.id)).Nodup) :
    Represented lower (obligations.foldl (dedupObligation lower) {}) obligations := by
  induction obligations using List.reverseRecOn with
  | nil => exact fun node none => absurd none List.not_mem_nil
  | append_singleton before obl ih =>
    rw [List.forall_mem_append, List.forall_mem_singleton] at typed
    rw [List.map_append, List.nodup_append] at distinct
    rw [List.foldl_append]
    apply (ih typed.1 distinct.1).assign
    · apply assigns_dedupObligation typed.2
      intro kept member
      rw [uniqueNodes_dedupObligations] at member
      exact typed.1 kept (representatives_subset _ member)
    · intro member
      exact distinct.2.2 _ member _ (List.mem_singleton_self _) rfl

theorem Sees.keep {seen : Dict String String} {kept : List (PolicyEntity Document)}
    (sees : Sees lower seen kept) (new : ∀ other ∈ kept, labelKey lower other ≠ labelKey lower node) :
    Sees lower (seen.set (labelKey lower node) node.id) (kept ++ [node]) := by
  intro key
  rw [Dict.get?_set, List.find?_append]
  by_cases same : labelKey lower node = key
  · have none : kept.find? (fun other => labelKey lower other = key) = none := by
      rw [List.find?_eq_none]
      intro other member
      simpa [← same] using new other member
    simp [same, none]
  · simp [same, sees key]

/-- What a pass over the other nodes has come to: the nodes that were there before it, and those
that it has kept. -/
structure OtherPass (lower : String → String) (front kept : List (PolicyEntity Document))
    (state : DedupState × Dict String String) : Prop where
  nodes : state.1.uniqueNodes = front ++ kept
  sees : Sees lower state.2 kept

theorem OtherPass.step {front kept : List (PolicyEntity Document)}
    {state : DedupState × Dict String String} (pass : OtherPass lower front kept state)
    (kinds : ∀ other ∈ kept, isObligation other = isObligation node)
    (typed : isObligation node = false) :
    OtherPass lower front (keepNew (isSameLabel lower) kept node) (dedupOther lower state node) ∧
      Assigns lower state.1 (dedupOther lower state node).1 node := by
  have sees := pass.sees (labelKey lower node)
  rw [dedupOther, keepNew]
  cases found : kept.find? fun other => labelKey lower other = labelKey lower node with
  | some existing =>
    have inside := List.mem_of_find?_eq_some found
    have same : labelKey lower existing = labelKey lower node := by
      simpa using List.find?_some found
    have like : isSameLabel lower node existing = true := decide_eq_true same.symm
    rw [found] at sees
    rw [sees, if_pos (List.any_eq_true.mpr ⟨existing, inside, like⟩)]
    dsimp only [Option.map_some]
    refine ⟨⟨pass.nodes, pass.sees⟩, List.Subset.refl _, existing, ?_, rfl, Or.inr ⟨?_, ?_⟩⟩
    · rw [pass.nodes]
      exact List.mem_append_right _ inside
    · exact kinds existing inside
    · rw [typed]
      exact like
  | none =>
    have new : ∀ other ∈ kept, labelKey lower other ≠ labelKey lower node := by
      intro other member
      simpa using List.find?_eq_none.mp found other member
    have apart : ¬ kept.any (isSameLabel lower node) = true := by
      intro any
      obtain ⟨other, member, like⟩ := List.any_eq_true.mp any
      exact new other member (of_decide_eq_true like).symm
    rw [found] at sees
    rw [sees, if_neg apart]
    dsimp only [Option.map_none]
    refine ⟨⟨?_, pass.sees.keep new⟩, List.subset_append_left _ _, node, by simp, rfl, Or.inl rfl⟩
    simp [pass.nodes]

theorem otherPass_dedupOthers (others : List (PolicyEntity Document))
    (typed : ∀ node ∈ others, isObligation node = false) {state : DedupState}
    (represented : Represented lower state nodes)
    (distinct : ((nodes ++ others).map (·.id)).Nodup) :
    OtherPass lower state.uniqueNodes (representatives (isSameLabel lower) others)
        (others.foldl (dedupOther lower) (state, .empty)) ∧
      Represented lower (others.foldl (dedupOther lower) (state, .empty)).1 (nodes ++ others) := by
  induction others using List.reverseRecOn with
  | nil =>
    rw [List.append_nil]
    exact ⟨⟨(List.append_nil _).symm, fun key => rfl⟩, represented⟩
  | append_singleton before node ih =>
    rw [List.forall_mem_append, List.forall_mem_singleton] at typed
    rw [← List.append_assoc, List.map_append, List.nodup_append] at distinct
    obtain ⟨pass, earlier⟩ := ih typed.1 distinct.1
    obtain ⟨further, assigns⟩ := pass.step
      (fun other member => (typed.1 other (representatives_subset _ member)).trans typed.2.symm)
      typed.2
    rw [List.foldl_append, representatives_append_singleton, ← List.append_assoc]
    refine ⟨further, earlier.assign assigns ?_⟩
    intro member
    exact distinct.2.2 _ member _ (List.mem_singleton_self _) rfl

theorem deduplicateNodes_spec (distinct : (nodes.map (·.id)).Nodup) :
    (deduplicateNodes lower nodes).uniqueNodes =
        representatives (isNearDuplicate lower) (nodes.filter isObligation) ++
          representatives (isSameLabel lower) (nodes.filter fun node => !isObligation node) ∧
      Represented lower (deduplicateNodes lower nodes) nodes := by
  have sorted : (nodes.filter isObligation ++
      nodes.filter fun node => !isObligation node).Perm nodes := List.filter_append_perm _ _
  have apart : ((nodes.filter isObligation ++
      nodes.filter fun node => !isObligation node).map (·.id)).Nodup :=
    (sorted.map _).nodup_iff.mpr distinct
  have obligations := @represented_dedupObligations lower (nodes.filter isObligation)
    (fun node => List.of_mem_filter) (List.Nodup.of_append_left (by rwa [List.map_append] at apart))
  obtain ⟨pass, all⟩ := otherPass_dedupOthers (nodes.filter fun node => !isObligation node)
    (fun node member => by simpa using List.of_mem_filter member) obligations apart
  constructor
  · rw [← uniqueNodes_dedupObligations]
    exact pass.nodes
  · intro node member
    exact all node (sorted.mem_iff.mpr member)

theorem textSimilarity_comm (textA textB : String) :
    textSimilarity lower textA textB = textSimilarity lower textB textA := by
  rw [textSimilarity, textSimilarity]
  simp only [or_comm, Finset.inter_comm, Finset.union_comm]

theorem filter_uniqueNodes (distinct : (nodes.map (·.id)).Nodup) :
    (deduplicateNodes lower nodes).uniqueNodes.filter (fun node => !isObligation node) =
      representatives (isSameLabel lower) (nodes.filter fun node => !isObligation node) := by
  rw [(deduplicateNodes_spec distinct).1, List.filter_append]
  have none : (representatives (isNearDuplicate lower) (nodes.filter isObligation)).filter
      (fun node => !isObligation node) = [] := by
    rw [List.filter_eq_nil_iff]
    intro node member
    simp [List.of_mem_filter (representatives_subset _ member)]
  rw [none, List.nil_append, List.filter_eq_self]
  intro node member
  exact (List.mem_filter.mp (representatives_subset _ member)).2

theorem keptDistinct (distinct : (nodes.map (·.id)).Nodup) :
    ((deduplicateNodes lower nodes).uniqueNodes.map (·.id)).Nodup := by
  have sorted : (nodes.filter isObligation ++
      nodes.filter fun node => !isObligation node).Perm nodes := List.filter_append_perm _ _
  rw [(deduplicateNodes_spec distinct).1]
  exact (((representatives_sublist _).append (representatives_sublist _)).map _).nodup
    ((sorted.map _).nodup_iff.mpr distinct)

theorem deduplicateNodes_deduplicateNodes (distinct : (nodes.map (·.id)).Nodup) :
    (deduplicateNodes lower (deduplicateNodes lower nodes).uniqueNodes).uniqueNodes =
      (deduplicateNodes lower nodes).uniqueNodes := by
  rw [(deduplicateNodes_spec (keptDistinct distinct)).1, filter_deduplicateNodes,
    filter_uniqueNodes distinct, representatives_representatives, representatives_representatives,
    (deduplicateNodes_spec distinct).1]

theorem eq_of_represents (distinct : (nodes.map (·.id)).Nodup)
    {kept : PolicyEntity Document} (keptIn : kept ∈ (deduplicateNodes lower nodes).uniqueNodes)
    (nodeIn : node ∈ (deduplicateNodes lower nodes).uniqueNodes)
    (represents : Represents lower kept node) : kept = node := by
  by_contra apart
  rw [Represents, or_iff_right apart] at represents
  obtain ⟨sameKind, like⟩ := represents
  cases kind : isObligation node with
  | true =>
    rw [kind] at sameKind like
    have keptKind := List.mem_filter.mpr ⟨keptIn, sameKind⟩
    have nodeKind := List.mem_filter.mpr ⟨nodeIn, kind⟩
    rw [filter_deduplicateNodes] at keptKind nodeKind
    have symmetric (obl other : PolicyEntity Document) :
        isNearDuplicate lower obl other = isNearDuplicate lower other obl := by
      rw [isNearDuplicate, isNearDuplicate, textSimilarity_comm]
    have differ := not_similar_of_representatives symmetric nodeKind keptKind (Ne.symm apart)
    rw [if_pos rfl, differ] at like
    cases like
  | false =>
    rw [kind] at sameKind like
    have others {other : PolicyEntity Document} (isOther : isObligation other = false)
        (otherIn : other ∈ (deduplicateNodes lower nodes).uniqueNodes) :
        other ∈ representatives (isSameLabel lower)
          (nodes.filter fun node => !isObligation node) := by
      rw [← filter_uniqueNodes distinct, List.mem_filter]
      exact ⟨otherIn, by simp [isOther]⟩
    have symmetric (node other : PolicyEntity Document) :
        isSameLabel lower node other = isSameLabel lower other node := by
      rw [isSameLabel, isSameLabel]
      simp only [eq_comm]
    have differ := not_similar_of_representatives symmetric (others kind nodeIn)
      (others sameKind keptIn) (Ne.symm apart)
    rw [if_neg Bool.false_ne_true, differ] at like
    cases like

def Among (nodes : List (PolicyEntity Document)) (edges : List (PolicyRelationship Document)) :
    Prop :=
  ∀ edge ∈ edges, edge.sourceId ∈ nodes.map (·.id) ∧ edge.targetId ∈ nodes.map (·.id)

theorem canonical_id (represented : Represented lower state nodes) {id : String}
    (named : id ∈ nodes.map (·.id)) :
    (state.idMap.get? id).getD id ∈ state.uniqueNodes.map (·.id) := by
  obtain ⟨node, member, rfl⟩ := List.mem_map.mp named
  obtain ⟨kept, inside, mapped, -⟩ := represented node member
  rw [mapped]
  exact List.mem_map_of_mem inside

theorem among_remapped {edges : List (PolicyRelationship Document)}
    (represented : Represented lower state nodes) (among : Among nodes edges) :
    Among state.uniqueNodes (representatives isSameEdge (edges.map (remapEdge state.idMap))) := by
  intro edge member
  obtain ⟨original, inside, rfl⟩ := List.mem_map.mp (representatives_subset _ member)
  exact ⟨canonical_id represented (among original inside).1,
    canonical_id represented (among original inside).2⟩

theorem remapEdge_of_kept (distinct : (nodes.map (·.id)).Nodup)
    {edge : PolicyRelationship Document}
    (sourceIn : edge.sourceId ∈ (deduplicateNodes lower nodes).uniqueNodes.map (·.id))
    (targetIn : edge.targetId ∈ (deduplicateNodes lower nodes).uniqueNodes.map (·.id)) :
    remapEdge (deduplicateNodes lower (deduplicateNodes lower nodes).uniqueNodes).idMap edge =
      edge := by
  have same {id : String} (named : id ∈ (deduplicateNodes lower nodes).uniqueNodes.map (·.id)) :
      ((deduplicateNodes lower (deduplicateNodes lower nodes).uniqueNodes).idMap.get? id).getD id =
        id := by
    obtain ⟨node, member, rfl⟩ := List.mem_map.mp named
    obtain ⟨kept, inside, mapped, represents⟩ :=
      (deduplicateNodes_spec (keptDistinct distinct)).2 node member
    rw [deduplicateNodes_deduplicateNodes distinct] at inside
    rw [mapped, eq_of_represents distinct inside member represents, Option.getD_some]
  rw [remapEdge, same sourceIn, same targetIn]

/-! ## The report -/

variable {decoders : Decoders}

theorem mergeGraphs_ok {graphs : List (PolicyGraph Document)} {report : MergeReport}
    (merged : mergeGraphs decoders lower graphs = .ok report) :
    report.graph.nodes = (deduplicateNodes lower (graphs.flatMap PolicyGraph.nodes)).uniqueNodes ∧
      report.graph.edges = representatives isSameEdge ((graphs.flatMap PolicyGraph.edges).map
        (remapEdge (deduplicateNodes lower (graphs.flatMap PolicyGraph.nodes)).idMap)) ∧
      detectConflicts decoders lower (report.graph.nodes.filter isObligation) =
        .ok report.conflicts := by
  cases graphs with
  | nil =>
    cases merged
    exact ⟨rfl, rfl, rfl⟩
  | cons first rest =>
    obtain ⟨conflicts, detected, made⟩ := bind_eq_ok.mp merged
    cases made
    exact ⟨rfl, rfl, detected⟩

theorem returns_mergeGraphs {graphs : List (PolicyGraph Document)} :
    Returns (mergeGraphs decoders lower graphs) ↔
      ∀ obl, StandsFor lower (inputObligations graphs) obl → IsText (obl.property "action") := by
  have standing (obl : PolicyEntity Document) : StandsFor lower (inputObligations graphs) obl ↔
        obl ∈ representatives (isNearDuplicate lower) (inputObligations graphs) :=
    mem_representatives_iff.symm
  simp only [standing]
  rw [← @returns_detectConflicts decoders, ← conflicts_mergeGraphs]
  cases mergeGraphs decoders lower graphs with
  | ok report => exact iff_of_true (returns_ok _) (returns_ok _)
  | error exn => exact iff_of_false (not_returns_error _) (not_returns_error _)

end

section

variable (decoders : Decoders) (lower : String → String)

/-- The label that nodes are compared by. -/
def normalLabel (node : PolicyEntity Document) : String := Text.strip (lower node.label)

/-- The report keeps one node for all that it stands for, its edges run between the nodes that are
kept, and merging its graph changes nothing. -/
structure IsConsolidated (nodes : List (PolicyEntity Document)) (report : MergeReport) : Prop where
  obligationsApart : (report.graph.nodes.filter isObligation).Pairwise fun obl other =>
    textSimilarity lower obl.sourceText other.sourceText < dedupThreshold
  othersApart : (report.graph.nodes.filter fun node => !isObligation node).Pairwise
    fun node other =>
      node.entityType ≠ other.entityType ∨ normalLabel lower node ≠ normalLabel lower other
  represented : ∀ node ∈ nodes, ∃ kept ∈ report.graph.nodes,
    kept.entityType = node.entityType ∧ Represents lower kept node
  edgesInside : Among report.graph.nodes report.graph.edges
  edgesApart : report.graph.edges.Pairwise fun edge other => isSameEdge edge other = false
  stable : ∃ again, mergeGraphs decoders lower [report.graph] = .ok again ∧
    again.graph.nodes = report.graph.nodes ∧ again.graph.edges = report.graph.edges ∧
      again.conflicts = report.conflicts

def MergesWell (graphs : List (PolicyGraph Document)) : Prop :=
  ∃ report, mergeGraphs decoders lower graphs = .ok report ∧
    IsConsolidated decoders lower (graphs.flatMap PolicyGraph.nodes) report

def KeysTellTypes (nodes : List (PolicyEntity Document)) : Prop :=
  ∀ node ∈ nodes, ∀ other ∈ nodes, isObligation node = false → isObligation other = false →
    labelKey lower node = labelKey lower other → node.entityType = other.entityType

variable {decoders lower} {nodes : List (PolicyEntity Document)} {node : PolicyEntity Document}

theorem labelKey_eq {node other : PolicyEntity Document}
    (sameType : node.entityType = other.entityType)
    (sameLabel : normalLabel lower node = normalLabel lower other) :
    labelKey lower node = labelKey lower other := by
  rw [labelKey, labelKey, sameType]
  exact congrArg _ sameLabel

theorem entityType_of_represents (told : KeysTellTypes lower nodes)
    {kept : PolicyEntity Document} (keptIn : kept ∈ nodes) (nodeIn : node ∈ nodes)
    (represents : Represents lower kept node) : kept.entityType = node.entityType := by
  rcases represents with rfl | ⟨sameKind, like⟩
  · rfl
  · cases kind : isObligation node with
    | true =>
      rw [kind] at sameKind
      exact (of_decide_eq_true sameKind).trans (of_decide_eq_true kind).symm
    | false =>
      rw [kind] at sameKind like
      exact told kept keptIn node nodeIn sameKind kind (of_decide_eq_true like).symm

theorem uniqueNodes_subset (distinct : (nodes.map (·.id)).Nodup) :
    (deduplicateNodes lower nodes).uniqueNodes ⊆ nodes := by
  rw [(deduplicateNodes_spec distinct).1, List.append_subset]
  exact ⟨List.Subset.trans (representatives_subset _) (List.filter_subset_self _),
    List.Subset.trans (representatives_subset _) (List.filter_subset_self _)⟩

section

variable {graphs : List (PolicyGraph Document)} {report : MergeReport}

theorem isConsolidated_of_merged (distinct : ((graphs.flatMap PolicyGraph.nodes).map (·.id)).Nodup)
    (among : Among (graphs.flatMap PolicyGraph.nodes) (graphs.flatMap PolicyGraph.edges))
    (told : KeysTellTypes lower (graphs.flatMap PolicyGraph.nodes))
    (merged : mergeGraphs decoders lower graphs = .ok report) :
    IsConsolidated decoders lower (graphs.flatMap PolicyGraph.nodes) report := by
  obtain ⟨nodes, edges, detected⟩ := mergeGraphs_ok merged
  have represented := (@deduplicateNodes_spec lower _ distinct).2
  have inside : Among report.graph.nodes report.graph.edges := by
    rw [nodes, edges]
    exact among_remapped represented among
  have apart : report.graph.edges.Pairwise fun edge other => isSameEdge other edge = false := by
    rw [edges]
    exact pairwise_representatives _
  exact {
    obligationsApart := by
      rw [nodes, filter_deduplicateNodes]
      refine (pairwise_representatives _).imp fun {earlier later} differ => ?_
      rw [textSimilarity_comm]
      exact not_le.mp (of_decide_eq_false differ)
    othersApart := by
      rw [nodes, filter_uniqueNodes distinct]
      refine (pairwise_representatives _).imp fun {earlier later} differ => ?_
      rw [← not_and_or]
      exact fun same => of_decide_eq_false differ (labelKey_eq same.1 same.2).symm
    represented := by
      intro node member
      obtain ⟨kept, keptIn, -, represents⟩ := represented node member
      rw [nodes]
      exact ⟨kept, keptIn, entityType_of_represents told (uniqueNodes_subset distinct keptIn) member
        represents, represents⟩
    edgesInside := inside
    edgesApart := apart.imp fun differ => by
      rw [isSameEdge] at differ ⊢
      simpa only [eq_comm] using differ
    stable := by
      have again := @conflicts_mergeGraphs decoders lower [report.graph]
      rw [inputObligations, List.flatMap_singleton, nodes, filter_deduplicateNodes,
        representatives_representatives, ← filter_deduplicateNodes, ← nodes, detected] at again
      obtain ⟨second, mergedAgain, conflicts⟩ := map_eq_ok.mp again
      obtain ⟨nodesAgain, edgesAgain, -⟩ := mergeGraphs_ok mergedAgain
      rw [List.flatMap_singleton] at nodesAgain edgesAgain
      refine ⟨second, mergedAgain, ?_, ?_, conflicts⟩
      · rw [nodesAgain, nodes, deduplicateNodes_deduplicateNodes distinct]
      · have same : report.graph.edges.map
            (remapEdge (deduplicateNodes lower report.graph.nodes).idMap) = report.graph.edges := by
          conv_rhs => rw [← List.map_id report.graph.edges]
          apply List.map_congr_left
          intro edge member
          have ends := inside edge member
          rw [nodes] at ends ⊢
          exact remapEdge_of_kept distinct ends.1 ends.2
        rw [edgesAgain, List.flatMap_singleton, same, representatives_of_pairwise apart] }

theorem keysTellTypes_of_consolidated
    (distinct : ((graphs.flatMap PolicyGraph.nodes).map (·.id)).Nodup)
    (merged : mergeGraphs decoders lower graphs = .ok report)
    (consolidated : IsConsolidated decoders lower (graphs.flatMap PolicyGraph.nodes) report) :
    KeysTellTypes lower (graphs.flatMap PolicyGraph.nodes) := by
  intro node nodeIn other otherIn nodeKind otherKind sameKey
  have kept := (mergeGraphs_ok merged).1
  -- each of the two has a representative with its type, and so with the key of both
  have keyed {item stand : PolicyEntity Document} (kind : isObligation item = false)
      (represents : Represents lower stand item) :
      isObligation stand = false ∧ labelKey lower stand = labelKey lower item := by
    rcases represents with rfl | ⟨sameKind, like⟩
    · exact ⟨kind, rfl⟩
    · rw [kind] at sameKind like
      exact ⟨sameKind, (of_decide_eq_true like).symm⟩
  obtain ⟨first, firstIn, firstType, firstStands⟩ := consolidated.represented node nodeIn
  obtain ⟨second, secondIn, secondType, secondStands⟩ := consolidated.represented other otherIn
  obtain ⟨firstKind, firstKey⟩ := keyed nodeKind firstStands
  obtain ⟨secondKind, secondKey⟩ := keyed otherKind secondStands
  have same : first = second := by
    rw [kept] at firstIn secondIn
    apply eq_of_represents distinct firstIn secondIn
    refine Or.inr ⟨firstKind.trans secondKind.symm, ?_⟩
    rw [secondKind]
    exact decide_eq_true (secondKey.trans (sameKey.symm.trans firstKey.symm))
  rw [← firstType, same, secondType]

end

/-- Graphs with distinct nodes and with edges of their own are merged well exactly when the
obligations that stand for themselves have texts for actions, and no two other nodes have one key
and different types. -/
theorem mergesWell_iff {graphs : List (PolicyGraph Document)}
    (distinct : ((graphs.flatMap PolicyGraph.nodes).map (·.id)).Nodup)
    (own : ∀ graph ∈ graphs, Among graph.nodes graph.edges) :
    MergesWell decoders lower graphs ↔
      (∀ obl, StandsFor lower (inputObligations graphs) obl → IsText (obl.property "action")) ∧
        KeysTellTypes lower (graphs.flatMap PolicyGraph.nodes) := by
  have among : Among (graphs.flatMap PolicyGraph.nodes) (graphs.flatMap PolicyGraph.edges) := by
    intro edge member
    obtain ⟨graph, inside, ownEdge⟩ := List.mem_flatMap.mp member
    have wider {id : String} (named : id ∈ graph.nodes.map (·.id)) :
        id ∈ (graphs.flatMap PolicyGraph.nodes).map (·.id) := by
      obtain ⟨node, nodeIn, rfl⟩ := List.mem_map.mp named
      exact List.mem_map_of_mem (List.mem_flatMap.mpr ⟨graph, inside, nodeIn⟩)
    exact ⟨wider (own graph inside edge ownEdge).1, wider (own graph inside edge ownEdge).2⟩
  rw [← @returns_mergeGraphs lower decoders]
  constructor
  · intro merges
    obtain ⟨report, merged, consolidated⟩ := merges
    exact ⟨⟨report, merged⟩, keysTellTypes_of_consolidated distinct merged consolidated⟩
  · intro condition
    obtain ⟨⟨report, merged⟩, told⟩ := condition
    exact ⟨report, merged, isConsolidated_of_merged distinct among told merged⟩

end

/-- The extraction copies a `null` action of an answer into the properties of a node. -/
def actionlessGraph : PolicyGraph Document where
  tenantId := "tenant"
  documentId := "policy"
  nodes := [{ id := "o1", entityType := "obligation", label := "Review access"
              properties := [("action", .null), ("threshold", .str "90 days")]
              sourceText := "Review access" }]

theorem mergesWell_patches_iff :
    MergesWell AnalysisRun.twoDocuments Text.lower [patchGraph "30 days", patchGraph "14 days"] ↔
      (∀ obl, StandsFor Text.lower (inputObligations [patchGraph "30 days", patchGraph "14 days"])
        obl → IsText (obl.property "action")) ∧
        KeysTellTypes Text.lower
          ([patchGraph "30 days", patchGraph "14 days"].flatMap PolicyGraph.nodes) := by
  apply mergesWell_iff
  · decide
  · intro graph member edge inside
    rcases List.mem_pair.mp member with rfl | rfl <;> cases inside

/-- One action that is `null` makes the merge raise. -/
theorem not_mergesWell_actionless :
    ¬ MergesWell AnalysisRun.twoDocuments Text.lower [actionlessGraph] := by
  intro merges
  obtain ⟨report, merged, -⟩ := merges
  have told := returns_mergeGraphs.mp ⟨report, merged⟩ (actionlessGraph.nodes.head (by decide))
    ⟨[], [], rfl, trivial⟩
  exact told

end Onpremai.Preprocessor
