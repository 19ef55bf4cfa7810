import Onpremai.Library.Collecting
import Onpremai.Preprocessor.PolicyAnalysis

/-!
# Isolation of malformed answers

An answer of the gateway, an entry of it or a field can be malformed.  What should come of a
stage then is what every well-formed entry gives by itself.  The stages give it exactly when
nothing raises where other entries are lost with it.
-/

namespace Onpremai.Preprocessor

open Onpremai.Library
open Onpremai.Observer (PyError FloatValue)

def fieldOf (fields : List (String × Document)) (key : String) (default : Document) : Document :=
  (fields.lookup key).getD default

theorem get_obj (fields : List (String × Document)) (key : String) (default : Document) :
    Observer.LogValue.get (.obj fields) key default = .ok (fieldOf fields key default) := rfl

def IsText : Document → Prop
  | .str _ => True
  | _ => False

def entriesIn (document : Document) (field : String) : List Document :=
  given (entriesOf document field)

theorem returns_validatedText {value : Document} :
    Returns (validatedText value) ↔ IsText value := by
  cases value with
  | str text => exact iff_of_true (returns_ok text) trivial
  | _ => exact iff_of_false (not_returns_error _) id

theorem forall_mem_zipIdx_fst {entries : List Document} {holds : Document → Prop} :
    (∀ entry ∈ entries.zipIdx, holds entry.1) ↔ ∀ entry ∈ entries, holds entry := by
  rw [← List.forall_mem_map, List.zipIdx_map_fst]

def graphOf (part : Except PyError GraphElements) :
    Except PyError (List (PolicyEntity Document) × List (PolicyRelationship Document)) := do
  let elements ← part
  let nodes ← elements.nodes.mapM RawNode.validate
  return (nodes, elements.edges)

def validNodes (part : Except PyError GraphElements) : List (PolicyEntity Document) :=
  given ((graphOf part).map Prod.fst)

def validEdges (part : Except PyError GraphElements) : List (PolicyRelationship Document) :=
  given ((graphOf part).map Prod.snd)

/-- The parts that a loop makes, joined. -/
def joinAll {α : Type} (body : α → Except PyError GraphElements) (items : List α) :
    Except PyError GraphElements := do
  let made ← items.mapM body
  return .join made

section

variable {α : Type} {body : α → Except PyError GraphElements} {items : List α}

theorem returns_validate {node : RawNode} :
    Returns node.validate ↔ IsText node.label ∧ IsText node.sourceText := by
  rw [RawNode.validate, ← returns_validatedText, ← returns_validatedText]
  exact returns_bind_iff fun label _ => returns_bind_pure

theorem returns_graphOf {part : Except PyError GraphElements} : Returns (graphOf part) ↔
      ∃ elements, part = .ok elements ∧
        ∀ node ∈ elements.nodes, IsText node.label ∧ IsText node.sourceText := by
  rw [graphOf, returns_bind]
  apply exists_congr
  intro elements
  rw [returns_bind_pure, returns_mapM]
  simp only [returns_validate]

theorem graphOf_append_eq_ok {first others : GraphElements}
    {graph : List (PolicyEntity Document) × List (PolicyRelationship Document)} :
    graphOf (.ok { nodes := first.nodes ++ others.nodes, edges := first.edges ++ others.edges }) =
        .ok graph ↔
      ∃ left right, graphOf (.ok first) = .ok left ∧ graphOf (.ok others) = .ok right ∧
        graph = (left.1 ++ right.1, left.2 ++ right.2) := by
  have whole (elements : GraphElements) : graphOf (.ok elements) =
      elements.nodes.mapM RawNode.validate >>= fun nodes => pure (nodes, elements.edges) := rfl
  rw [whole, whole, whole, List.mapM_append]
  cases first.nodes.mapM RawNode.validate with
  | error exn =>
    apply iff_of_false
    · intro ran
      cases ran
    · intro parts
      obtain ⟨left, right, ran, -⟩ := parts
      cases ran
  | ok firstNodes =>
    cases others.nodes.mapM RawNode.validate with
    | error exn =>
      apply iff_of_false
      · intro ran
        cases ran
      · intro parts
        obtain ⟨left, right, -, ran, -⟩ := parts
        cases ran
    | ok otherNodes =>
      constructor
      · intro ran
        cases ran
        exact ⟨(firstNodes, first.edges), (otherNodes, others.edges), rfl, rfl, rfl⟩
      · intro parts
        obtain ⟨left, right, leftRan, rightRan, same⟩ := parts
        cases leftRan
        cases rightRan
        exact congrArg Except.ok same.symm

theorem graphOf_joinAll_cons_eq_ok {item : α} {rest : List α}
    {graph : List (PolicyEntity Document) × List (PolicyRelationship Document)} :
    graphOf (joinAll body (item :: rest)) = .ok graph ↔
      ∃ left right, graphOf (body item) = .ok left ∧ graphOf (joinAll body rest) = .ok right ∧
        graph = (left.1 ++ right.1, left.2 ++ right.2) := by
  rw [joinAll, joinAll, List.mapM_cons]
  cases body item with
  | error exn =>
    apply iff_of_false
    · intro ran
      cases ran
    · intro parts
      obtain ⟨left, right, ran, -⟩ := parts
      cases ran
  | ok first =>
    cases rest.mapM body with
    | error exn =>
      apply iff_of_false
      · intro ran
        cases ran
      · intro parts
        obtain ⟨left, right, -, ran, -⟩ := parts
        cases ran
    | ok made => exact @graphOf_append_eq_ok first (.join made) graph

theorem returns_graphOf_joinAll :
    Returns (graphOf (joinAll body items)) ↔ ∀ item ∈ items, Returns (graphOf (body item)) := by
  induction items with
  | nil => exact iff_of_true ⟨([], []), rfl⟩ (List.forall_mem_nil _)
  | cons item rest ih =>
    rw [List.forall_mem_cons, ← ih]
    constructor
    · intro returns
      obtain ⟨graph, ran⟩ := returns
      obtain ⟨left, right, leftRan, rightRan, -⟩ := graphOf_joinAll_cons_eq_ok.mp ran
      exact ⟨⟨left, leftRan⟩, ⟨right, rightRan⟩⟩
    · intro parts
      obtain ⟨⟨left, leftRan⟩, ⟨right, rightRan⟩⟩ := parts
      exact ⟨_, graphOf_joinAll_cons_eq_ok.mpr ⟨left, right, leftRan, rightRan, rfl⟩⟩

theorem graphOf_joinAll (every : ∀ item ∈ items, Returns (graphOf (body item))) :
    graphOf (joinAll body items) = .ok (items.flatMap fun item => validNodes (body item),
        items.flatMap fun item => validEdges (body item)) := by
  induction items with
  | nil => rfl
  | cons item rest ih =>
    rw [List.forall_mem_cons] at every
    obtain ⟨left, ran⟩ := every.1
    rw [graphOf_joinAll_cons_eq_ok]
    refine ⟨left, _, ran, ih every.2, ?_⟩
    rw [List.flatMap_cons, List.flatMap_cons, validNodes, validEdges, ran]
    rfl

end

/-! ## Extraction -/

/-- An entry that an extraction can use.  A subject makes a node of its own, unless it is empty
or another false value. -/
def EntryKind.Accepts : EntryKind → Document → Prop
  | .obligation, .obj fields =>
    IsText (fieldOf fields "text" (.str "")) ∧ ((fieldOf fields "subject" (.str "")).truthy = true →
        IsText (fieldOf fields "subject" (.str "")))
  | .term, .obj fields =>
    IsText (fieldOf fields "term" (.str "")) ∧ IsText (fieldOf fields "definition" (.str ""))
  | .threshold, .obj _ => True
  | .role, _ => True
  | .control, _ => True
  | _, _ => False

/-- The answer is a dictionary whose lists can be walked, and every entry of them can be used. -/
def ExtractionReadable (extracted : Document) : Prop :=
  ∀ kind : EntryKind, ∃ entries, entriesOf extracted kind.field = .ok entries ∧
    ∀ entry ∈ entries, kind.Accepts entry

section

variable (decoders : Decoders) (uuid : IdSite → String) (call : Nat) (sectionId : String)

variable {decoders uuid call sectionId}

theorem returns_graphOf_of_nodes {elements : GraphElements} {condition : Prop}
    (valid : (∀ node ∈ elements.nodes, IsText node.label ∧ IsText node.sourceText) ↔ condition) :
    Returns (graphOf (.ok elements)) ↔ condition := by
  rw [returns_graphOf, ← valid]
  constructor
  · intro made
    obtain ⟨other, same, texts⟩ := made
    cases same
    exact texts
  · intro texts
    exact ⟨elements, rfl, texts⟩

theorem not_returns_graphOf_error (exn : PyError) : ¬ Returns (graphOf (.error exn)) :=
  not_returns_error exn

theorem returns_obligation {obl : Document} {position : Nat} :
    Returns (graphOf (obligationElements uuid call sectionId obl position)) ↔
      EntryKind.obligation.Accepts obl := by
  cases obl with
  | obj fields =>
    simp only [obligationElements, EntryKind.Accepts, get_obj, bind, Except.bind]
    cases fieldOf fields "text" (.str "") with
    | str text =>
      simp only [sliceTo]
      cases truth : (fieldOf fields "subject" (.str "")).truthy with
      | true =>
        apply returns_graphOf_of_nodes
        rw [List.forall_mem_cons, List.forall_mem_singleton]
        constructor
        · intro texts
          exact ⟨trivial, fun _ => texts.2.1⟩
        · intro accepted
          exact ⟨⟨trivial, trivial⟩, accepted.2 rfl, trivial⟩
      | false =>
        apply returns_graphOf_of_nodes
        rw [List.forall_mem_singleton]
        apply iff_of_true
        · exact ⟨trivial, trivial⟩
        · exact ⟨trivial, fun absent => by cases absent⟩
    | arr items =>
      -- the slice of a list is a list, which the validation of the label rejects
      apply iff_of_false
      · intro returns
        obtain ⟨elements, made, texts⟩ := returns_graphOf.mp returns
        simp only [sliceTo] at made
        split at made
        · cases made
          exact (texts _ List.mem_cons_self).1
        · cases made
          exact (texts _ List.mem_cons_self).1
      · intro accepted
        exact accepted.1
    | _ => exact iff_of_false (not_returns_graphOf_error _) fun accepted => accepted.1
  | _ => exact iff_of_false (not_returns_graphOf_error _) id

theorem returns_term {termEntry : Document} {position : Nat} :
    Returns (graphOf (termElements uuid call sectionId termEntry position)) ↔
      EntryKind.term.Accepts termEntry := by
  cases termEntry with
  | obj fields =>
    apply returns_graphOf_of_nodes
    rw [List.forall_mem_singleton]
    rfl
  | _ => exact iff_of_false (not_returns_graphOf_error _) id

theorem returns_threshold {thresh : Document} {position : Nat} :
    Returns (graphOf (thresholdElements decoders uuid call sectionId thresh position)) ↔
      EntryKind.threshold.Accepts thresh := by
  cases thresh with
  | obj fields =>
    apply returns_graphOf_of_nodes
    rw [List.forall_mem_singleton]
    exact iff_of_true ⟨trivial, trivial⟩ trivial
  | _ => exact iff_of_false (not_returns_graphOf_error _) id

theorem returns_entry (kind : EntryKind) {entry : Document × Nat} :
    Returns (graphOf (entryElements decoders uuid call sectionId kind entry)) ↔
      kind.Accepts entry.1 := by
  cases kind with
  | obligation => exact returns_obligation
  | term => exact returns_term
  | threshold => exact returns_threshold
  | role =>
    apply returns_graphOf_of_nodes
    rw [roleElements]
    cases namedText? entry.1 with
    | none => exact iff_of_true (List.forall_mem_nil _) trivial
    | some name =>
      rw [List.forall_mem_singleton]
      exact iff_of_true ⟨trivial, trivial⟩ trivial
  | control =>
    apply returns_graphOf_of_nodes
    rw [controlElements]
    cases namedText? entry.1 with
    | none => exact iff_of_true (List.forall_mem_nil _) trivial
    | some name =>
      rw [List.forall_mem_singleton]
      exact iff_of_true ⟨trivial, trivial⟩ trivial

section

variable {extracted : Document} {kind : EntryKind}

theorem listElements_eq {entries : List Document}
    (walked : entriesOf extracted kind.field = .ok entries) :
    listElements decoders uuid call sectionId extracted kind =
      joinAll (entryElements decoders uuid call sectionId kind) entries.zipIdx := by
  rw [listElements, walked]
  rfl

theorem returns_list :
    Returns (graphOf (listElements decoders uuid call sectionId extracted kind)) ↔
      ∃ entries, entriesOf extracted kind.field = .ok entries ∧
        ∀ entry ∈ entries, kind.Accepts entry := by
  cases walked : entriesOf extracted kind.field with
  | error exn =>
    rw [listElements, walked]
    apply iff_of_false
    · exact not_returns_graphOf_error exn
    · intro made
      obtain ⟨entries, same, -⟩ := made
      cases same
  | ok entries =>
    rw [listElements_eq walked, returns_graphOf_joinAll]
    simp only [returns_entry]
    rw [@forall_mem_zipIdx_fst entries kind.Accepts]
    constructor
    · intro accepted
      exact ⟨entries, rfl, accepted⟩
    · intro made
      obtain ⟨other, same, accepted⟩ := made
      cases same
      exact accepted

end

theorem EntryKind.mem_all (kind : EntryKind) : kind ∈ EntryKind.all := by
  cases kind with
  | _ => decide

theorem returns_buildGraphElements {extracted : Document} :
    Returns (graphOf (buildGraphElements decoders uuid call sectionId extracted)) ↔
      ExtractionReadable extracted := by
  have loop : buildGraphElements decoders uuid call sectionId extracted =
      joinAll (listElements decoders uuid call sectionId extracted) EntryKind.all := rfl
  rw [loop, returns_graphOf_joinAll]
  simp only [returns_list]
  constructor
  · intro every kind
    exact every kind kind.mem_all
  · intro readable kind _
    exact readable kind

end

section

variable (decoders : Decoders) (uuid : IdSite → String) (complete : LlmGateway)
  (documentName : String) (sections : List PolicySection) (tenantId documentId : String)

/-- What the entries of an answer make by themselves; `part` reads the nodes or the edges. -/
def answerParts {γ : Type} (part : Except PyError GraphElements → List γ) (call : Nat)
    (sectionId : String) (extracted : Document) : List γ :=
  EntryKind.all.flatMap fun kind =>
    (entriesIn extracted kind.field).zipIdx.flatMap fun entry =>
      part (entryElements decoders uuid call sectionId kind entry)

def chunkParts {γ : Type} (part : Except PyError GraphElements → List γ) (chunk : Chunk × Nat) :
    List γ :=
  match extractChunk decoders complete documentName chunk.1 chunk.2 with
  | .ok extracted => answerParts decoders uuid part chunk.2 chunk.1.sectionId extracted
  | .error _ => []

/-- The extraction returns the graph of all that the entries of all answers make by
themselves. -/
def ExtractionIsolates : Prop :=
  ∃ graph, extractFromSections decoders uuid complete documentName sections tenantId documentId =
      .ok graph ∧
    graph.nodes = (chunksOf sections).zipIdx.flatMap
      (chunkParts decoders uuid complete documentName validNodes) ∧
    graph.edges = (chunksOf sections).zipIdx.flatMap
      (chunkParts decoders uuid complete documentName validEdges)

variable {decoders uuid complete documentName sections tenantId documentId}

section

variable {α : Type} {body : α → Except PyError GraphElements} {items : List α}

theorem validNodes_joinAll (every : ∀ item ∈ items, Returns (graphOf (body item))) :
    validNodes (joinAll body items) = items.flatMap fun item => validNodes (body item) := by
  rw [validNodes, graphOf_joinAll every]
  rfl

theorem validEdges_joinAll (every : ∀ item ∈ items, Returns (graphOf (body item))) :
    validEdges (joinAll body items) = items.flatMap fun item => validEdges (body item) := by
  rw [validEdges, graphOf_joinAll every]
  rfl

end

def ReadsLoops {γ : Type} (part : Except PyError GraphElements → List γ) : Prop :=
  ∀ (α : Type) (body : α → Except PyError GraphElements) (items : List α),
    (∀ item ∈ items, Returns (graphOf (body item))) →
      part (joinAll body items) = items.flatMap fun item => part (body item)

section

variable {γ : Type} {part : Except PyError GraphElements → List γ}

theorem part_list (reads : ReadsLoops part) {call : Nat} {sectionId : String} {extracted : Document}
    {kind : EntryKind}
    (returns : Returns (graphOf (listElements decoders uuid call sectionId extracted kind))) :
    part (listElements decoders uuid call sectionId extracted kind) =
      (entriesIn extracted kind.field).zipIdx.flatMap fun entry =>
        part (entryElements decoders uuid call sectionId kind entry) := by
  obtain ⟨entries, walked, -⟩ := returns_list.mp returns
  rw [listElements_eq walked] at returns ⊢
  rw [reads _ _ _ (returns_graphOf_joinAll.mp returns), entriesIn, walked, given_ok]

theorem part_answer
    (reads : ReadsLoops part) {call : Nat} {sectionId : String} {extracted : Document}
    (returns : Returns (graphOf (buildGraphElements decoders uuid call sectionId extracted))) :
    part (buildGraphElements decoders uuid call sectionId extracted) =
      answerParts decoders uuid part call sectionId extracted := by
  have loop : buildGraphElements decoders uuid call sectionId extracted =
      joinAll (listElements decoders uuid call sectionId extracted) EntryKind.all := rfl
  rw [loop] at returns ⊢
  have lists := returns_graphOf_joinAll.mp returns
  rw [reads _ _ _ lists, answerParts]
  exact List.flatMap_congr fun kind member => part_list reads (lists kind member)

theorem part_chunk (reads : ReadsLoops part) {chunk : Chunk × Nat}
    (returns : Returns (graphOf (chunkElements decoders uuid complete documentName chunk))) :
    part (chunkElements decoders uuid complete documentName chunk) =
      chunkParts decoders uuid complete documentName part chunk := by
  rw [chunkElements] at returns ⊢
  rw [chunkParts]
  cases answered : extractChunk decoders complete documentName chunk.1 chunk.2 with
  | ok extracted =>
    rw [answered] at returns
    exact part_answer reads returns
  | error error => exact reads Empty (fun item => item.elim) [] (List.forall_mem_nil _)

end

theorem extractFromSections_eq :
    extractFromSections decoders uuid complete documentName sections tenantId documentId =
      (graphOf (joinAll (chunkElements decoders uuid complete documentName)
        (chunksOf sections).zipIdx)).map fun parts =>
          { tenantId, documentId, documentName, nodes := parts.1, edges := parts.2 } := by
  rw [extractFromSections, joinAll]
  cases (chunksOf sections).zipIdx.mapM (chunkElements decoders uuid complete documentName) with
  | error exn => rfl
  | ok made =>
    have whole : graphOf (.ok (.join made)) =
        (GraphElements.join made).nodes.mapM RawNode.validate >>= fun nodes =>
          pure (nodes, (GraphElements.join made).edges) := rfl
    change ((GraphElements.join made).nodes.mapM RawNode.validate >>= _) =
      (graphOf (.ok (.join made))).map _
    rw [whole]
    cases (GraphElements.join made).nodes.mapM RawNode.validate with
    | error exn => rfl
    | ok nodes => rfl

theorem extractionIsolates_iff :
    ExtractionIsolates decoders uuid complete documentName sections tenantId documentId ↔
      ∀ chunk ∈ (chunksOf sections).zipIdx, ∀ extracted,
        extractChunk decoders complete documentName chunk.1 chunk.2 = .ok extracted →
          ExtractionReadable extracted := by
  have chunks : (∀ chunk ∈ (chunksOf sections).zipIdx,
      Returns (graphOf (chunkElements decoders uuid complete documentName chunk))) ↔
      ∀ chunk ∈ (chunksOf sections).zipIdx, ∀ extracted,
        extractChunk decoders complete documentName chunk.1 chunk.2 = .ok extracted →
          ExtractionReadable extracted := by
    apply forall₂_congr
    intro chunk _
    rw [chunkElements]
    cases extractChunk decoders complete documentName chunk.1 chunk.2 with
    | ok extracted =>
      rw [returns_buildGraphElements]
      constructor
      · intro readable other same
        cases same
        exact readable
      · intro readable
        exact readable extracted rfl
    | error error =>
      apply iff_of_true
      · exact ⟨([], []), rfl⟩
      · intro extracted same
        cases same
  rw [← chunks, ExtractionIsolates, extractFromSections_eq]
  constructor
  · intro isolates
    obtain ⟨graph, ran, -⟩ := isolates
    obtain ⟨parts, made, -⟩ := map_eq_ok.mp ran
    exact returns_graphOf_joinAll.mp ⟨parts, made⟩
  · intro every
    rw [graphOf_joinAll every]
    refine ⟨_, rfl, ?_, ?_⟩
    · exact List.flatMap_congr fun chunk member =>
        part_chunk (fun _ _ _ => validNodes_joinAll) (every chunk member)
    · exact List.flatMap_congr fun chunk member =>
        part_chunk (fun _ _ _ => validEdges_joinAll) (every chunk member)

end

/-! ## Mapping -/

section

variable (decoders : Decoders) (framework : String) (batch : List (PolicyEntity Document))

def NamesControl (controlIds : Document) : Prop :=
  ∃ ids, itemsOf controlIds = .ok ids ∧ ∃ ctrlId ∈ ids, (namedText? ctrlId).isSome = true

/-- The confidence of a mapping entry. -/
def confidenceOf (fields : List (String × Document)) : Document :=
  fieldOf fields "confidence" (.float (.finite (8 / 10)))

/-- The obligation that a mapping entry is about. -/
def obligationOf (fields : List (String × Document)) : Option (PolicyEntity Document) :=
  obligationAt batch (fieldOf fields "obligation_index" (.int (-1)))

def MappingReadable : Document → Prop
  | .obj fields =>
    (obligationOf batch fields).isSome = true →
      Returns (itemsOf (fieldOf fields "control_ids" (.arr []))) ∧
        (NamesControl (fieldOf fields "control_ids" (.arr [])) →
          Returns (decoders.floatOf (confidenceOf fields)))
  | _ => False

def MapsControl : Document → Prop
  | .obj fields =>
    (obligationOf batch fields).isSome = true ∧
      NamesControl (fieldOf fields "control_ids" (.arr [])) ∧
        Returns (decoders.floatOf (confidenceOf fields))
  | _ => False

variable {decoders framework batch}

theorem entryMappings_obj (fields : List (String × Document)) :
    entryMappings decoders framework batch (.obj fields) =
      (obligationOf batch fields).elim (.ok []) fun obligation =>
        itemsOf (fieldOf fields "control_ids" (.arr [])) >>=
          collect (controlMapping decoders framework obligation (confidenceOf fields)) := by
  simp only [entryMappings, get_obj, ok_bind, obligationOf]
  cases obligationAt batch (fieldOf fields "obligation_index" (.int (-1))) with
  | none => rfl
  | some obligation => rfl

section

variable {obligation : PolicyEntity Document}

theorem returns_controlMapping {confidence ctrlId : Document} :
    Returns (controlMapping decoders framework obligation confidence ctrlId) ↔
      ((namedText? ctrlId).isSome = true → Returns (decoders.floatOf confidence)) := by
  rw [controlMapping]
  cases namedText? ctrlId with
  | none => exact iff_of_true (returns_ok _) (fun named => by cases named)
  | some controlId =>
    rw [returns_bind_pure]
    exact (imp_iff_right rfl).symm

theorem given_controlMapping {confidence ctrlId : Document} :
    given (controlMapping decoders framework obligation confidence ctrlId) = [] ↔
      ¬ ((namedText? ctrlId).isSome = true ∧ Returns (decoders.floatOf confidence)) := by
  rw [controlMapping]
  cases namedText? ctrlId with
  | none => exact iff_of_true rfl (fun named => by cases named.1)
  | some controlId =>
    cases decoders.floatOf confidence with
    | ok value =>
      apply iff_of_false
      · exact List.cons_ne_nil _ _
      · exact not_not_intro ⟨rfl, returns_ok value⟩
    | error exn => exact iff_of_true rfl (fun named => not_returns_error exn named.2)

theorem returns_controls {confidence controlIds : Document} : Returns (itemsOf controlIds >>=
        collect (controlMapping decoders framework obligation confidence)) ↔
      Returns (itemsOf controlIds) ∧
        (NamesControl controlIds → Returns (decoders.floatOf confidence)) := by
  apply returns_bind_iff
  intro ids walked
  simp only [returns_collect, returns_controlMapping]
  constructor
  · intro every named
    obtain ⟨others, same, ctrlId, member, isText⟩ := named
    cases walked.symm.trans same
    exact every ctrlId member isText
  · intro number ctrlId member isText
    exact number ⟨ids, walked, ctrlId, member, isText⟩

theorem given_controls {confidence controlIds : Document} : given (itemsOf controlIds >>=
        collect (controlMapping decoders framework obligation confidence)) = [] ↔
      ¬ (NamesControl controlIds ∧ Returns (decoders.floatOf confidence)) := by
  cases walked : itemsOf controlIds with
  | error exn =>
    apply iff_of_true rfl
    intro named
    obtain ⟨⟨ids, same, -⟩, -⟩ := named
    cases walked.symm.trans same
  | ok ids =>
    change given (collect _ ids) = [] ↔ _
    by_cases number : Returns (decoders.floatOf confidence)
    · have every : ∀ ctrlId ∈ ids,
          Returns (controlMapping decoders framework obligation confidence ctrlId) :=
        fun _ _ => returns_controlMapping.mpr fun _ => number
      rw [collect_of_returns every, given_ok, List.flatMap_eq_nil_iff]
      simp only [given_controlMapping, number, and_true]
      constructor
      · intro none named
        obtain ⟨others, same, ctrlId, member, isText⟩ := named
        cases walked.symm.trans same
        exact none ctrlId member isText
      · intro none ctrlId member isText
        exact none ⟨ids, walked, ctrlId, member, isText⟩
    · apply iff_of_true
      · have within := @given_collect_sublist _ _ _
          (controlMapping decoders framework obligation confidence) ids
        rw [List.flatMap_eq_nil_iff.mpr] at within
        · exact List.sublist_nil.mp within
        · intro ctrlId _
          exact given_controlMapping.mpr fun both => number both.2
      · exact fun both => number both.2

end

theorem returns_entryMappings {mappingEntry : Document} :
    Returns (entryMappings decoders framework batch mappingEntry) ↔
      MappingReadable decoders batch mappingEntry := by
  cases mappingEntry with
  | obj fields =>
    rw [entryMappings_obj, MappingReadable]
    cases obligationOf batch fields with
    | none => exact iff_of_true (returns_ok _) (fun named => by cases named)
    | some obligation => exact returns_controls.trans (imp_iff_right rfl).symm
  | _ => exact iff_of_false (not_returns_error _) id

theorem given_entryMappings {mappingEntry : Document} :
    given (entryMappings decoders framework batch mappingEntry) = [] ↔
      ¬ MapsControl decoders batch mappingEntry := by
  cases mappingEntry with
  | obj fields =>
    rw [entryMappings_obj, MapsControl]
    cases obligationOf batch fields with
    | none => exact iff_of_true rfl (fun maps => by cases maps.1)
    | some obligation => exact given_controls.trans (not_congr (and_iff_right rfl).symm)
  | _ => exact iff_of_true rfl id

end

section

variable (decoders : Decoders) (framework : String) (complete : LlmGateway)
  (obligations : List (PolicyEntity Document))

def answerMappings (batch : List (PolicyEntity Document) × Nat) : List ControlMapping :=
  match askMapping decoders framework complete batch.1 batch.2 with
  | .ok parsed =>
    (entriesIn parsed "mappings").flatMap fun mappingEntry =>
      given (entryMappings decoders framework batch.1 mappingEntry)
  | .error _ => []

def MappingIsolates : Prop := mapObligations decoders framework complete obligations =
    (batchesOf obligations).zipIdx.flatMap (answerMappings decoders framework complete)

def AnswerMaps (batch : List (PolicyEntity Document)) (parsed : Document) : Prop :=
  (∀ mappingEntry ∈ entriesIn parsed "mappings", MappingReadable decoders batch mappingEntry) ∨
    ∀ mappingEntry ∈ entriesIn parsed "mappings", ¬ MapsControl decoders batch mappingEntry

variable {decoders framework complete obligations}

theorem given_buildMappings {batch : List (PolicyEntity Document)} {parsed : Document} :
    given (buildMappings decoders framework batch parsed) =
      given (collect (entryMappings decoders framework batch) (entriesIn parsed "mappings")) := by
  rw [buildMappings, entriesIn]
  cases entriesOf parsed "mappings" with
  | ok entries => rfl
  | error exn => rfl

section

variable {batch : List (PolicyEntity Document) × Nat}

theorem batchMappings_of_error {error : AnalysisError}
    (failed : askMapping decoders framework complete batch.1 batch.2 = .error error) :
    batchMappings decoders framework complete batch = [] := by
  rw [batchMappings, mapBatch, failed]
  rfl

theorem batchMappings_of_ok {parsed : Document}
    (answered : askMapping decoders framework complete batch.1 batch.2 = .ok parsed) :
    batchMappings decoders framework complete batch =
      given (collect (entryMappings decoders framework batch.1) (entriesIn parsed "mappings")) := by
  rw [batchMappings, mapBatch, answered, ok_bind, ← given_buildMappings]
  cases buildMappings decoders framework batch.1 parsed with
  | ok mappings => rfl
  | error exn => rfl

theorem answerMappings_of_ok {parsed : Document}
    (answered : askMapping decoders framework complete batch.1 batch.2 = .ok parsed) :
    answerMappings decoders framework complete batch =
      (entriesIn parsed "mappings").flatMap fun mappingEntry =>
        given (entryMappings decoders framework batch.1 mappingEntry) := by
  rw [answerMappings, answered]

end

theorem batchMappings_sublist (batch : List (PolicyEntity Document) × Nat) :
    (batchMappings decoders framework complete batch).Sublist
      (answerMappings decoders framework complete batch) := by
  cases answered : askMapping decoders framework complete batch.1 batch.2 with
  | ok parsed =>
    rw [batchMappings_of_ok answered, answerMappings_of_ok answered]
    exact given_collect_sublist
  | error error =>
    rw [batchMappings_of_error answered]
    exact List.nil_sublist _

theorem batchMappings_eq_iff {batch : List (PolicyEntity Document) × Nat} :
    batchMappings decoders framework complete batch =
        answerMappings decoders framework complete batch ↔
      ∀ parsed, askMapping decoders framework complete batch.1 batch.2 = .ok parsed →
        AnswerMaps decoders batch.1 parsed := by
  cases answered : askMapping decoders framework complete batch.1 batch.2 with
  | error error =>
    apply iff_of_true
    · rw [batchMappings_of_error answered, answerMappings, answered]
    · intro parsed same
      cases same
  | ok parsed =>
    rw [batchMappings_of_ok answered, answerMappings_of_ok answered, given_collect_eq_iff]
    simp only [returns_entryMappings, given_entryMappings]
    constructor
    · intro maps other same
      cases same
      exact maps
    · intro maps
      exact maps parsed rfl

theorem mappingIsolates_iff : MappingIsolates decoders framework complete obligations ↔
      ∀ batch ∈ (batchesOf obligations).zipIdx, ∀ parsed,
        askMapping decoders framework complete batch.1 batch.2 = .ok parsed →
          AnswerMaps decoders batch.1 parsed := by
  rw [MappingIsolates, mapObligations,
    flatMap_eq_flatMap_iff fun batch _ => batchMappings_sublist batch]
  simp only [batchMappings_eq_iff]

end

/-! ## Generation -/

section

variable (decoders : Decoders) (uuid : Nat → String)

/-- The fields of a criterion that the record and its normalization accept. -/
structure CriterionFields (fields : List (String × Document)) : Prop where
  id : IsText (fieldOf fields "id" (.str ""))
  category : IsText (fieldOf fields "category" (.str "implementation"))
  question : IsText (fieldOf fields "question" (.str ""))
  evidenceType : IsText (fieldOf fields "evidence_type" (.str "document"))
  passCondition : IsText (fieldOf fields "pass_condition" (.str ""))
  failCondition : IsText (fieldOf fields "fail_condition" (.str ""))
  weight : decoders.floatOf (fieldOf fields "weight" (.float (.finite (2 / 10)))) ≠
    .error .overflowError
  checkType : fieldOf fields "check_type" .null = .null ∨ IsText (fieldOf fields "check_type" .null)
  checkParams : ∃ params, fieldOf fields "check_params" (.obj []) = .obj params
  policySource : IsText (fieldOf fields "policy_source" (.str ""))

/-- An entry from which a criterion can be made. -/
def CriterionReadable : Document → Prop
  | .obj fields => CriterionFields decoders fields
  | _ => False

def CriteriaReadable : Document → Prop
  | .obj fields =>
    (∃ entries, itemsOf (fieldOf fields "criteria" (.arr [])) = .ok entries ∧
      ∀ entry ∈ entries, CriterionReadable decoders entry) ∧
    IsText (fieldOf fields "control_objective" (.str ""))
  | _ => False

def answerCriteria (content : String) : List (GeneratedCriterion Document) :=
  match parseCriteriaResponse decoders content with
  | .ok parsed =>
    (entriesIn parsed "criteria").zipIdx.flatMap fun entry =>
      given ((criterionOf decoders uuid entry).map fun criterion => [criterion])
  | .error _ => []

def GenerationIsolates (task : GenerationTask) (content : String) : Prop :=
  ∃ criteria, task.generateForControl decoders uuid (fun _ => .ok content) = .ok criteria ∧
    criteria.criteria = normalizeWeights (answerCriteria decoders uuid content)

variable {decoders uuid}

theorem isText_fieldOf_default {fields : List (String × Document)} {key first second : String} :
    IsText (fieldOf fields key (.str first)) ↔ IsText (fieldOf fields key (.str second)) := by
  rw [fieldOf, fieldOf]
  cases fields.lookup key with
  | none => exact iff_of_true trivial trivial
  | some value => rfl

theorem returns_loweredText {value : Document} : Returns (loweredText value) ↔ IsText value := by
  cases value with
  | str text => exact iff_of_true (returns_ok _) trivial
  | _ => exact iff_of_false (not_returns_error _) id

theorem returns_validateCategory {category : Document} :
    Returns (validateCategory category) ↔ IsText category := by
  rw [validateCategory, returns_bind_pure, returns_loweredText]

theorem returns_validateEvidenceType {evidenceType : Document} :
    Returns (validateEvidenceType evidenceType) ↔ IsText evidenceType := by
  rw [validateEvidenceType, returns_bind_pure, returns_loweredText]

theorem returns_validatedOptionalText {value : Document} :
    Returns (validatedOptionalText value) ↔ value = .null ∨ IsText value := by
  cases value with
  | null => exact iff_of_true (returns_ok _) (.inl rfl)
  | str text => exact iff_of_true (returns_ok _) (.inr trivial)
  | _ =>
    apply iff_of_false
    · exact not_returns_error _
    · intro allowed
      cases allowed with
      | inl same => cases same
      | inr isText => exact isText

theorem returns_validatedDict {value : Document} :
    Returns (validatedDict value) ↔ ∃ params, value = .obj params := by
  cases value with
  | obj fields => exact iff_of_true (returns_ok _) ⟨fields, rfl⟩
  | _ =>
    apply iff_of_false
    · exact not_returns_error _
    · intro made
      obtain ⟨params, same⟩ := made
      cases same

theorem raisesOnly_floatOf (value : Document) :
    RaisesOnly (fun exn => exn = .overflowError ∨ exn = .typeError ∨ exn = .valueError)
      (decoders.floatOf value) := by
  cases value with
  | int value =>
    rw [Observer.LogDecoders.floatOf]
    split
    · exact raisesOnly_error (.inl rfl)
    · exact raisesOnly_ok _ _
  | bool value => exact raisesOnly_ok _ _
  | float value => exact raisesOnly_ok _ _
  | str text =>
    rw [Observer.LogDecoders.floatOf]
    split
    · exact raisesOnly_ok _ _
    · exact raisesOnly_error (.inr (.inr rfl))
  | _ => exact raisesOnly_error (.inr (.inl rfl))

theorem returns_clampWeight {weight : Document} :
    Returns (clampWeight decoders weight) ↔ decoders.floatOf weight ≠ .error .overflowError := by
  rw [clampWeight]
  cases converted : decoders.floatOf weight with
  | ok value => exact iff_of_true (returns_ok _) (fun same => by cases same)
  | error exn =>
    rcases raisesOnly_floatOf weight exn converted with same | same | same
    · rw [same]
      exact iff_of_false (not_returns_error _) (fun other => other rfl)
    · rw [same]
      exact iff_of_true (returns_ok _) (fun same => by cases same)
    · rw [same]
      exact iff_of_true (returns_ok _) (fun same => by cases same)

theorem returns_criterionOf {entry : Document × Nat} :
    Returns (criterionOf decoders uuid entry) ↔ CriterionReadable decoders entry.1 := by
  obtain ⟨raw, position⟩ := entry
  cases raw with
  | obj fields =>
    have steps : Returns (criterionOf decoders uuid (.obj fields, position)) ↔
        Returns (validateCategory (fieldOf fields "category" (.str "implementation"))) ∧
        Returns (validateEvidenceType (fieldOf fields "evidence_type" (.str "document"))) ∧
        Returns (clampWeight decoders
          (fieldOf fields "weight" (.float (.finite (2 / 10))))) ∧
        Returns (validatedText (fieldOf fields "id" (.str (uuid position)))) ∧
        Returns (validatedText (fieldOf fields "question" (.str ""))) ∧
        Returns (validatedText (fieldOf fields "pass_condition" (.str ""))) ∧
        Returns (validatedText (fieldOf fields "fail_condition" (.str ""))) ∧
        Returns (validatedOptionalText (fieldOf fields "check_type" .null)) ∧
        Returns (validatedDict (fieldOf fields "check_params" (.obj []))) ∧
        Returns (validatedText (fieldOf fields "policy_source" (.str ""))) := by
      simp only [criterionOf, get_obj, ok_bind]
      iterate 9 refine returns_bind_iff fun _ _ => ?_
      exact returns_bind_pure
    simp only [steps, returns_validateCategory, returns_validateEvidenceType,
      returns_clampWeight, returns_validatedText, returns_validatedOptionalText,
      returns_validatedDict]
    constructor
    · intro accepted
      obtain ⟨category, evidenceType, weight, id, question, passCondition, failCondition,
        checkType, checkParams, policySource⟩ := accepted
      exact { id := isText_fieldOf_default.mp id, category, question, evidenceType,
              passCondition, failCondition, weight, checkType, checkParams, policySource }
    · intro accepted
      exact ⟨accepted.category, accepted.evidenceType, accepted.weight,
        isText_fieldOf_default.mp accepted.id, accepted.question, accepted.passCondition,
        accepted.failCondition, accepted.checkType, accepted.checkParams,
        accepted.policySource⟩
  | _ => exact iff_of_false (not_returns_error _) id

theorem mapM_criterionOf {entries : List (Document × Nat)}
    (every : ∀ entry ∈ entries, Returns (criterionOf decoders uuid entry)) :
    entries.mapM (criterionOf decoders uuid) =
      .ok (entries.flatMap fun entry =>
        given ((criterionOf decoders uuid entry).map fun criterion => [criterion])) := by
  induction entries with
  | nil => rfl
  | cons entry rest ih =>
    rw [List.forall_mem_cons] at every
    obtain ⟨criterion, made⟩ := every.1
    rw [List.mapM_cons, ih every.2, made, List.flatMap_cons, made]
    rfl

theorem returns_criteria {entries : List Document} :
    Returns (entries.zipIdx.mapM (criterionOf decoders uuid)) ↔
      ∀ entry ∈ entries, CriterionReadable decoders entry := by
  rw [returns_mapM, ← forall_mem_zipIdx_fst]
  simp only [returns_criterionOf]

section

variable {task : GenerationTask}

theorem returns_buildCriteria {parsed : Document} :
    Returns (task.buildCriteria decoders uuid parsed) ↔ CriteriaReadable decoders parsed := by
  cases parsed with
  | obj fields =>
    rw [GenerationTask.buildCriteria, CriteriaReadable, entriesOf, get_obj, ok_bind]
    cases walked : itemsOf (fieldOf fields "criteria" (.arr [])) with
    | error exn =>
      apply iff_of_false
      · exact not_returns_error exn
      · intro readable
        obtain ⟨⟨entries, same, -⟩, -⟩ := readable
        cases same
    | ok entries =>
      have steps : Returns (entries.zipIdx.mapM (criterionOf decoders uuid) >>=
            fun criteriaList => validatedText (fieldOf fields "control_objective"
              (.str task.objective)) >>= fun controlObjective => pure
                ({ controlId := task.controlId
                   framework := task.framework
                   tenantId := task.tenantId
                   controlObjective
                   criteria := normalizeWeights criteriaList
                   derivedFrom := task.obligations.map fun obligation =>
                    { document := "", policySection := obligation.sectionId, page := "" }
                   status := "candidate" } : GeneratedTestingCriteria Document)) ↔
          (∀ entry ∈ entries, CriterionReadable decoders entry) ∧
            IsText (fieldOf fields "control_objective" (.str "")) := by
        rw [← returns_criteria, isText_fieldOf_default, ← returns_validatedText]
        exact returns_bind_iff fun _ _ => returns_bind_pure
      apply steps.trans
      apply and_congr_left
      intro _
      constructor
      · intro accepted
        exact ⟨entries, rfl, accepted⟩
      · intro accepted
        obtain ⟨others, same, readable⟩ := accepted
        cases same
        exact readable
  | _ => exact iff_of_false (not_returns_error _) id

theorem criteria_of_buildCriteria {parsed : Document} {criteria : GeneratedTestingCriteria Document}
    (built : task.buildCriteria decoders uuid parsed = .ok criteria) :
    criteria.criteria = normalizeWeights ((entriesIn parsed "criteria").zipIdx.flatMap fun entry =>
      given ((criterionOf decoders uuid entry).map fun criterion => [criterion])) := by
  rw [GenerationTask.buildCriteria, bind_eq_ok] at built
  obtain ⟨entries, walked, rest⟩ := built
  obtain ⟨made, ran, rest⟩ := bind_eq_ok.mp rest
  obtain ⟨objective, -, rest⟩ := bind_eq_ok.mp rest
  obtain ⟨text, -, returned⟩ := bind_eq_ok.mp rest
  cases returned
  rw [mapM_criterionOf (returns_mapM.mp ⟨made, ran⟩)] at ran
  cases ran
  rw [entriesIn, walked, given_ok]

theorem generateForControl_eq_ok {content : String} {criteria : GeneratedTestingCriteria Document} :
    task.generateForControl decoders uuid (fun _ => .ok content) = .ok criteria ↔
      ∃ parsed, parseCriteriaResponse decoders content = .ok parsed ∧
        task.buildCriteria decoders uuid parsed = .ok criteria := by
  have whole : task.generateForControl decoders uuid (fun _ => .ok content) =
      ((parseCriteriaResponse decoders content).mapError .raised >>= fun parsed =>
        (task.buildCriteria decoders uuid parsed).mapError .raised) := rfl
  rw [← bind_eq_ok, whole]
  cases parseCriteriaResponse decoders content with
  | error exn => exact iff_of_false (fun ran => by cases ran) (fun ran => by cases ran)
  | ok parsed =>
    change (task.buildCriteria decoders uuid parsed).mapError AnalysisError.raised = _ ↔
      task.buildCriteria decoders uuid parsed = _
    cases task.buildCriteria decoders uuid parsed with
    | error exn => exact iff_of_false (fun ran => by cases ran) (fun ran => by cases ran)
    | ok built =>
      constructor
      · intro same
        cases same
        rfl
      · intro same
        cases same
        rfl

theorem generationIsolates_iff {content : String} : GenerationIsolates decoders uuid task content ↔
      ∃ parsed, parseCriteriaResponse decoders content = .ok parsed ∧
        CriteriaReadable decoders parsed := by
  simp only [GenerationIsolates, generateForControl_eq_ok]
  constructor
  · intro isolates
    obtain ⟨criteria, ⟨parsed, parsing, built⟩, -⟩ := isolates
    exact ⟨parsed, parsing, returns_buildCriteria.mp ⟨criteria, built⟩⟩
  · intro readable
    obtain ⟨parsed, parsing, accepted⟩ := readable
    obtain ⟨criteria, built⟩ := returns_buildCriteria.mpr accepted
    refine ⟨criteria, ⟨parsed, parsing, built⟩, ?_⟩
    rw [criteria_of_buildCriteria built, answerCriteria, parsing]

end

end

/-- The generation for one control: its task, the ids that are drawn, and the answer. -/
structure GenerationCall where
  task : GenerationTask
  uuid : Nat → String
  answer : String

/-- What the three stages are run on, and what the gateway answers them. -/
structure AnalysisRun where
  decoders : Decoders
  tenantId : String
  documentId : String
  documentName : String := ""
  sections : List PolicySection := []
  uuid : IdSite → String
  extraction : LlmGateway
  framework : String
  obligations : List (PolicyEntity Document) := []
  mapping : LlmGateway
  generation : List GenerationCall := []

namespace AnalysisRun

/-- Every stage returns all that the well-formed entries of its answers give by themselves. -/
structure Isolates (run : AnalysisRun) : Prop where
  extraction : ExtractionIsolates run.decoders run.uuid run.extraction run.documentName
    run.sections run.tenantId run.documentId
  mapping : MappingIsolates run.decoders run.framework run.mapping run.obligations
  generation : ∀ call ∈ run.generation,
    GenerationIsolates run.decoders call.uuid call.task call.answer

/-- Every extraction answer that decodes can be read in full; in every mapping answer that
decodes, no entry raises or none maps anything; every generation answer can be read in full, or is
no JSON. -/
structure Readable (run : AnalysisRun) : Prop where
  extraction : ∀ chunk ∈ (chunksOf run.sections).zipIdx, ∀ extracted,
    extractChunk run.decoders run.extraction run.documentName chunk.1 chunk.2 = .ok extracted →
      ExtractionReadable extracted
  mapping : ∀ batch ∈ (batchesOf run.obligations).zipIdx, ∀ parsed,
    askMapping run.decoders run.framework run.mapping batch.1 batch.2 = .ok parsed →
      AnswerMaps run.decoders batch.1 parsed
  generation : ∀ call ∈ run.generation, ∃ parsed,
    parseCriteriaResponse run.decoders call.answer = .ok parsed ∧
      CriteriaReadable run.decoders parsed

/-- Malformed answers and entries are isolated exactly in the runs whose answers the stages can
read. -/
theorem isolates_iff (run : AnalysisRun) : run.Isolates ↔ run.Readable := by
  constructor
  · intro isolates
    exact {
      extraction := extractionIsolates_iff.mp isolates.extraction
      mapping := mappingIsolates_iff.mp isolates.mapping
      generation := fun call member =>
        generationIsolates_iff.mp (isolates.generation call member) }
  · intro readable
    exact {
      extraction := extractionIsolates_iff.mpr readable.extraction
      mapping := mappingIsolates_iff.mpr readable.mapping
      generation := fun call member =>
        generationIsolates_iff.mpr (readable.generation call member) }

def twoDocuments : Decoders where
  loads text :=
    if text = "\x7b\"obligations\": [\x7b\"text\": \"Access is reviewed\"\x7d]\x7d" then
      .ok (.obj [("obligations", .arr [.obj [("text", .str "Access is reviewed")]])])
    else if text = "\x7b\"obligations\": [7]\x7d" then
      .ok (.obj [("obligations", .arr [.int 7])])
    else .error .jsonDecodeError
  fromIsoFormat _ := .error .valueError
  intOfString _ := none
  floatOfString _ := none
  reprOf _ := ""

/-- The answer to the first section is well formed, and that to the second one has a number among
its obligations. -/
def strayNumber : AnalysisRun where
  decoders := twoDocuments
  tenantId := "t-1"
  documentId := "policy.txt"
  sections := [⟨"s1", "Access", "Access shall be reviewed."⟩, ⟨"s2", "Keys", "Keys must rotate."⟩]
  uuid _ := "id"
  extraction call _ :=
    .ok (if call = 0 then "\x7b\"obligations\": [\x7b\"text\": \"Access is reviewed\"\x7d]\x7d"
      else "\x7b\"obligations\": [7]\x7d")
  framework := "soc2"
  mapping _ _ := .error .unavailable

/-- One number among the obligations of one answer loses the obligations of all others. -/
theorem stray_number_loses_the_others : ¬ ∀ run : AnalysisRun, run.Isolates := by
  intro always
  obtain ⟨graph, ran, -⟩ := (always strayNumber).extraction
  cases ran

end AnalysisRun

end Onpremai.Preprocessor
