import Onpremai.Library.Grouping
import Onpremai.Preprocessor.ResponseIsolation

/-!
# Obligations in the prompts

An obligation leaves the extraction as a node of the graph.  The mapping and the generation look
its text, its subject, its threshold and its frequency up in the dictionary of that node, under
names of their own.
-/

namespace Onpremai.Preprocessor

open Onpremai.Library
open Onpremai.Observer (PyError)

/-- `node.model_dump(mode="json")`. -/
def PolicyEntity.modelDump (node : PolicyEntity Document) : Document := .obj
    [("id", .str node.id), ("entity_type", .str node.entityType), ("label", .str node.label),
     ("properties", .obj node.properties),
     ("section_id", .str node.sectionId),
     ("source_text", .str node.sourceText)]

/-- `obl.get("text", obl.get("label", ""))`. -/
def obligationText (obl : Document) : Except PyError Document := do
  obl.get "text" (← obl.get "label" (.str ""))

section

variable (decoders : Decoders)

/-- What an entry adds for a value: nothing where the value is empty or another false one. -/
def noted (opening : String) (value : Document) (closing : String) : String :=
  if value.truthy then opening ++ decoders.strOf value ++ closing else ""

def mappingEntry (obl : Document) : Except PyError String := do
  let text ← obligationText obl
  let subject ← obl.get "subject" (.str "")
  return noted decoders "(" subject ") " ++ decoders.strOf text

def generationEntry (obl : Document) : Except PyError String := do
  let text ← obligationText obl
  let subject ← obl.get "subject" (.str "")
  let threshold ← obl.get "threshold" (.str "")
  let frequency ← obl.get "frequency" (.str "")
  return decoders.strOf text ++ noted decoders " (responsible: " subject ")" ++
    noted decoders " [threshold: " threshold "]" ++ noted decoders " [frequency: " frequency "]"

def mappingList (batch : List Document) : Except PyError String := do
  let entries ← batch.mapM (mappingEntry decoders)
  return Text.joinLines (entries.zipIdx.map fun entry =>
    "[" ++ toString entry.2 ++ "] " ++ entry.1)

def generationList (obligations : List Document) : Except PyError String := do
  let entries ← obligations.mapM (generationEntry decoders)
  return if entries.isEmpty then "No specific obligations provided."
    else Text.joinLines (entries.map fun entry => "- " ++ entry)

end

def obligationNodes (graph : PolicyGraph Document) : List (PolicyEntity Document) :=
  graph.nodes.filter fun node => decide (node.entityType = "obligation")

/-- The obligations by their ids; the last one of an id counts. -/
def obligationsById (obligations : List (PolicyEntity Document)) :
    Dict String (PolicyEntity Document) :=
  .ofList ((obligations.filter fun obl => decide (obl.id ≠ "")).map fun obl => (obl.id, obl))

def mappedObligation (obligationById : Dict String (PolicyEntity Document))
    (mapping : ControlMapping) : Option (String × PolicyEntity Document) :=
  if mapping.controlId = "" ∨ mapping.obligationId = "" then none
  else (obligationById.get? mapping.obligationId).map fun obl => (mapping.controlId, obl)

def groupByControl (obligations : List (PolicyEntity Document)) (mappings : List ControlMapping) :
    Dict String (List (PolicyEntity Document)) :=
  .group (mappings.filterMap (mappedObligation (obligationsById obligations)))

theorem mem_of_mem_groupByControl {obligations : List (PolicyEntity Document)}
    {mappings : List ControlMapping} {controlId : String} {group : List (PolicyEntity Document)}
    (grouped : (groupByControl obligations mappings).get? controlId = some group)
    {obligation : PolicyEntity Document} (member : obligation ∈ group) :
    obligation ∈ obligations := by
  have entry := Dict.mem_group_iff.mp ⟨group, grouped, member⟩
  obtain ⟨mapping, -, mapped⟩ := List.mem_filterMap.mp entry
  rw [mappedObligation] at mapped
  split at mapped
  · cases mapped
  · obtain ⟨known, found, same⟩ := Option.map_eq_some_iff.mp mapped
    cases same
    obtain ⟨other, kept, same⟩ := List.mem_map.mp (Dict.mem_of_get?_ofList found)
    have own : other = obligation := congrArg Prod.snd same
    rw [← own]
    exact List.mem_of_mem_filter kept

theorem exists_batch_iff {α : Type} {items : List α} {item : α} :
    (∃ batch ∈ batchesOf items, item ∈ batch) ↔ item ∈ items := by
  constructor
  · intro batched
    obtain ⟨batch, inBatches, member⟩ := batched
    obtain ⟨index, -, same⟩ := List.mem_map.mp inBatches
    rw [← same] at member
    exact List.mem_of_mem_drop (List.mem_of_mem_take member)
  · intro member
    obtain ⟨position, inside, found⟩ := List.getElem_of_mem member
    have size : batchSize = 5 := rfl
    refine ⟨_, List.mem_map.mpr ⟨position / batchSize, List.mem_range.mpr ?_, rfl⟩, ?_⟩
    · rw [size]
      omega
    · -- the item stands at the rest of its position within its batch
      refine List.mem_iff_getElem.mpr ⟨position % batchSize, ?_, ?_⟩
      · rw [List.length_take, List.length_drop, size]
        omega
      · rw [List.getElem_take, List.getElem_drop]
        simp only [Nat.div_add_mod]
        exact found

def RawNode.KeepsText (node : RawNode) : Prop := node.entityType = "obligation" →
    sliceTo 100 node.sourceText = .ok node.label ∧
      fieldOf node.properties "full_text" (.str "") = node.sourceText

def NodesHold (holds : RawNode → Prop) (part : Except PyError GraphElements) : Prop :=
  ∀ elements, part = .ok elements → ∀ node ∈ elements.nodes, holds node

section

variable {holds : RawNode → Prop}

theorem nodesHold_ok {elements : GraphElements} (every : ∀ node ∈ elements.nodes, holds node) :
    NodesHold holds (.ok elements) := by
  intro other same
  cases same
  exact every

theorem nodesHold_error (exn : PyError) : NodesHold holds (.error exn) := by
  intro elements same
  cases same

theorem nodesHold_joinAll {α : Type} {body : α → Except PyError GraphElements} {items : List α}
    (every : ∀ item ∈ items, NodesHold holds (body item)) :
    NodesHold holds (joinAll body items) := by
  intro elements made node member
  obtain ⟨parts, ran, same⟩ := bind_eq_ok.mp made
  cases same
  obtain ⟨part, inParts, inside⟩ := List.mem_flatMap.mp member
  obtain ⟨item, inItems, gave⟩ := exists_of_mem_mapM ran inParts
  exact every item inItems part gave node inside

end

section

variable {decoders : Decoders} {uuid : IdSite → String} {call : Nat} {sectionId : String}

theorem keepsText_of_type (entityType : String) {node : RawNode}
    (typed : node.entityType = entityType) (other : entityType ≠ "obligation") : node.KeepsText :=
  fun same => absurd (typed.symm.trans same) other

theorem nodesHold_obligation (obl : Document) (position : Nat) :
    NodesHold RawNode.KeepsText (obligationElements uuid call sectionId obl position) := by
  cases obl with
  | obj fields =>
    simp only [obligationElements, get_obj, bind, Except.bind]
    cases sliced : sliceTo 100 (fieldOf fields "text" (.str "")) with
    | error exn => exact nodesHold_error exn
    | ok label =>
      have kept : RawNode.KeepsText
          { id := uuid ⟨call, "obligation", .obligation, position⟩
            entityType := "obligation", label
            properties :=
              [("subject", fieldOf fields "subject" (.str "")),
               ("action", fieldOf fields "action" (.str "")),
               ("threshold", fieldOf fields "threshold" (.str "")),
               ("frequency", fieldOf fields "frequency" (.str "")),
               ("full_text", fieldOf fields "text" (.str ""))]
            sectionId, sourceText := fieldOf fields "text" (.str "") } :=
        fun _ => ⟨sliced, rfl⟩
      cases (fieldOf fields "subject" (.str "")).truthy with
      | true =>
        apply nodesHold_ok
        rw [List.forall_mem_cons, List.forall_mem_singleton]
        exact ⟨kept, keepsText_of_type "role" rfl (by decide)⟩
      | false =>
        apply nodesHold_ok
        rw [List.forall_mem_singleton]
        exact kept
  | _ => exact nodesHold_error _

theorem nodesHold_entry (kind : EntryKind) (entry : Document × Nat) :
    NodesHold RawNode.KeepsText (entryElements decoders uuid call sectionId kind entry) := by
  cases kind with
  | obligation => exact nodesHold_obligation entry.1 entry.2
  | term =>
    cases shape : entry.1 with
    | obj fields =>
      rw [entryElements, shape]
      apply nodesHold_ok
      rw [List.forall_mem_singleton]
      exact keepsText_of_type "term" rfl (by decide)
    | _ =>
      rw [entryElements, shape]
      exact nodesHold_error _
  | role =>
    apply nodesHold_ok
    rw [roleElements]
    cases namedText? entry.1 with
    | none => exact List.forall_mem_nil _
    | some name =>
      rw [List.forall_mem_singleton]
      exact keepsText_of_type "role" rfl (by decide)
  | threshold =>
    cases shape : entry.1 with
    | obj fields =>
      rw [entryElements, shape]
      apply nodesHold_ok
      rw [List.forall_mem_singleton]
      exact keepsText_of_type "threshold" rfl (by decide)
    | _ =>
      rw [entryElements, shape]
      exact nodesHold_error _
  | control =>
    apply nodesHold_ok
    rw [controlElements]
    cases namedText? entry.1 with
    | none => exact List.forall_mem_nil _
    | some name =>
      rw [List.forall_mem_singleton]
      exact keepsText_of_type "control" rfl (by decide)

theorem nodesHold_list (extracted : Document) (kind : EntryKind) : NodesHold RawNode.KeepsText
      (listElements decoders uuid call sectionId extracted kind) := by
  cases walked : entriesOf extracted kind.field with
  | error exn =>
    rw [listElements, walked]
    exact nodesHold_error exn
  | ok entries =>
    rw [listElements_eq walked]
    exact nodesHold_joinAll fun entry _ => nodesHold_entry kind entry

end

section

variable {decoders : Decoders} {uuid : IdSite → String} {complete : LlmGateway}
  {documentName : String} {sections : List PolicySection} {tenantId documentId : String}
  {graph : PolicyGraph Document}

theorem nodesHold_chunk (chunk : Chunk × Nat) : NodesHold RawNode.KeepsText
      (chunkElements decoders uuid complete documentName chunk) := by
  rw [chunkElements]
  cases extractChunk decoders complete documentName chunk.1 chunk.2 with
  | ok extracted => exact nodesHold_joinAll fun kind _ => nodesHold_list extracted kind
  | error error => exact nodesHold_ok (List.forall_mem_nil _)

theorem label_of_mem_obligationNodes
    (extracted : extractFromSections decoders uuid complete documentName sections tenantId
      documentId = .ok graph)
    {node : PolicyEntity Document} (member : node ∈ obligationNodes graph) :
    node.label = Text.truncate 100 node.sourceText ∧
      fieldOf node.properties "full_text" (.str "") = .str node.sourceText := by
  obtain ⟨parts, made, built⟩ := bind_eq_ok.mp extracted
  obtain ⟨nodes, validated, same⟩ := bind_eq_ok.mp built
  cases same
  obtain ⟨inGraph, typed⟩ := List.mem_filter.mp member
  obtain ⟨raw, inside, valid⟩ := exists_of_mem_mapM validated inGraph
  have loop : joinAll (chunkElements decoders uuid complete documentName)
      (chunksOf sections).zipIdx = .ok (.join parts) := by
    rw [joinAll, made]
    rfl
  have keeps : raw.KeepsText :=
    nodesHold_joinAll (fun chunk _ => nodesHold_chunk chunk) _ loop raw inside
  obtain ⟨label, labelled, rest⟩ := bind_eq_ok.mp valid
  obtain ⟨sourceText, sourced, same⟩ := bind_eq_ok.mp rest
  cases same
  obtain ⟨sliced, full⟩ := keeps (of_decide_eq_true typed)
  cases shape : raw.sourceText with
  | str text =>
    rw [shape] at sliced sourced full
    cases sourced
    cases shown : raw.label with
    | str beginning =>
      rw [shown] at sliced labelled
      cases labelled
      exact ⟨(Observer.LogValue.str.inj (Except.ok.inj sliced)).symm, full⟩
    | _ =>
      rw [shown] at labelled
      cases labelled
  | _ =>
    rw [shape] at sourced
    cases sourced

end

/-! ## What the prompts show -/

section

variable (decoders : Decoders)

def Shows (entry : String) (value : Document) : Prop :=
  value.truthy = true → Text.contains (decoders.strOf value) entry = true

instance (entry : String) (value : Document) : Decidable (Shows decoders entry value) :=
  inferInstanceAs (Decidable (_ → _))

def Carries (node : PolicyEntity Document) (entry : String) : Prop :=
  ∀ field ∈ ["full_text", "subject", "threshold", "frequency"],
    Shows decoders entry (fieldOf node.properties field (.str ""))

/-- The list of a prompt has one entry for each obligation, in their order, and it shows all that
the extraction told of it. -/
def ListCarries (entryOf : Document → Except PyError String)
    (obligations : List (PolicyEntity Document)) : Prop :=
  ∃ entries, (obligations.map PolicyEntity.modelDump).mapM entryOf = .ok entries ∧
    List.Forall₂ (Carries decoders) obligations entries

def SpelledOut (node : PolicyEntity Document) : Prop := node.sourceText.toList.length ≤ 100 ∧
    ∀ field ∈ ["subject", "threshold", "frequency"],
      Shows decoders node.sourceText (fieldOf node.properties field (.str ""))

variable {decoders}

theorem mappingEntry_modelDump (node : PolicyEntity Document) :
    mappingEntry decoders node.modelDump = .ok node.label := by
  have entry : mappingEntry decoders node.modelDump = .ok ("" ++ node.label) := rfl
  rw [entry, String.empty_append]

theorem generationEntry_modelDump (node : PolicyEntity Document) :
    generationEntry decoders node.modelDump = .ok node.label := by
  have entry : generationEntry decoders node.modelDump = .ok (node.label ++ "" ++ "" ++ "") := rfl
  rw [entry, String.append_empty, String.append_empty, String.append_empty]

section

variable {entryOf : Document → Except PyError String}

theorem entries_modelDump
    (labelled : ∀ node : PolicyEntity Document, entryOf node.modelDump = .ok node.label)
    (obligations : List (PolicyEntity Document)) :
    (obligations.map PolicyEntity.modelDump).mapM entryOf =
      .ok (obligations.map PolicyEntity.label) := by
  rw [List.mapM_map]
  exact mapM_of_ok fun node _ => labelled node

theorem listCarries_iff
    (labelled : ∀ node : PolicyEntity Document, entryOf node.modelDump = .ok node.label)
    (obligations : List (PolicyEntity Document)) : ListCarries decoders entryOf obligations ↔
      ∀ node ∈ obligations, Carries decoders node node.label := by
  have shown : List.Forall₂ (Carries decoders) obligations
      (obligations.map PolicyEntity.label) ↔
        ∀ node ∈ obligations, Carries decoders node node.label := by
    rw [List.forall₂_map_right_iff, List.forall₂_same]
  rw [← shown, ListCarries, entries_modelDump labelled]
  constructor
  · intro carried
    obtain ⟨entries, same, carry⟩ := carried
    cases same
    exact carry
  · intro carry
    exact ⟨_, rfl, carry⟩

end

theorem carries_label_iff {node : PolicyEntity Document}
    (labelled : node.label = Text.truncate 100 node.sourceText)
    (full : fieldOf node.properties "full_text" (.str "") = .str node.sourceText) :
    Carries decoders node node.label ↔ SpelledOut decoders node := by
  have whole : Shows decoders node.label (.str node.sourceText) ↔
      node.sourceText.toList.length ≤ 100 := by
    rw [Shows, labelled, Text.contains_iff, Text.truncate, String.toList_ofList]
    constructor
    · intro shown
      by_cases empty : node.sourceText = ""
      · rw [empty]
        decide
      · have inside := (shown (decide_eq_true empty)).length_le
        rw [List.length_take] at inside
        change node.sourceText.toList.length ≤ _ at inside
        omega
    · intro short _
      rw [List.take_of_length_le short]
      exact List.infix_rfl
  rw [Carries, List.forall_mem_cons, full, whole, SpelledOut]
  apply and_congr_right
  intro short
  have uncut : node.label = node.sourceText := by
    rw [labelled, Text.truncate, List.take_of_length_le short, String.ofList_toList]
  rw [uncut]

end

def PromptsCarry (decoders : Decoders) (framework : String) (complete : LlmGateway)
    (obligations : List (PolicyEntity Document)) : Prop :=
  (∀ batch ∈ batchesOf obligations, ListCarries decoders (mappingEntry decoders) batch) ∧
    ∀ controlId group,
      (groupByControl obligations (mapObligations decoders framework complete obligations)).get?
          controlId = some group →
        ListCarries decoders (generationEntry decoders) group

section

variable {decoders : Decoders} {uuid : IdSite → String} {complete : LlmGateway}
  {documentName : String} {sections : List PolicySection} {tenantId documentId : String}
  {graph : PolicyGraph Document}

/-- The prompts show all that was extracted exactly when every obligation is spelled out in the
first hundred characters of its text. -/
theorem promptsCarry_iff (framework : String) (asked : LlmGateway)
    (extracted : extractFromSections decoders uuid complete documentName sections tenantId
      documentId = .ok graph) :
    PromptsCarry decoders framework asked (obligationNodes graph) ↔
      ∀ node ∈ obligationNodes graph, SpelledOut decoders node := by
  have label {node : PolicyEntity Document} (member : node ∈ obligationNodes graph) :
      Carries decoders node node.label ↔ SpelledOut decoders node := by
    obtain ⟨labelled, full⟩ := label_of_mem_obligationNodes extracted member
    exact carries_label_iff labelled full
  constructor
  · intro carried node member
    obtain ⟨batch, inBatches, inside⟩ := exists_batch_iff.mpr member
    have shown := (listCarries_iff mappingEntry_modelDump batch).mp (carried.1 batch inBatches)
    exact (label member).mp (shown node inside)
  · intro spelled
    constructor
    · intro batch inBatches
      rw [listCarries_iff mappingEntry_modelDump]
      intro node inside
      have member := exists_batch_iff.mp ⟨batch, inBatches, inside⟩
      exact (label member).mpr (spelled node member)
    · intro controlId group grouped
      rw [listCarries_iff generationEntry_modelDump]
      intro node inside
      have member := mem_of_mem_groupByControl grouped inside
      exact (label member).mpr (spelled node member)

end

def revocationText : String := "Access shall be revoked within a day."

/-- What an answer tells of the obligation. -/
def toldRevocation (threshold : String) : List (String × Document) :=
  [("subject", .str ""), ("action", .str "revoke access"), ("threshold", .str threshold),
   ("frequency", .str "")]

def revocationDecoders (threshold : String) : Decoders where
  loads text := .ok <|
    if text = "mapped" then
      .obj [("mappings", .arr [.obj [("obligation_index", .int 0),
        ("control_ids", .arr [.str "CC6.1"])]])]
    else .obj [("obligations",
      .arr [.obj (("text", .str revocationText) :: toldRevocation threshold)])]
  fromIsoFormat _ := .error .valueError
  intOfString _ := none
  floatOfString _ := none
  reprOf _ := ""

def revocationNode (threshold : String) : PolicyEntity Document where
  id := "o1"
  entityType := "obligation"
  label := revocationText
  properties := toldRevocation threshold ++ [("full_text", .str revocationText)]
  sectionId := "s1"
  sourceText := revocationText

def revocationGraph (threshold : String) : PolicyGraph Document where
  tenantId := "tenant"
  documentId := "policy.md"
  nodes := [revocationNode threshold]

theorem extract_revocation (threshold : String) :
    extractFromSections (revocationDecoders threshold) (fun _ => "o1") (fun _ _ => .ok "told") ""
      [{ sectionId := "s1", heading := "Access", content := revocationText }] "tenant"
      "policy.md" = .ok (revocationGraph threshold) := by
  rfl

theorem promptsCarry_spelledOut :
    PromptsCarry (revocationDecoders "a day") "soc2" (fun _ _ => .ok "mapped")
      (obligationNodes (revocationGraph "a day")) := by
  apply (promptsCarry_iff "soc2" _ (extract_revocation "a day")).mpr
  intro node member
  rw [List.mem_singleton.mp member]
  constructor
  · decide
  · intro field inside
    revert field
    decide

theorem map_revocation :
    mapObligations (revocationDecoders "24 hours") "soc2" (fun _ _ => .ok "mapped")
      [revocationNode "24 hours"] =
        [{ obligationId := "o1", framework := "soc2", controlId := "CC6.1"
           confidence := .finite (8 / 10), sourceSection := "s1" }] := by
  decide +kernel

/-- A threshold that the text tells in other words is in no list of a prompt. -/
theorem threshold_not_carried :
    extractFromSections (revocationDecoders "24 hours") (fun _ => "o1") (fun _ _ => .ok "told") ""
        [{ sectionId := "s1", heading := "Access", content := revocationText }] "tenant"
        "policy.md" = .ok (revocationGraph "24 hours") ∧
      ¬ PromptsCarry (revocationDecoders "24 hours") "soc2" (fun _ _ => .ok "mapped")
        (obligationNodes (revocationGraph "24 hours")) ∧
      obligationLines [revocationNode "24 hours"] = "[0] Access shall be revoked within a day." ∧
      (groupByControl [revocationNode "24 hours"]
        (mapObligations (revocationDecoders "24 hours") "soc2" (fun _ _ => .ok "mapped")
          [revocationNode "24 hours"])).entries = [("CC6.1", [revocationNode "24 hours"])] ∧
      GenerationTask.obligationsText
          { controlId := "CC6.1", framework := "soc2", tenantId := "tenant"
            obligations := [revocationNode "24 hours"] } =
        "- Access shall be revoked within a day." := by
  refine ⟨extract_revocation "24 hours", ?_, ?_, ?_, ?_⟩
  · intro carried
    have batch := carried.1 [revocationNode "24 hours"] List.mem_cons_self
    have shown := (listCarries_iff mappingEntry_modelDump _).mp batch _ List.mem_cons_self
      "threshold" (by decide)
    exact absurd (shown rfl) (by decide)
  · decide
  · rw [map_revocation]
    rfl
  · decide

end Onpremai.Preprocessor
