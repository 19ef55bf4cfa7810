import Mathlib.Data.Finset.Card
import Mathlib.Data.List.ReduceOption
import Onpremai.Library.Grouping
import Onpremai.Preprocessor.ResponseIsolation

/-!
# Obligation consolidator

The graphs of several policies are merged into one: obligations with similar texts count as one,
and the obligations that are left are searched for contradicting thresholds.  `lower` is the
lower case of the runtime.
-/

namespace Onpremai.Preprocessor

open Onpremai.Library
open Onpremai.Observer (PyError FloatValue)

/-- What a value is compared by: a truth value is a number, and a dictionary has no order. -/
inductive ValueMark where
  | null
  | number (value : FloatValue)
  | text (text : String)
  | list
  | dict
  | key (key : String)
  | close
  deriving DecidableEq, Repr

def insertField (field : String × List ValueMark) :
    List (String × List ValueMark) → List (String × List ValueMark)
  | [] => [field]
  | other :: rest =>
    if field.1 < other.1 then field :: other :: rest else other :: insertField field rest

mutual

def marksOf : Document → List ValueMark
  | .null => [.null]
  | .bool value => [.number (.finite (if value then 1 else 0))]
  | .int value => [.number (.finite value)]
  | .float value => [.number value]
  | .str text => [.text text]
  | .arr items => .list :: marksOfItems items ++ [.close]
  | .obj fields =>
    .dict :: (marksOfFields fields).flatMap (fun field => .key field.1 :: field.2) ++ [.close]

def marksOfItems : List Document → List ValueMark
  | [] => []
  | item :: rest => marksOf item ++ marksOfItems rest

def marksOfFields : List (String × Document) → List (String × List ValueMark)
  | [] => []
  | field :: rest => insertField (field.1, marksOf field.2) (marksOfFields rest)

end

/-- `left == right`: nothing is equal to a value that is not a number. -/
def equalValues (left right : Document) : Bool :=
  decide (marksOf left = marksOf right) && !(marksOf left).contains (.number .nan)

/-- Minimum similarity ratio for treating two obligations as duplicates. -/
def dedupThreshold : Rat := 85 / 100

section

variable (lower : String → String)

/-- `set(text.lower().split())`. -/
def wordSet (text : String) : Finset String := (Text.words (lower text)).toFinset

def textSimilarity (textA textB : String) : Rat :=
  if textA = "" ∨ textB = "" then 0
  else
    let wordsA := wordSet lower textA
    let wordsB := wordSet lower textB
    if wordsA = ∅ ∨ wordsB = ∅ then 0 else (wordsA ∩ wordsB).card / (wordsA ∪ wordsB).card

def isNearDuplicate (obl existing : PolicyEntity Document) : Bool :=
  decide (dedupThreshold ≤ textSimilarity lower obl.sourceText existing.sourceText)

/-- Common words that say nothing about an action. -/
def stopWords : List String :=
  ["the", "a", "an", "is", "are", "be", "to", "of", "and", "or", "in", "for", "on", "at"]

def normalizeAction (action : String) : String :=
  let words := (Text.words (lower action)).filter fun word => decide (word ∉ stopWords)
  " ".intercalate ((words.take 5).insertionSort (· ≤ ·))

end

/-- One side of a conflict. -/
structure ConflictSource where
  id : String
  sectionId : String
  text : Document
  threshold : Document

/-- Two obligations that demand different things of one action. -/
structure Conflict where
  controlId : String
  conflict : String
  sourceA : ConflictSource
  sourceB : ConflictSource

/-- `obl["properties"].get(field, "")`. -/
def PolicyEntity.property (obl : PolicyEntity Document) (field : String) : Document :=
  fieldOf obl.properties field (.str "")

def conflictSource (obl : PolicyEntity Document) : ConflictSource where
  id := obl.id
  sectionId := obl.sectionId
  text := fieldOf obl.properties "full_text" (.str obl.label)
  threshold := obl.property "threshold"

def conflictOf (decoders : Decoders) (actionKey : String)
    (pair : PolicyEntity Document × PolicyEntity Document) : Option Conflict :=
  let thresholdA := pair.1.property "threshold"
  let thresholdB := pair.2.property "threshold"
  if thresholdA.truthy && thresholdB.truthy && !equalValues thresholdA thresholdB then
    let quote := String.singleton (Char.ofNat 39)
    some {
      controlId := actionKey
      conflict := "Conflicting thresholds for " ++ quote ++ actionKey ++ quote ++ ": " ++ quote ++
        decoders.strOf thresholdA ++ quote ++ " vs " ++ quote ++ decoders.strOf thresholdB ++ quote
      sourceA := conflictSource pair.1
      sourceB := conflictSource pair.2 }
  else none

section

variable (decoders : Decoders) (lower : String → String)

def loweredAction (obl : PolicyEntity Document) : Except PyError String :=
  match obl.property "action" with
  | .str action => .ok (Text.strip (lower action))
  | _ => .error .attributeError

def groupingEntry (obl : PolicyEntity Document) :
    Except PyError (Option (String × PolicyEntity Document)) := do
  let action ← loweredAction lower obl
  return if !(obl.property "threshold").truthy || action = "" then none
    else some (normalizeAction lower action, obl)

def detectConflicts (obligations : List (PolicyEntity Document)) :
    Except PyError (List Conflict) := do
  let entries ← obligations.mapM (groupingEntry lower)
  let thresholdGroups := Dict.group entries.reduceOption
  return thresholdGroups.entries.flatMap fun group =>
    (pairsOf group.2).filterMap (conflictOf decoders group.1)

end

/-- The nodes that are kept, and the canonical id of every node. -/
structure DedupState where
  uniqueNodes : List (PolicyEntity Document) := []
  idMap : Dict String String := .empty

section

variable (decoders : Decoders) (lower : String → String)

/-- Keep an obligation, unless it is similar to one that is kept. -/
def dedupObligation (state : DedupState) (obl : PolicyEntity Document) : DedupState :=
  match state.uniqueNodes.find? (isNearDuplicate lower obl) with
  | some existing => { state with idMap := state.idMap.set obl.id existing.id }
  | none =>
    { uniqueNodes := state.uniqueNodes ++ [obl], idMap := state.idMap.set obl.id obl.id }

/-- `"{entity_type}::{label}"`. -/
def labelKey (node : PolicyEntity Document) : String :=
  node.entityType ++ "::" ++ Text.strip (lower node.label)

/-- Keep a node of another type, unless one with its type and label is kept. -/
def dedupOther (state : DedupState × Dict String String) (node : PolicyEntity Document) :
    DedupState × Dict String String :=
  match state.2.get? (labelKey lower node) with
  | some canonical => ({ state.1 with idMap := state.1.idMap.set node.id canonical }, state.2)
  | none =>
    ({ uniqueNodes := state.1.uniqueNodes ++ [node]
       idMap := state.1.idMap.set node.id node.id },
     state.2.set (labelKey lower node) node.id)

def isObligation (node : PolicyEntity Document) : Bool := decide (node.entityType = "obligation")

def deduplicateNodes (nodes : List (PolicyEntity Document)) : DedupState :=
  let obligations := (nodes.filter isObligation).foldl (dedupObligation lower) {}
  ((nodes.filter fun node => !isObligation node).foldl (dedupOther lower)
    (obligations, .empty)).1

/-- An edge between the canonical nodes. -/
def remapEdge (idMap : Dict String String) (edge : PolicyRelationship Document) :
    PolicyRelationship Document :=
  { edge with
    sourceId := (idMap.get? edge.sourceId).getD edge.sourceId
    targetId := (idMap.get? edge.targetId).getD edge.targetId }

def isSameEdge (edge other : PolicyRelationship Document) : Bool :=
  decide (edge.sourceId = other.sourceId ∧ edge.targetId = other.targetId ∧
    edge.relationship = other.relationship)

/-- Merge statistics. -/
structure MergeStats where
  totalNodes : Nat
  totalEdges : Nat
  duplicatesRemoved : Nat
  inputGraphs : Option Nat := none
  deriving DecidableEq, Repr

/-- What a merge returns. -/
structure MergeReport where
  graph : PolicyGraph Document
  conflicts : List Conflict
  stats : MergeStats

def mergeGraphs (graphs : List (PolicyGraph Document)) : Except PyError MergeReport :=
  match graphs with
  | [] =>
    .ok {
      graph := { tenantId := "", documentId := "consolidated", documentName := "Consolidated" }
      conflicts := []
      stats := { totalNodes := 0, totalEdges := 0, duplicatesRemoved := 0 } }
  | first :: _ => do
    let allNodes := graphs.flatMap PolicyGraph.nodes
    let deduped := deduplicateNodes lower allNodes
    let remapped := (graphs.flatMap PolicyGraph.edges).map (remapEdge deduped.idMap)
    let uniqueEdges := representatives isSameEdge remapped
    let conflicts ← detectConflicts decoders lower (deduped.uniqueNodes.filter isObligation)
    return {
      graph :=
        { tenantId := first.tenantId, documentId := "consolidated"
          documentName := "Consolidated Policy Graph"
          nodes := deduped.uniqueNodes, edges := uniqueEdges }
      conflicts
      stats :=
        { totalNodes := deduped.uniqueNodes.length, totalEdges := uniqueEdges.length
          duplicatesRemoved := allNodes.length - deduped.uniqueNodes.length
          inputGraphs := some graphs.length } }

end

end Onpremai.Preprocessor
