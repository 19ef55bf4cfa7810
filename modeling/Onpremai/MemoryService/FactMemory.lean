import Mathlib.Algebra.Order.Ring.Rat
import Mathlib.Data.List.MinMax
import Mathlib.Tactic.Ring
import Onpremai.Library.Machine

/-!
# Remembered facts

The facts of tenants and of users are stored with vectors.  A fact that is close enough to a
stored one takes its place, text and vector; the search for it looks at the closest one only.
-/

namespace Onpremai.MemoryService

open Library

/-- A row of `tenant_memory` or of `user_memory`.  The owner is the tenant or the tenant with
one of its users. -/
structure MemoryFact (Owner Embedding : Type) where
  owner : Owner
  fact : String
  category : String
  source : String
  confidence : Rat
  embedding : Option Embedding
  needsEmbedding : Bool
  updatedAt : Rat
  deriving DecidableEq

/-- What is given to `remember`, with the time at which it runs. -/
structure RememberCall (Embedding : Type) where
  fact : String
  category : String
  source : String
  confidence : Rat
  embedding : Option Embedding
  now : Rat

/-- How similar two vectors are. -/
structure Similarity (Embedding Score : Type) where
  score : Embedding → Embedding → Score
  symm : ∀ one two, score one two = score two one

section

variable {Owner Embedding Score : Type} [LinearOrder Score]

def Placed (rows : List (MemoryFact Owner Embedding)) (owner : Owner) (place : Nat)
    (vector : Embedding) : Prop :=
  ∃ row, rows[place]? = some row ∧ row.owner = owner ∧ row.embedding = some vector

/-- `ORDER BY embedding <=> :query_vec LIMIT 1`: the place of a fact of the owner with its
similarity to the query.  Any of the closest facts may be found. -/
structure NearestQuery (Owner : Type) (similarity : Similarity Embedding Score) where
  first : List (MemoryFact Owner Embedding) → Owner → Embedding → Option (Nat × Score)
  none_iff : ∀ rows owner query, first rows owner query = none ↔
    ∀ place vector, ¬ Placed rows owner place vector
  nearest : ∀ rows owner query place score, first rows owner query = some (place, score) →
    ∃ vector, Placed rows owner place vector ∧ score = similarity.score vector query ∧
      ∀ other vector, Placed rows owner other vector → similarity.score vector query ≤ score

variable {similarity : Similarity Embedding Score} (search : NearestQuery Owner similarity)
  (threshold : Score)

def findSimilar (rows : List (MemoryFact Owner Embedding)) (owner : Owner)
    (embedding : Embedding) : Option Nat :=
  match search.first rows owner embedding with
  | none => none
  | some (place, score) => if score < threshold then none else some place

def MemoryFact.merged (existing : MemoryFact Owner Embedding)
    (call : RememberCall Embedding) : MemoryFact Owner Embedding :=
  { existing with
    fact := call.fact
    confidence := max existing.confidence call.confidence
    embedding := call.embedding
    updatedAt := call.now
    needsEmbedding := false }

/-- A fact that is stored anew. -/
def RememberCall.record (call : RememberCall Embedding) (owner : Owner) :
    MemoryFact Owner Embedding where
  owner := owner
  fact := call.fact
  category := call.category
  source := call.source
  confidence := call.confidence
  embedding := call.embedding
  needsEmbedding := call.embedding.isNone
  updatedAt := call.now

/-- The stored fact that a new one is merged into. -/
def mergePlace (owner : Owner) (rows : List (MemoryFact Owner Embedding))
    (call : RememberCall Embedding) : Option Nat :=
  match call.embedding with
  | none => none
  | some embedding => findSimilar search threshold rows owner embedding

/-- Store a fact.  Performs a deduplication check if an embedding is provided. -/
def remember (owner : Owner) (rows : List (MemoryFact Owner Embedding))
    (call : RememberCall Embedding) : List (MemoryFact Owner Embedding) :=
  match mergePlace search threshold owner rows call with
  | some place => rows.modify place fun existing => existing.merged call
  | none => rows ++ [call.record owner]

end

section

variable {Owner Embedding Score : Type} [LinearOrder Score] [DecidableEq Owner]

def vectorsOf (rows : List (MemoryFact Owner Embedding)) (owner : Owner) : List (Nat × Embedding) :=
  rows.zipIdx.filterMap fun entry =>
    if entry.1.owner = owner then entry.1.embedding.map fun vector => (entry.2, vector) else none

theorem mem_vectorsOf_iff {rows : List (MemoryFact Owner Embedding)} {owner : Owner}
    {place : Nat} {vector : Embedding} :
    (place, vector) ∈ vectorsOf rows owner ↔ Placed rows owner place vector := by
  simp only [vectorsOf, List.mem_filterMap, List.mem_zipIdx_iff_getElem?, Placed]
  constructor
  · rintro ⟨⟨row, index⟩, found, given⟩
    dsimp only at found given
    split at given
    · next own =>
      rcases Option.map_eq_some_iff.mp given with ⟨held, embedded, same⟩
      cases same
      exact ⟨row, found, own, embedded⟩
    · cases given
  · rintro ⟨row, found, own, embedded⟩
    refine ⟨(row, place), found, ?_⟩
    simp only [own, embedded, if_true, Option.map_some]

/-- The search that compares the query with every fact. -/
def NearestQuery.scan (similarity : Similarity Embedding Score) :
    NearestQuery Owner similarity where
  first rows owner query :=
    ((vectorsOf rows owner).argmax fun entry => similarity.score entry.2 query).map fun entry =>
      (entry.1, similarity.score entry.2 query)
  none_iff := by
    intro rows owner query
    rw [Option.map_eq_none_iff, List.argmax_eq_none, List.eq_nil_iff_forall_not_mem, Prod.forall]
    simp only [mem_vectorsOf_iff]
  nearest := by
    intro rows owner query place score found
    rcases Option.map_eq_some_iff.mp found with ⟨entry, most, same⟩
    cases same
    refine ⟨entry.2, mem_vectorsOf_iff.mp (List.argmax_mem most), rfl, ?_⟩
    intro other vector placed
    exact List.le_of_mem_argmax (f := fun entry => similarity.score entry.2 query)
      (mem_vectorsOf_iff.mpr placed) most

end

/-- The similarity from which on two facts are the same. -/
def dedupThreshold : Rat := 9 / 10

section

variable {Embedding : Type} {similarity : Similarity Embedding Rat}

def TenantMemoryRepository.remember (search : NearestQuery String similarity)
    (tenantId : String) (rows : List (MemoryFact String Embedding))
    (call : RememberCall Embedding) : List (MemoryFact String Embedding) :=
  MemoryService.remember search dedupThreshold tenantId rows call

def UserMemoryRepository.remember (search : NearestQuery (String × String) similarity)
    (tenantId userId : String) (rows : List (MemoryFact (String × String) Embedding))
    (call : RememberCall Embedding) : List (MemoryFact (String × String) Embedding) :=
  MemoryService.remember search dedupThreshold (tenantId, userId) rows call

end

/-! ## Histories -/

section

variable {Owner Embedding Score : Type} [LinearOrder Score]
  {similarity : Similarity Embedding Score} (search : NearestQuery Owner similarity)
  (threshold : Score)

/-- A call of `remember` with a vector, for some owner. -/
structure Remembered (Owner Embedding : Type) where
  owner : Owner
  call : RememberCall Embedding
  vector : Embedding
  given : call.embedding = some vector

def remembering (rows : List (MemoryFact Owner Embedding))
    (input : Remembered Owner Embedding) : List (MemoryFact Owner Embedding) :=
  remember search threshold input.owner rows input.call

def Separated (similarity : Similarity Embedding Score) (threshold : Score)
    (rows : List (MemoryFact Owner Embedding)) : Prop :=
  ∀ owner one two first second, one ≠ two → Placed rows owner one first →
    Placed rows owner two second → similarity.score first second < threshold

/-- What is promised of a call. -/
structure KeepsFacts (rows : List (MemoryFact Owner Embedding))
    (input : Remembered Owner Embedding) : Prop where
  separated : Separated similarity threshold (remembering search threshold rows input)
  confidence : ∀ (place : Nat) (before : MemoryFact Owner Embedding),
    rows[place]? = some before → ∃ after : MemoryFact Owner Embedding,
      (remembering search threshold rows input)[place]? = some after ∧
        after.owner = before.owner ∧ before.confidence ≤ after.confidence
  represented : ∃ place vector,
    Placed (remembering search threshold rows input) input.owner place vector ∧
      (vector = input.vector ∨ threshold ≤ similarity.score vector input.vector)
  others : ∀ (place : Nat) (row : MemoryFact Owner Embedding), row.owner ≠ input.owner →
    ((remembering search threshold rows input)[place]? = some row ↔ rows[place]? = some row)

def AtMostOneSimilar (similarity : Similarity Embedding Score) (threshold : Score)
    (rows : List (MemoryFact Owner Embedding)) (input : Remembered Owner Embedding) : Prop :=
  ∀ one two first second, Placed rows input.owner one first → Placed rows input.owner two second →
      threshold ≤ similarity.score first input.vector →
        threshold ≤ similarity.score second input.vector → one = two

variable {search threshold} {rows : List (MemoryFact Owner Embedding)}
  {input : Remembered Owner Embedding}

theorem remembering_cases (search : NearestQuery Owner similarity) (threshold : Score)
    (rows : List (MemoryFact Owner Embedding)) (input : Remembered Owner Embedding) :
    (∃ place vector, Placed rows input.owner place vector ∧
        threshold ≤ similarity.score vector input.vector ∧
        remembering search threshold rows input =
          rows.modify place fun existing => existing.merged input.call) ∨
      (∀ place vector, Placed rows input.owner place vector →
          similarity.score vector input.vector < threshold) ∧
        remembering search threshold rows input = rows ++ [input.call.record input.owner] := by
  rw [remembering, remember, mergePlace, input.given]
  dsimp only
  rw [findSimilar]
  cases found : search.first rows input.owner input.vector with
  | none =>
    right
    refine ⟨fun place vector placed => ?_, rfl⟩
    exact absurd placed ((search.none_iff _ _ _).mp found place vector)
  | some nearest =>
    rcases nearest with ⟨place, score⟩
    rcases search.nearest _ _ _ _ _ found with ⟨vector, placed, rfl, most⟩
    dsimp only
    by_cases below : similarity.score vector input.vector < threshold
    · rw [if_pos below]
      exact .inr ⟨fun other vector placed => (most other vector placed).trans_lt below, rfl⟩
    · rw [if_neg below]
      exact .inl ⟨place, vector, placed, not_lt.mp below, rfl⟩

theorem getElem?_merged (place other : Nat) :
    (rows.modify place fun existing => existing.merged input.call)[other]? =
      if place = other then rows[other]?.map fun existing => existing.merged input.call
      else rows[other]? := by
  rw [List.getElem?_modify]
  split
  · rfl
  · simp

theorem placed_merged_iff {place : Nat} {old : Embedding}
    (merges : Placed rows input.owner place old) {owner : Owner} {other : Nat}
    {vector : Embedding} :
    Placed (rows.modify place fun existing => existing.merged input.call) owner other vector ↔
      (other = place ∧ owner = input.owner ∧ vector = input.vector) ∨
        (other ≠ place ∧ Placed rows owner other vector) := by
  rcases merges with ⟨existing, found, own, -⟩
  rw [Placed]
  simp only [getElem?_merged]
  by_cases same : place = other
  · subst same
    simp only [if_true, found, Option.map_some, Option.some.injEq, exists_eq_left', true_and,
      ne_eq, not_true_eq_false, false_and, or_false, MemoryFact.merged, own, input.given]
    exact and_congr eq_comm eq_comm
  · rw [if_neg same]
    simp only [Ne.symm same, ne_eq, not_false_eq_true, false_and, true_and, false_or]
    exact Iff.rfl

theorem placed_added_iff {owner : Owner} {other : Nat} {vector : Embedding} :
    Placed (rows ++ [input.call.record input.owner]) owner other vector ↔
      (other = rows.length ∧ owner = input.owner ∧ vector = input.vector) ∨
        Placed rows owner other vector := by
  rw [Placed, Placed]
  rcases Nat.lt_trichotomy other rows.length with inside | here | outside
  · rw [List.getElem?_append_left inside]
    simp only [inside.ne, false_and, false_or]
  · subst here
    rw [List.getElem?_concat_length, List.getElem?_eq_none (le_refl _)]
    simp only [Option.some.injEq, exists_eq_left', RememberCall.record, input.given, true_and,
      reduceCtorEq, false_and, exists_false, or_false]
    exact and_congr eq_comm eq_comm
  · have beyond : (rows ++ [input.call.record input.owner]).length ≤ other := by
      rw [List.length_append, List.length_singleton]
      omega
    rw [List.getElem?_eq_none beyond, List.getElem?_eq_none outside.le]
    simp [outside.ne']

theorem separated_remembering_iff (apart : Separated similarity threshold rows) :
    Separated similarity threshold (remembering search threshold rows input) ↔
      AtMostOneSimilar similarity threshold rows input := by
  rcases remembering_cases search threshold rows input with
    ⟨place, old, merges, similar, after⟩ | ⟨none, after⟩
  · rw [after]
    constructor
    · intro separated one two first second atOne atTwo firstSimilar secondSimilar
      -- a similar fact that is not merged stays too close to the merged one
      have onlyPlace : ∀ other vector, Placed rows input.owner other vector →
          threshold ≤ similarity.score vector input.vector → other = place := by
        intro other vector placed close
        by_contra elsewhere
        apply absurd (separated input.owner other place vector input.vector elsewhere _ _)
        · exact not_lt.mpr close
        · exact (placed_merged_iff merges).mpr (.inr ⟨elsewhere, placed⟩)
        · exact (placed_merged_iff merges).mpr (.inl ⟨rfl, rfl, rfl⟩)
      rw [onlyPlace one first atOne firstSimilar, onlyPlace two second atTwo secondSimilar]
    · intro atMostOne owner one two first second different atOne atTwo
      have others : ∀ other vector, other ≠ place → Placed rows input.owner other vector →
          similarity.score vector input.vector < threshold := by
        intro other vector elsewhere placed
        by_contra close
        exact elsewhere (atMostOne other place vector old placed merges (not_lt.mp close) similar)
      rw [placed_merged_iff merges] at atOne atTwo
      rcases atOne with ⟨rfl, rfl, rfl⟩ | ⟨elsewhere, atOne⟩
      · rcases atTwo with ⟨rfl, -, -⟩ | ⟨elsewhere, atTwo⟩
        · exact absurd rfl different
        · rw [similarity.symm]
          exact others two second elsewhere atTwo
      · rcases atTwo with ⟨rfl, rfl, rfl⟩ | ⟨-, atTwo⟩
        · exact others one first elsewhere atOne
        · exact apart owner one two first second different atOne atTwo
  · rw [after]
    apply iff_of_true
    · intro owner one two first second different atOne atTwo
      rw [placed_added_iff] at atOne atTwo
      rcases atOne with ⟨rfl, rfl, rfl⟩ | atOne
      · rcases atTwo with ⟨rfl, -, -⟩ | atTwo
        · exact absurd rfl different
        · rw [similarity.symm]
          exact none two second atTwo
      · rcases atTwo with ⟨rfl, rfl, rfl⟩ | atTwo
        · exact none one first atOne
        · exact apart owner one two first second different atOne atTwo
    · intro one two first second atOne _ similar _
      exact absurd similar (not_le.mpr (none one first atOne))

theorem keepsFacts_iff_separated : KeepsFacts search threshold rows input ↔
      Separated similarity threshold (remembering search threshold rows input) := by
  refine ⟨KeepsFacts.separated, fun separated => ⟨separated, ?_, ?_, ?_⟩⟩
  all_goals
    rcases remembering_cases search threshold rows input with
      ⟨place, old, merges, similar, after⟩ | ⟨none, after⟩ <;> rw [after]
  · intro other before found
    rw [getElem?_merged, found]
    split
    · exact ⟨_, rfl, rfl, le_max_left _ _⟩
    · exact ⟨_, rfl, rfl, le_refl _⟩
  · intro other before found
    have inside : other < rows.length := (List.getElem?_eq_some_iff.mp found).1
    rw [List.getElem?_append_left inside]
    exact ⟨before, found, rfl, le_refl _⟩
  · exact ⟨place, input.vector, (placed_merged_iff merges).mpr (.inl ⟨rfl, rfl, rfl⟩), .inl rfl⟩
  · exact ⟨rows.length, input.vector, placed_added_iff.mpr (.inl ⟨rfl, rfl, rfl⟩), .inl rfl⟩
  · intro other row foreign
    rcases merges with ⟨existing, found, own, -⟩
    rw [getElem?_merged]
    split
    · next same =>
      subst same
      rw [found, Option.map_some, Option.some.injEq, Option.some.injEq]
      apply iff_of_false
      · rintro rfl
        exact foreign own
      · rintro rfl
        exact foreign own
    · exact Iff.rfl
  · intro other row foreign
    rcases Nat.lt_trichotomy other rows.length with inside | here | outside
    · rw [List.getElem?_append_left inside]
    · subst here
      rw [List.getElem?_concat_length, List.getElem?_eq_none (le_refl _), Option.some.injEq]
      apply iff_of_false
      · rintro rfl
        exact foreign rfl
      · exact fun found => Option.some_ne_none _ found.symm
    · have beyond : (rows ++ [input.call.record input.owner]).length ≤ other := by
        rw [List.length_append, List.length_singleton]
        omega
      rw [List.getElem?_eq_none beyond, List.getElem?_eq_none outside.le]

/-- Every call of a history keeps what it promises exactly when none of them meets two facts
that are similar to its own. -/
theorem keepsFacts_iff (apart : Separated similarity threshold rows)
    (inputs : List (Remembered Owner Embedding)) :
    (∀ earlier input later, inputs = earlier ++ input :: later →
      KeepsFacts search threshold (run (remembering search threshold) rows earlier) input) ↔
      Allowed (remembering search threshold) (AtMostOneSimilar similarity threshold) rows
        inputs := by
  rw [← allowed_iff_passed]
  constructor
  · intro keeps
    apply keeps.imp (remembering search threshold) (Separated similarity threshold) _ apart
    intro rows input kept apart
    exact ⟨kept.separated, (separated_remembering_iff apart).mp kept.separated⟩
  · intro allowed
    apply allowed.imp (remembering search threshold) (Separated similarity threshold) _ apart
    intro rows input atMostOne apart
    have separated : Separated similarity threshold (remembering search threshold rows input) :=
      (separated_remembering_iff apart).mpr atMostOne
    exact ⟨separated, keepsFacts_iff_separated.mpr separated⟩

end

/-- The cosine of two vectors of length one in the plane. -/
def cosine : Similarity (Rat × Rat) Rat where
  score one two := one.1 * two.1 + one.2 * two.2
  symm one two := by ring

def rememberedFact (fact : String) (vector : Rat × Rat) : Remembered String (Rat × Rat) where
  owner := "acme"
  call :=
    { fact, category := "practice", source := "assistant", confidence := 1
      embedding := some vector, now := 0 }
  vector := vector
  given := rfl

/-- Two facts at cosine 4/5, and a third one close to both of them. -/
def closingFacts : List (Remembered String (Rat × Rat)) :=
  [rememberedFact "Reviews are quarterly" (1, 0),
    rememberedFact "Reviews are done by managers" (4 / 5, 3 / 5),
    rememberedFact "Managers review every quarter" (12 / 13, 5 / 13)]

theorem separated_nil : Separated cosine dedupThreshold
    ([] : List (MemoryFact String (Rat × Rat))) := by
  rintro owner one two first second - ⟨row, found, -⟩
  cases found

theorem keepsFacts_iff_closing : (∀ earlier input later, closingFacts = earlier ++ input :: later →
      KeepsFacts (.scan cosine) dedupThreshold
        (run (remembering (.scan cosine) dedupThreshold) [] earlier) input) ↔
      Allowed (remembering (.scan cosine) dedupThreshold)
        (AtMostOneSimilar cosine dedupThreshold) [] closingFacts :=
  keepsFacts_iff separated_nil closingFacts

/-- The second fact takes the third one's vector and comes close to the first one. -/
theorem merged_fact_not_apart : ¬ ∀ earlier input later, closingFacts = earlier ++ input :: later →
      KeepsFacts (.scan cosine) dedupThreshold
        (run (remembering (.scan cosine) dedupThreshold) [] earlier) input := by
  intro keeps
  have last := (keeps (closingFacts.take 2)
    (rememberedFact "Managers review every quarter" (12 / 13, 5 / 13)) [] rfl).separated
  apply absurd (last "acme" 0 1 (1, 0) (12 / 13, 5 / 13) (by decide) _ _)
  · decide +kernel
  · exact mem_vectorsOf_iff.mp (by decide +kernel)
  · exact mem_vectorsOf_iff.mp (by decide +kernel)

end Onpremai.MemoryService
