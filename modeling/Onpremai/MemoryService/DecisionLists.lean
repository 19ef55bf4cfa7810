import Mathlib.Algebra.Order.Ring.Unbundled.Rat
import Onpremai.Library.Orderings
import Onpremai.MemoryService.Keyspace

/-!
# Lists of decisions

The decisions of a tenant are looked up one by one, in the order in which Redis gives the
members of the index, and the lookup ends as soon as there are as many as the limit.  Only
what was looked up until then is sorted.
-/

namespace Onpremai.MemoryService

open Library

def indexMembers (space : Keyspace) (tenantId : String) : List String :=
  match space.get? (tenantIndexKey tenantId) with
  | some (.set members) => members
  | _ => []

def decisionDocument (space : Keyspace) (tenantId evaluationId : String) : Option Json :=
  match space.get? (decisionKey tenantId evaluationId) with
  | some (.text document) => some document
  | _ => none

def passesFilters (body : DecisionListBody) (decision : Json) : Bool :=
  !collectDecisions.otherThan "framework" body.framework decision &&
    !collectDecisions.otherThan "status" body.status decision

def matchingDecisions (space : Keyspace) (body : DecisionListBody)
    (evaluationIds : List String) : List Json :=
  (evaluationIds.filterMap (decisionDocument space body.tenantId)).filter (passesFilters body)

/-- The decisions of a tenant are stored where the endpoints put them: the index is a set, and
its members lead to the dumps of decisions or to nothing. -/
structure StoresDecisions (space : Keyspace) (tenantId : String) : Prop where
  index : ∀ value, space.get? (tenantIndexKey tenantId) = some value →
    ∃ members, value = .set members
  documents : ∀ evaluationId ∈ indexMembers space tenantId, ∀ value,
    space.get? (decisionKey tenantId evaluationId) = some value →
      ∃ decision : Decision, value = .text decision.toDict

def ListsNewest (space : Keyspace) (body : DecisionListBody) : Prop :=
  ∀ arrange : List String → List String, (∀ members, (arrange members).Perm members) →
    ∃ decisions, Keyspace.listDecisions arrange body space =
        (.ok (.obj [("decisions", .arr decisions)]), space) ∧
      Leads createdAt body.limit.toNat
        (matchingDecisions space body (indexMembers space body.tenantId)) decisions

/-! ## What a list request reads -/

section

variable {space : Keyspace} {body : DecisionListBody}

theorem get_decisionKey {evaluationId : String} (stored : StoresDecisions space body.tenantId)
    (member : evaluationId ∈ indexMembers space body.tenantId) :
    Redis.get (decisionKey body.tenantId evaluationId) space =
      (.ok (decisionDocument space body.tenantId evaluationId), space) := by
  rw [decisionDocument]
  cases held : space.get? (decisionKey body.tenantId evaluationId) with
  | none => exact Redis.typed_of_eq (by rw [held]; rfl)
  | some value =>
    rcases stored.documents evaluationId member value held with ⟨decision, rfl⟩
    exact Redis.get_of_text held

theorem smembers_tenantIndexKey (stored : StoresDecisions space body.tenantId) :
    Redis.smembers (tenantIndexKey body.tenantId) space =
      (.ok (indexMembers space body.tenantId), space) := by
  rw [indexMembers]
  cases held : space.get? (tenantIndexKey body.tenantId) with
  | none => exact Redis.typed_of_eq (by rw [held]; rfl)
  | some value =>
    rcases stored.index value held with ⟨members, rfl⟩
    exact Redis.typed_of_eq (by rw [held]; rfl)

theorem matchingDecisions_cons (evaluationId : String) (rest : List String) :
    matchingDecisions space body (evaluationId :: rest) =
      ((decisionDocument space body.tenantId evaluationId).toList.filter (passesFilters body)) ++
        matchingDecisions space body rest := by
  rw [matchingDecisions, List.filterMap_cons]
  cases decisionDocument space body.tenantId evaluationId with
  | none => rfl
  | some decision => exact List.filter_append [decision] _

theorem collectDecisions_eq (stored : StoresDecisions space body.tenantId)
    {evaluationIds : List String}
    (members : ∀ evaluationId ∈ evaluationIds, evaluationId ∈ indexMembers space body.tenantId)
    {decisions : List Json} (room : (decisions.length : Int) < body.limit) :
    collectDecisions body decisions evaluationIds space =
      (.ok (decisions ++ (matchingDecisions space body evaluationIds).take
        (body.limit.toNat - decisions.length)), space) := by
  induction evaluationIds generalizing decisions with
  | nil =>
    rw [collectDecisions, matchingDecisions]
    simp [pure]
  | cons evaluationId rest ih =>
    rw [List.forall_mem_cons] at members
    rw [collectDecisions, Handler.bind_of_ok (get_decisionKey stored members.1),
      matchingDecisions_cons]
    cases decisionDocument space body.tenantId evaluationId with
    | none => exact ih members.2 room
    | some decision =>
      by_cases passes : passesFilters body decision = true
      · have both := passes
        rw [passesFilters, Bool.and_eq_true, Bool.not_eq_true', Bool.not_eq_true'] at both
        have vacant : 0 < body.limit.toNat - decisions.length := by omega
        simp only [both.1, both.2, Bool.false_eq_true, if_false, Option.toList_some,
          List.filter_singleton, passes, cond_true, List.singleton_append]
        rw [List.take_cons vacant]
        split
        · next full =>
          rw [List.length_append, List.length_singleton] at full
          have last : body.limit.toNat - decisions.length - 1 = 0 := by omega
          rw [last, List.take_zero]
          rfl
        · next more =>
          rw [ih members.2 (by omega), List.append_assoc, List.length_append,
            List.length_singleton, Nat.sub_add_eq, List.singleton_append]
      · have dropped : (if collectDecisions.otherThan "framework" body.framework decision
            then collectDecisions body decisions rest
            else if collectDecisions.otherThan "status" body.status decision
              then collectDecisions body decisions rest
              else if body.limit ≤ ((decisions ++ [decision]).length : Int)
                then pure (decisions ++ [decision])
                else collectDecisions body (decisions ++ [decision]) rest) =
            collectDecisions body decisions rest := by
          rw [passesFilters, Bool.and_eq_true, Bool.not_eq_true', Bool.not_eq_true',
            not_and_or, Bool.not_eq_false, Bool.not_eq_false] at passes
          rcases passes with framework | status
          · rw [if_pos framework]
          · rw [if_pos status, ite_self]
        have none : [decision].filter (passesFilters body) = [] := by
          simpa using passes
        rw [Option.toList_some, none, List.nil_append]
        exact (congrFun dropped space).trans (ih members.2 room)

theorem listDecisions_eq (stored : StoresDecisions space body.tenantId)
    (positive : 0 < body.limit) {arrange : List String → List String}
    (arranges : ∀ members, (arrange members).Perm members) :
    Keyspace.listDecisions arrange body space = (.ok (.obj [("decisions", .arr (sortDown createdAt
        ((matchingDecisions space body (arrange (indexMembers space body.tenantId))).take
          body.limit.toNat)))]), space) := by
  have known : ∀ evaluationId ∈ arrange (indexMembers space body.tenantId),
      evaluationId ∈ indexMembers space body.tenantId :=
    fun evaluationId inside => (arranges _).mem_iff.mp inside
  have room : (([] : List Json).length : Int) < body.limit := by
    simpa using positive
  have collected := collectDecisions_eq stored known room
  rw [Keyspace.listDecisions, Handler.bind_of_ok (smembers_tenantIndexKey stored),
    Handler.bind_of_ok collected]
  rfl

theorem matchingDecisions_perm {first second : List String} (same : first.Perm second) :
    (matchingDecisions space body first).Perm (matchingDecisions space body second) :=
  (same.filterMap _).filter _

theorem exists_arrangement {members : List String} {older newer : Json}
    (olderMatches : older ∈ matchingDecisions space body members)
    (newerMatches : newer ∈ matchingDecisions space body members)
    (apart : older ≠ newer) :
    ∃ arranged, arranged.Perm members ∧ ∃ between,
      matchingDecisions space body arranged = older :: (between ++ [newer]) := by
  simp only [matchingDecisions, List.mem_filter, List.mem_filterMap] at olderMatches newerMatches
  rcases olderMatches with ⟨⟨first, firstIn, firstFound⟩, firstPasses⟩
  rcases newerMatches with ⟨⟨last, lastIn, lastFound⟩, lastPasses⟩
  have different : last ≠ first := by
    rintro rfl
    exact apart (Option.some.inj (firstFound.symm.trans lastFound))
  have lastLeft : last ∈ members.erase first := (List.mem_erase_of_ne different).mpr lastIn
  refine ⟨first :: ((members.erase first).erase last ++ [last]), ?_,
    matchingDecisions space body ((members.erase first).erase last), ?_⟩
  · apply List.Perm.trans _ (List.perm_cons_erase firstIn).symm
    apply List.Perm.cons
    exact (List.perm_append_singleton _ _).trans (List.perm_cons_erase lastLeft).symm
  · rw [matchingDecisions_cons, firstFound]
    simp [matchingDecisions, lastFound, firstPasses, lastPasses]

/-- The newest decisions are listed in every order of the index exactly when all that match fit
the limit, or when all of them are of one time. -/
theorem listsNewest_iff (stored : StoresDecisions space body.tenantId)
    (positive : 0 < body.limit) :
    ListsNewest space body ↔
      ((matchingDecisions space body (indexMembers space body.tenantId)).length : Int) ≤
          body.limit ∨
        ∀ one ∈ matchingDecisions space body (indexMembers space body.tenantId),
          ∀ two ∈ matchingDecisions space body (indexMembers space body.tenantId),
            createdAt one = createdAt two := by
  constructor
  · intro newest
    by_contra both
    rw [not_or, not_le] at both
    obtain ⟨more, differ⟩ := both
    push Not at differ
    rcases differ with ⟨one, oneIn, two, twoIn, differ⟩
    -- the older of the two comes first and the newer one last
    obtain ⟨older, newer, olderIn, newerIn, earlier⟩ : ∃ older newer,
        older ∈ matchingDecisions space body (indexMembers space body.tenantId) ∧
          newer ∈ matchingDecisions space body (indexMembers space body.tenantId) ∧
            createdAt older < createdAt newer := by
      rcases lt_or_gt_of_ne differ with less | greater
      · exact ⟨one, two, oneIn, twoIn, less⟩
      · exact ⟨two, one, twoIn, oneIn, greater⟩
    have apart : older ≠ newer := by
      rintro rfl
      exact lt_irrefl _ earlier
    obtain ⟨arranged, same, between, found⟩ := exists_arrangement olderIn newerIn apart
    have arranges : ∀ members, ((fun members =>
        if members = indexMembers space body.tenantId then arranged else members) members).Perm
          members := by
      intro members
      dsimp only
      split
      · next this => exact this ▸ same
      · exact List.Perm.refl _
    obtain ⟨decisions, listed, leads⟩ := newest _ arranges
    rw [listDecisions_eq stored positive arranges] at listed
    simp only [Prod.mk.injEq, Except.ok.injEq, Json.obj.injEq, List.cons.injEq, Json.arr.injEq,
      and_true, true_and] at listed
    rw [← listed, if_pos trivial, leads_take_iff (matchingDecisions_perm same)] at leads
    have counted : (matchingDecisions space body _).length = _ :=
      (matchingDecisions_perm same).length_eq
    rw [found] at leads counted
    rw [List.length_cons, List.length_append, List.length_singleton] at counted
    obtain ⟨less, limit⟩ : ∃ less, body.limit.toNat = less + 1 := ⟨body.limit.toNat - 1, by omega⟩
    have short : less ≤ between.length := by omega
    rw [limit] at leads
    apply absurd (leads older _ newer _)
    · exact not_le.mpr earlier
    · exact List.mem_cons_self
    · rw [List.drop_succ_cons, List.drop_append_of_le_length short]
      exact List.mem_append_right _ (List.mem_singleton_self newer)
  · intro condition arrange arranges
    refine ⟨_, listDecisions_eq stored positive arranges, ?_⟩
    have same : (matchingDecisions space body _).Perm _ :=
      matchingDecisions_perm (arranges (indexMembers space body.tenantId))
    rw [leads_take_iff same]
    intro kept inside other behind
    rcases condition with few | alike
    · have fits : (matchingDecisions space body
          (arrange (indexMembers space body.tenantId))).length ≤ body.limit.toNat := by
        rw [same.length_eq]
        omega
      rw [List.drop_eq_nil_of_le fits] at behind
      cases behind
    · exact (alike other (same.mem_iff.mp (List.mem_of_mem_drop behind)) kept
        (same.mem_iff.mp (List.mem_of_mem_take inside))).le

end

def twoDecisions : Keyspace := .ofList [(tenantIndexKey "acme", .set ["eval-1", "eval-2"]),
    (decisionKey "acme" "eval-1", .text (decisionAt "eval-1" 100).toDict),
    (decisionKey "acme" "eval-2", .text (decisionAt "eval-2" 200).toDict)]
where
  decisionAt (evaluationId : String) (createdAt : Rat) : Decision :=
    ({ evaluationId, tenantId := "acme", controlId := "CC6.1", framework := "soc2"
       aiScore := 80, aiStatus := "pass" } : DecisionCreateBody).decision createdAt createdAt

theorem storesDecisions_twoDecisions : StoresDecisions twoDecisions "acme" where
  index := by
    intro value held
    have known : twoDecisions.get? (tenantIndexKey "acme") =
        some (.set ["eval-1", "eval-2"]) := by rfl
    exact ⟨_, Option.some.inj (held.symm.trans known)⟩
  documents := by
    intro evaluationId member value held
    have members : indexMembers twoDecisions "acme" = ["eval-1", "eval-2"] := by rfl
    rw [members, List.mem_pair] at member
    rcases member with rfl | rfl
    · have known : twoDecisions.get? (decisionKey "acme" "eval-1") =
          some (.text (twoDecisions.decisionAt "eval-1" 100).toDict) := by rfl
      exact ⟨_, Option.some.inj (held.symm.trans known)⟩
    · have known : twoDecisions.get? (decisionKey "acme" "eval-2") =
          some (.text (twoDecisions.decisionAt "eval-2" 200).toDict) := by rfl
      exact ⟨_, Option.some.inj (held.symm.trans known)⟩

theorem listsNewest_iff_twoDecisions : ListsNewest twoDecisions { tenantId := "acme", limit := 1 } ↔
      ((matchingDecisions twoDecisions { tenantId := "acme", limit := 1 }
          (indexMembers twoDecisions "acme")).length : Int) ≤ 1 ∨
        ∀ one ∈ matchingDecisions twoDecisions { tenantId := "acme", limit := 1 }
            (indexMembers twoDecisions "acme"),
          ∀ two ∈ matchingDecisions twoDecisions { tenantId := "acme", limit := 1 }
              (indexMembers twoDecisions "acme"), createdAt one = createdAt two :=
  listsNewest_iff storesDecisions_twoDecisions (by decide)

/-- A list of one decision has the older of the two. -/
theorem newer_decision_hidden :
    ¬ ListsNewest twoDecisions { tenantId := "acme", limit := 1 } := by
  intro newest
  obtain ⟨decisions, listed, leads⟩ := newest id fun members => List.Perm.refl members
  have answered : Keyspace.listDecisions id { tenantId := "acme", limit := 1 } twoDecisions = _ :=
    listDecisions_eq storesDecisions_twoDecisions (by decide) fun members =>
      List.Perm.refl members
  rw [answered] at listed
  simp only [Prod.mk.injEq, Except.ok.injEq, Json.obj.injEq, List.cons.injEq, Json.arr.injEq,
    and_true, true_and] at listed
  rw [← listed] at leads
  have short : Leads createdAt 1 [(twoDecisions.decisionAt "eval-1" 100).toDict,
      (twoDecisions.decisionAt "eval-2" 200).toDict] (sortDown createdAt
        ([(twoDecisions.decisionAt "eval-1" 100).toDict,
          (twoDecisions.decisionAt "eval-2" 200).toDict].take 1)) := leads
  have less := (leads_take_iff (List.Perm.refl _)).mp short _ List.mem_cons_self _
    (List.mem_singleton_self _)
  exact absurd less (by decide)

end Onpremai.MemoryService
