import Onpremai.AgentEval.Retriever
import Onpremai.Library.Machine
import Onpremai.Preprocessor.Models

/-!
# Review of generated criteria

Generated criteria wait in the memory service as candidates until a reviewer approves or rejects
them.  A review reads the stored set, marks it, and writes it back; generation overwrites it; the
evaluator reads what is stored.
-/

namespace Onpremai.Preprocessor

open Onpremai.Library

abbrev SkillKey := String × String

/-- A record that a recall returns. -/
def skillRecord (key : SkillKey) (skillData : Json) : Json :=
  .obj [("skill_name", .str key.2), ("skill_data", skillData)]

/-- The skill memory behind the client: a recall returns what was stored last under the tenant
and the name. -/
structure SkillMemory (Memory : Type) where
  empty : Memory
  skillRecall : Memory → SkillKey → List Json
  skillStore : Memory → SkillKey → Json → Memory
  skillRecall_empty : ∀ key, skillRecall empty key = []
  skillRecall_skillStore : ∀ memory key skillData other,
    skillRecall (skillStore memory key skillData) other =
      if key = other then [skillRecord key skillData] else skillRecall memory other

/-- How a store request ends.  The client answers `False` also where the request was carried out
and only its answer was lost. -/
inductive WriteOutcome where
  | acknowledged
  | unanswered
  | refused
  deriving DecidableEq, Repr

def criteriaKey (tenantId framework controlId : String) : SkillKey :=
  (tenantId, "criteria/" ++ framework ++ "/" ++ controlId)

/-- What a reviewer decides. -/
inductive Decision where
  | approve
  | reject (reason : String)
  deriving DecidableEq, Repr

def Decision.status : Decision → String
  | .approve => "approved"
  | .reject _ => "rejected"

/-- What a review request does once the criteria are read: it answers, or it stores them. -/
inductive ReviewStep where
  | answers (success : Bool)
  | stores (skillData metadata : Json)

namespace ReviewManager

/-- `criteria_data[key] = value` for each of the values. -/
def assignFields (values fields : List (String × Json)) : List (String × Json) :=
  values.foldl (fun assigned value => Dict.setEntry value.1 value.2 assigned) fields

def markCriterion (status : String) : Json → Json
  | .obj fields => .obj (assignFields [("status", .str status)] fields)
  | other => other

def markCriteria (status : String) (values : List (String × Json)) :
    Json → Except String (Json × Nat)
  | .obj fields =>
    match Json.field? "criteria" (assignFields values fields) with
    | none => .ok (.obj (assignFields values fields), 0)
    | some (.arr items) =>
      .ok (.obj (assignFields [("criteria", .arr (items.map (markCriterion status)))]
        (assignFields values fields)), items.length)
    | some criteria =>
      (Python.iterated criteria).map fun items =>
        (.obj (assignFields values fields), items.length)
  | _ => .error "object does not support item assignment"

/-- Approve a candidate criteria set for use by agent-eval. -/
def approve (criteriaData : Json) : Except String ReviewStep :=
  if Python.truthy criteriaData = false then .ok (.answers false)
  else do
    let currentStatus ← Python.getOr "status" (.str "") criteriaData
    if currentStatus.isString "approved" then return .answers true
    if currentStatus.isString "rejected" then return .answers false
    let (marked, count) ← markCriteria "approved" [("status", .str "approved")] criteriaData
    return .stores marked (.obj
      [("source", .str "policy_analysis"), ("status", .str "approved"),
       ("criteria_count", .num count)])

def reject (reason : String) (criteriaData : Json) : Except String ReviewStep :=
  if Python.truthy criteriaData = false then .ok (.answers false)
  else do
    let currentStatus ← Python.getOr "status" (.str "") criteriaData
    if currentStatus.isString "rejected" then return .answers true
    let (marked, count) ← markCriteria "rejected"
      [("status", .str "rejected"), ("rejection_reason", .str reason)] criteriaData
    return .stores marked (.obj
      [("source", .str "policy_analysis"), ("status", .str "rejected"),
       ("rejection_reason", .str reason), ("criteria_count", .num count)])

def recallCriteria : List Json → Except String Json
  | [] => .ok (.obj [])
  | first :: _ => do
    let data ← Python.getOr "data" first first
    Python.getOr "skill_data" data first

end ReviewManager

/-- A review request up to its store request, on the records that were recalled. -/
def Decision.review (decision : Decision) (recalled : List Json) : Except String ReviewStep := do
  let criteriaData ← ReviewManager.recallCriteria recalled
  match decision with
  | .approve => ReviewManager.approve criteriaData
  | .reject reason => ReviewManager.reject reason criteriaData

/-- `store_criteria`: the key, the data and the metadata of the store request for a dumped set. -/
def storeCriteria (criteria : GeneratedTestingCriteria Json) (tenantId : String) :
    SkillKey × Json × Json :=
  (criteriaKey tenantId criteria.framework criteria.controlId, criteria.modelDump, .obj
      [("source", .str "policy_analysis"), ("status", .str criteria.status),
       ("criteria_count", .num criteria.criteria.length)])

/-- The status field of a set. -/
def CarriesStatus (status : String) (data : Json) : Prop := data.get? "status" = some (.str status)

namespace ReviewManager

theorem carriesStatus_of_isString {status : String} {data current : Json}
    (read : Python.getOr "status" (.str "") data = .ok current)
    (named : current.isString status = true) (nonempty : status ≠ "") :
    CarriesStatus status data := by
  cases data with
  | obj fields =>
    cases read
    rw [CarriesStatus, Json.get?_obj]
    cases found : Json.field? "status" fields with
    | none =>
      rw [found] at named
      exact absurd (of_decide_eq_true named).symm nonempty
    | some value =>
      rw [found] at named
      cases value with
      | str text => rw [of_decide_eq_true named]
      | null => cases named
      | bool value => cases named
      | num value => cases named
      | arr items => cases named
      | obj fields => cases named
  | null => cases read
  | bool value => cases read
  | num value => cases read
  | str text => cases read
  | arr items => cases read

theorem carriesStatus_of_markCriteria {status : String} {values : List (String × Json)}
    {data marked : Json} {count : Nat}
    (assigned : ∀ fields, Json.field? "status" (assignFields values fields) = some (.str status))
    (ran : markCriteria status values data = .ok (marked, count)) :
    CarriesStatus status marked := by
  cases data with
  | obj fields =>
    rw [markCriteria] at ran
    cases found : Json.field? "criteria" (assignFields values fields) with
    | none =>
      rw [found] at ran
      cases ran
      exact assigned fields
    | some criteria =>
      rw [found] at ran
      cases criteria with
      | arr items =>
        cases ran
        have apart : ("criteria" : String) ≠ "status" := by decide
        rw [CarriesStatus, Json.get?_obj, assignFields, List.foldl_cons, List.foldl_nil,
          Json.field?_setEntry, if_neg apart]
        exact assigned fields
      | obj entries =>
        cases ran
        exact assigned fields
      | str text =>
        cases ran
        exact assigned fields
      | null => cases ran
      | bool value => cases ran
      | num value => cases ran
  | null => cases ran
  | bool value => cases ran
  | num value => cases ran
  | str text => cases ran
  | arr items => cases ran

theorem approve_answers {data : Json} (ran : approve data = .ok (.answers true)) :
    CarriesStatus "approved" data := by
  rw [approve] at ran
  split at ran
  · cases ran
  · obtain ⟨current, read, rest⟩ := bind_eq_ok.mp ran
    split at rest
    · next named => exact carriesStatus_of_isString read named (by decide)
    · split at rest
      · cases rest
      · obtain ⟨⟨marked, count⟩, -, stores⟩ := bind_eq_ok.mp rest
        cases stores

theorem approve_stores {data marked metadata : Json}
    (ran : approve data = .ok (.stores marked metadata)) : CarriesStatus "approved" marked := by
  rw [approve] at ran
  split at ran
  · cases ran
  · obtain ⟨current, read, rest⟩ := bind_eq_ok.mp ran
    split at rest
    · cases rest
    · split at rest
      · cases rest
      · obtain ⟨⟨written, count⟩, made, stores⟩ := bind_eq_ok.mp rest
        cases stores
        apply carriesStatus_of_markCriteria _ made
        intro fields
        rw [assignFields, List.foldl_cons, List.foldl_nil, Json.field?_setEntry, if_pos rfl]

theorem reject_answers {data : Json} {reason : String}
    (ran : reject reason data = .ok (.answers true)) : CarriesStatus "rejected" data := by
  rw [reject] at ran
  split at ran
  · cases ran
  · obtain ⟨current, read, rest⟩ := bind_eq_ok.mp ran
    split at rest
    · next named => exact carriesStatus_of_isString read named (by decide)
    · obtain ⟨⟨marked, count⟩, -, stores⟩ := bind_eq_ok.mp rest
      cases stores

end ReviewManager

/-- How the set that is stored under a key came to be stored as it is. -/
inductive Standing where
  | generated
  | approved (acknowledged : Bool)
  | rejected
  deriving DecidableEq, Repr

/-- The set that a key holds: the number of its generation, and what was done with it last. -/
structure StoredSet where
  number : Nat
  standing : Standing
  deriving DecidableEq, Repr

/-- A review request between its read and its write. -/
structure PendingReview where
  key : SkillKey
  number : Nat
  decision : Decision
  skillData : Json

/-- The memory service, the requests under way, and the record of what happened: which set a key
holds, and the latest acknowledged decision on every set. -/
structure ReviewState (Memory : Type) where
  memory : Memory
  sets : Dict SkillKey StoredSet := .empty
  pending : List PendingReview := []
  generations : Nat := 0
  decisions : Dict (SkillKey × Nat) Decision := .empty

/-- A step of a run.  A recall that is not answered reads an empty list. -/
inductive ReviewMove where
  | generate (tenantId : String) (criteria : GeneratedTestingCriteria Json) (outcome : WriteOutcome)
  | beginReview (decision : Decision) (tenantId framework controlId : String) (answered : Bool)
  | finishReview (index : Nat) (outcome : WriteOutcome)
  | evaluate (tenantId framework controlId : String) (answered : Bool)

/-- What a decision leaves a set as, once it is stored. -/
def Decision.standing (acknowledged : Bool) : Decision → Standing
  | .approve => .approved acknowledged
  | .reject _ => .rejected

section

variable {Memory : Type} (skills : SkillMemory Memory)

namespace ReviewState

variable (state : ReviewState Memory) (key : SkillKey)

def recalled (answered : Bool) : List Json :=
  if answered then skills.skillRecall state.memory key else []

def put (skillData : Json) (stored : StoredSet) : ReviewState Memory :=
  { state with
    memory := skills.skillStore state.memory key skillData
    sets := state.sets.set key stored }

def acknowledge (number : Nat) (decision : Decision) : ReviewState Memory :=
  { state with decisions := state.decisions.set (key, number) decision }

/-- `store_criteria` of a pipeline run, with the next generated set. -/
def generate (skillData : Json) : WriteOutcome → ReviewState Memory
  | .refused => state
  | _ =>
    { state.put skills key skillData ⟨state.generations, .generated⟩ with
      generations := state.generations + 1 }

def beginReview (decision : Decision) (answered : Bool) : ReviewState Memory :=
  match state.sets.get? key, decision.review (state.recalled skills key answered) with
  | some stored, .ok (.answers true) =>
    { state.acknowledge key stored.number decision with
      sets := state.sets.set key { stored with standing := decision.standing true } }
  | some stored, .ok (.stores skillData _) =>
    { state with pending := state.pending ++ [⟨key, stored.number, decision, skillData⟩] }
  | _, _ => state

/-- The store request of a review. -/
def settle (review : PendingReview) : WriteOutcome → ReviewState Memory
  | .acknowledged =>
    (state.put skills review.key review.skillData
      ⟨review.number, review.decision.standing true⟩).acknowledge review.key review.number
        review.decision
  | .unanswered =>
    state.put skills review.key review.skillData
      ⟨review.number, review.decision.standing false⟩
  | .refused => state

/-- A review request writes what it read and marked. -/
def finishReview (index : Nat) (outcome : WriteOutcome) : ReviewState Memory :=
  match state.pending[index]? with
  | some review =>
    { state.settle skills review outcome with pending := state.pending.eraseIdx index }
  | none => state

def step (state : ReviewState Memory) : ReviewMove → ReviewState Memory
  | .generate tenantId criteria outcome =>
    state.generate skills (storeCriteria criteria tenantId).1
      (storeCriteria criteria tenantId).2.1 outcome
  | .beginReview decision tenantId framework controlId answered =>
    state.beginReview skills (criteriaKey tenantId framework controlId) decision answered
  | .finishReview index outcome => state.finishReview skills index outcome
  | .evaluate .. => state

/-- The memory service before anything is stored. -/
def initial : ReviewState Memory where
  memory := skills.empty

/-! ## What every run keeps -/

def Holds (stored : StoredSet) : Prop :=
  ∃ data, skills.skillRecall state.memory key = [skillRecord key data] ∧
    (∀ acknowledged, stored.standing = .approved acknowledged → CarriesStatus "approved" data) ∧
    (stored.standing = .approved true → state.decisions.get? (key, stored.number) = some .approve)

/-- The memory agrees with the record, and an approval under way writes an approved set. -/
structure Kept : Prop where
  absent : ∀ key, state.sets.get? key = none → skills.skillRecall state.memory key = []
  present : ∀ key stored, state.sets.get? key = some stored → state.Holds skills key stored
  waiting : ∀ review ∈ state.pending, review.decision = .approve →
    CarriesStatus "approved" review.skillData

variable {skills state}

theorem kept_initial : (initial skills).Kept skills where
  absent key _ := skills.skillRecall_empty key
  present key stored found := by cases found
  waiting review member := by cases member

theorem Kept.replace (kept : state.Kept skills) {next : ReviewState Memory} {key : SkillKey}
    {stored : StoredSet} {data : Json}
    (memory : ∀ other, skills.skillRecall next.memory other =
      if key = other then [skillRecord key data] else skills.skillRecall state.memory other)
    (sets : next.sets = state.sets.set key stored)
    (decisions : ∀ other number, key ≠ other →
      next.decisions.get? (other, number) = state.decisions.get? (other, number))
    (status : ∀ acknowledged, stored.standing = .approved acknowledged →
      CarriesStatus "approved" data)
    (decided : stored.standing = .approved true →
      next.decisions.get? (key, stored.number) = some .approve)
    (waiting : ∀ review ∈ next.pending, review.decision = .approve →
      CarriesStatus "approved" review.skillData) : next.Kept skills where
  absent other missing := by
    rw [sets, Dict.get?_set] at missing
    split at missing
    · cases missing
    · next apart =>
      rw [memory, if_neg apart]
      exact kept.absent other missing
  present other current holds := by
    rw [sets, Dict.get?_set] at holds
    split at holds
    · next same =>
      cases same
      cases holds
      exact ⟨data, by rw [memory, if_pos rfl], status, decided⟩
    · next apart =>
      obtain ⟨old, read, marked, agreed⟩ := kept.present other current holds
      refine ⟨old, ?_, marked, ?_⟩
      · rw [memory, if_neg apart, read]
      · intro standing
        rw [decisions other current.number apart]
        exact agreed standing
  waiting := waiting

theorem Kept.put (kept : state.Kept skills) {key : SkillKey} {stored : StoredSet} {data : Json}
    {decisions : Dict (SkillKey × Nat) Decision} {pending : List PendingReview}
    {generations : Nat}
    (others : ∀ other number, key ≠ other →
      decisions.get? (other, number) = state.decisions.get? (other, number))
    (status : ∀ acknowledged, stored.standing = .approved acknowledged →
      CarriesStatus "approved" data)
    (decided : stored.standing = .approved true →
      decisions.get? (key, stored.number) = some .approve)
    (waiting : ∀ review ∈ pending, review.decision = .approve →
      CarriesStatus "approved" review.skillData) :
    ReviewState.Kept skills
      { memory := skills.skillStore state.memory key data, sets := state.sets.set key stored,
        pending, generations, decisions } :=
  kept.replace (skills.skillRecall_skillStore state.memory key data) rfl others status decided
    waiting

theorem kept_generate (kept : state.Kept skills) (key : SkillKey) (data : Json)
    (outcome : WriteOutcome) : (state.generate skills key data outcome).Kept skills := by
  have performed : ReviewState.Kept skills
      { state.put skills key data ⟨state.generations, .generated⟩ with
        generations := state.generations + 1 } := by
    apply kept.put
    · exact fun _ _ _ => rfl
    · intro acknowledged standing
      cases standing
    · intro standing
      cases standing
    · exact kept.waiting
  cases outcome with
  | acknowledged => exact performed
  | unanswered => exact performed
  | refused => exact kept

section

variable (key : SkillKey) (number : Nat) (decision : Decision)

theorem get?_acknowledge (other : SkillKey) (query : Nat) (apart : key ≠ other) :
    (state.acknowledge key number decision).decisions.get? (other, query) =
      state.decisions.get? (other, query) := by
  rw [acknowledge, Dict.get?_set, if_neg]
  intro same
  exact apart (congrArg Prod.fst same)

theorem get?_acknowledge_self :
    (state.acknowledge key number decision).decisions.get? (key, number) = some decision := by
  rw [acknowledge, Dict.get?_set, if_pos rfl]

end

theorem eq_approve_of_standing {decision : Decision} {acknowledged other : Bool}
    (approved : decision.standing acknowledged = .approved other) : decision = .approve := by
  cases decision with
  | approve => rfl
  | reject reason => cases approved

theorem status_of_answers {decision : Decision} {key : SkillKey} {data : Json}
    (ran : decision.review [skillRecord key data] = .ok (.answers true)) :
    CarriesStatus decision.status data := by
  cases decision with
  | approve => exact ReviewManager.approve_answers ran
  | reject reason => exact ReviewManager.reject_answers ran

theorem status_of_stores {key : SkillKey} {data marked metadata : Json}
    (ran : Decision.approve.review [skillRecord key data] = .ok (.stores marked metadata)) :
    CarriesStatus "approved" marked :=
  ReviewManager.approve_stores ran

theorem review_nil (decision : Decision) : decision.review [] = .ok (.answers false) := by
  cases decision with
  | approve => rfl
  | reject reason => rfl

theorem kept_answers (kept : state.Kept skills) {key : SkillKey} {decision : Decision}
    {stored : StoredSet} {data : Json}
    (read : skills.skillRecall state.memory key = [skillRecord key data])
    (ran : decision.review [skillRecord key data] = .ok (.answers true)) :
    ReviewState.Kept skills
      { state.acknowledge key stored.number decision with
        sets := state.sets.set key { stored with standing := decision.standing true } } := by
  have memory (other : SkillKey) : skills.skillRecall state.memory other =
      if key = other then [skillRecord key data] else skills.skillRecall state.memory other := by
    split
    · next same => rw [← same, read]
    · rfl
  refine kept.replace memory rfl (get?_acknowledge key stored.number decision) ?_ ?_ kept.waiting
  · intro acknowledged standing
    have status := status_of_answers ran
    rw [eq_approve_of_standing standing] at status
    exact status
  · intro standing
    rw [← eq_approve_of_standing standing]
    exact get?_acknowledge_self key stored.number decision

theorem kept_beginReview (kept : state.Kept skills) (key : SkillKey) (decision : Decision)
    (answered : Bool) : (state.beginReview skills key decision answered).Kept skills := by
  rw [beginReview]
  cases found : state.sets.get? key with
  | none => exact kept
  | some stored =>
    cases answered with
    | false =>
      rw [recalled, if_neg Bool.false_ne_true, review_nil]
      exact kept
    | true =>
      obtain ⟨data, read, marked, agreed⟩ := kept.present key stored found
      rw [recalled, if_pos rfl, read]
      cases ran : decision.review [skillRecord key data] with
      | error message => exact kept
      | ok reviewed =>
        cases reviewed with
        | answers success =>
          cases success with
          | false => exact kept
          | true =>
            exact kept_answers kept read ran
        | stores skillData metadata =>
          refine ⟨kept.absent, kept.present, ?_⟩
          intro review member approved
          rcases List.mem_append.mp member with old | new
          · exact kept.waiting review old approved
          · cases List.mem_singleton.mp new
            cases approved
            exact status_of_stores ran

theorem kept_settle (kept : state.Kept skills) {review : PendingReview}
    (member : review ∈ state.pending) (outcome : WriteOutcome) :
    (state.settle skills review outcome).Kept skills := by
  have status (acknowledged other : Bool)
      (approved : review.decision.standing acknowledged = .approved other) :
      CarriesStatus "approved" review.skillData :=
    kept.waiting review member (eq_approve_of_standing approved)
  cases outcome with
  | acknowledged =>
    apply kept.put (get?_acknowledge review.key review.number review.decision)
    · exact status true
    · intro standing
      rw [← eq_approve_of_standing standing]
      exact get?_acknowledge_self review.key review.number review.decision
    · exact kept.waiting
  | unanswered =>
    apply kept.put (fun _ _ _ => rfl)
    · exact status false
    · intro standing
      -- a decision whose answer was lost is not an acknowledged one
      cases decided : review.decision with
      | approve => rw [decided] at standing; cases standing
      | reject reason => rw [decided] at standing; cases standing
    · exact kept.waiting
  | refused => exact kept

/-- The requests under way are among the earlier ones. -/
theorem Kept.fewer (kept : state.Kept skills) {pending : List PendingReview}
    (fewer : ∀ review ∈ pending, review ∈ state.pending) :
    ReviewState.Kept skills { state with pending } where
  absent := kept.absent
  present := kept.present
  waiting review member := kept.waiting review (fewer review member)

theorem pending_settle (review : PendingReview) (outcome : WriteOutcome) :
    (state.settle skills review outcome).pending = state.pending := by
  cases outcome with
  | acknowledged => rfl
  | unanswered => rfl
  | refused => rfl

theorem kept_step (kept : state.Kept skills) (move : ReviewMove) :
    (state.step skills move).Kept skills := by
  cases move with
  | generate tenantId criteria outcome => exact kept_generate kept _ _ outcome
  | beginReview decision tenantId framework controlId answered =>
    exact kept_beginReview kept _ decision answered
  | finishReview index outcome =>
    rw [step, finishReview]
    cases found : state.pending[index]? with
    | none => exact kept
    | some review =>
      apply (kept_settle kept (List.mem_of_getElem? found) outcome).fewer
      intro other member
      rw [pending_settle]
      exact List.mem_of_mem_eraseIdx member
  | evaluate tenantId framework controlId answered => exact kept

section

variable (skills : SkillMemory Memory) (services : AgentEval.RetrieverServices)
  (state : ReviewState Memory)

/-- What an evaluation asks of its surroundings, on the current memory. -/
def servicesOn (key : SkillKey) (answered : Bool) : AgentEval.RetrieverServices :=
  { services with skillRecall := .ok (.arr (state.recalled skills key answered)) }

def FromApproved (key : SkillKey) (criteria : AgentEval.TestingCriteria) : Prop :=
  ∃ stored data, state.sets.get? key = some stored ∧
    skills.skillRecall state.memory key = [skillRecord key data] ∧
    services.validateCriteria data = some criteria ∧ CarriesStatus "approved" data ∧
    state.decisions.get? (key, stored.number) = some .approve

def UsesApproved : ReviewMove → Prop
  | .evaluate tenantId framework controlId answered =>
    ∀ criteria, AgentEval.loadFromMemory (state.servicesOn skills services
        (criteriaKey tenantId framework controlId) answered) = some criteria →
      state.FromApproved skills services (criteriaKey tenantId framework controlId) criteria
  | _ => True

def ApprovedLast (state : ReviewState Memory) : ReviewMove → Prop
  | .evaluate tenantId framework controlId answered =>
    answered = true → ∀ stored,
      state.sets.get? (criteriaKey tenantId framework controlId) = some stored →
        stored.standing = .approved true
  | _ => True

end

variable {services : AgentEval.RetrieverServices}

theorem loadFromMemory_nil {key : SkillKey} {answered : Bool}
    (nothing : state.recalled skills key answered = []) :
    AgentEval.loadFromMemory (state.servicesOn skills services key answered) = none := by
  rw [AgentEval.loadFromMemory, servicesOn, nothing]

theorem loadFromMemory_skillRecord {key : SkillKey} {answered : Bool} {data : Json}
    (read : state.recalled skills key answered = [skillRecord key data]) :
    AgentEval.loadFromMemory (state.servicesOn skills services key answered) =
      services.validateCriteria data := by
  rw [AgentEval.loadFromMemory, servicesOn, read]
  rfl

theorem usesApproved_of_approvedLast (kept : state.Kept skills) {move : ReviewMove}
    (last : state.ApprovedLast move) : state.UsesApproved skills services move := by
  cases move with
  | evaluate tenantId framework controlId answered =>
    intro criteria loaded
    cases answered with
    | false =>
      rw [loadFromMemory_nil rfl] at loaded
      cases loaded
    | true =>
      cases found : state.sets.get? (criteriaKey tenantId framework controlId) with
      | none =>
        have nothing : state.recalled skills _ true = [] := kept.absent _ found
        rw [loadFromMemory_nil nothing] at loaded
        cases loaded
      | some stored =>
        obtain ⟨data, read, marked, agreed⟩ := kept.present _ stored found
        have loads : state.recalled skills _ true = [skillRecord _ data] := read
        rw [loadFromMemory_skillRecord loads] at loaded
        have standing := last rfl stored found
        exact ⟨stored, data, found, read, loaded, marked true standing, agreed standing⟩
  | generate tenantId criteria outcome => trivial
  | beginReview decision tenantId framework controlId answered => trivial
  | finishReview index outcome => trivial

end ReviewState

end

def dictMemory : SkillMemory (Dict SkillKey Json) where
  empty := .empty
  skillRecall memory key := ((memory.get? key).map fun data => [skillRecord key data]).getD []
  skillStore memory key skillData := memory.set key skillData
  skillRecall_empty _ := rfl
  skillRecall_skillStore memory key skillData other := by
    rw [Dict.get?_set]
    split
    · next same => rw [same]; rfl
    · rfl

/-- The validation of a criterion whose fields are all given. -/
def criterionFrom (data : Json) : Option AgentEval.Criterion := do
  let .str id ← data.get? "id" | none
  let .str category ← data.get? "category" | none
  let .str question ← data.get? "question" | none
  let .str evidenceType ← data.get? "evidence_type" | none
  let .str passCondition ← data.get? "pass_condition" | none
  let .str failCondition ← data.get? "fail_condition" | none
  let .num weight ← data.get? "weight" | none
  return { id, category, question, evidenceType, passCondition, failCondition, weight }

/-- The validation of criteria whose fields are all given. -/
def criteriaFrom (data : Json) : Option AgentEval.TestingCriteria := do
  let .str controlId ← data.get? "control_id" | none
  let .str framework ← data.get? "framework" | none
  let .arr items ← data.get? "criteria" | none
  let criteria ← items.mapM criterionFrom
  return { controlId, framework, criteria }

/-- Surroundings of an evaluation without a bundled index. -/
def bareServices : AgentEval.RetrieverServices where
  skillRecall := .ok (.arr [])
  ragIndex := { loaded := false, criteriaIndex := .empty }
  validateCriteria := criteriaFrom

def accessCriteria : GeneratedTestingCriteria Json where
  controlId := "CC6.1"
  framework := "soc2"
  tenantId := "t-1"
  controlObjective := "Ensure compliance with soc2 control CC6.1"
  criteria :=
    [{ id := "c-1", category := "policy", question := "Is access reviewed?"
       evidenceType := "document", passCondition := "Reviewed quarterly"
       failCondition := "Not reviewed", weight := 1 }]

def reviewedRun : List ReviewMove := [.generate "t-1" accessCriteria .acknowledged,
    .beginReview .approve "t-1" "soc2" "CC6.1" true, .finishReview 0 .acknowledged,
    .evaluate "t-1" "soc2" "CC6.1" true]

namespace ReviewState

/-- In every interleaving whose evaluations find an acknowledged approval as the last thing done
with the set, every evaluation uses approved criteria. -/
theorem evaluates_approved {Memory : Type} {skills : SkillMemory Memory}
    {services : AgentEval.RetrieverServices} {moves : List ReviewMove}
    (last : Allowed (step skills) ApprovedLast (initial skills) moves) :
    Allowed (step skills) (UsesApproved skills services) (initial skills) moves := by
  apply last.imp (step skills) (Kept skills)
  · intro state move approved kept
    exact ⟨kept_step kept move, usesApproved_of_approvedLast kept approved⟩
  · exact kept_initial

theorem evaluates_approved_reviewed :
    Allowed (step dictMemory) (UsesApproved dictMemory bareServices) (initial dictMemory)
        reviewedRun ∧
      (AgentEval.loadFromMemory
        ((run (step dictMemory) (initial dictMemory) reviewedRun).servicesOn dictMemory
          bareServices (criteriaKey "t-1" "soc2" "CC6.1") true)).isSome = true := by
  constructor
  · apply evaluates_approved
    refine ⟨trivial, trivial, trivial, ?_, trivial⟩
    intro _ stored found
    cases found
    rfl
  · rfl

/-- A candidate is evaluated before anyone reviewed it. -/
theorem candidate_is_used :
    ¬ ∀ moves, Allowed (step dictMemory) (UsesApproved dictMemory bareServices)
      (initial dictMemory) moves := by
  intro always
  have run := always
    [.generate "t-1" accessCriteria .acknowledged, .evaluate "t-1" "soc2" "CC6.1" true]
  obtain ⟨stored, data, found, read, valid, marked, decided⟩ := run.2.1 _ rfl
  cases decided

end ReviewState

end Onpremai.Preprocessor
