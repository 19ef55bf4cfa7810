import Onpremai.Library.Transducer
import Onpremai.MemoryService.Keyspace

/-!
# Tenants in one keyspace

The kinds of records never share a key, and the records of a tenant never do.  Two tenants keep
apart what they write and read exactly when neither identifier, with a colon after it, begins
the other one.
-/

namespace Onpremai.MemoryService

open Library

theorem append_separator_eq_iff {α : Type} {separator : α} {one two first second : List α} :
    one ++ separator :: first = two ++ separator :: second ↔ (one = two ∧ first = second) ∨
        (∃ middle, two = one ++ separator :: middle ∧ first = middle ++ separator :: second) ∨
        ∃ middle, one = two ++ separator :: middle ∧
          second = middle ++ separator :: first := by
  constructor
  · intro same
    obtain ⟨middle, longer, rest⟩ | ⟨middle, longer, rest⟩ := List.append_eq_append_iff.mp same
    · cases middle with
      | nil =>
        rw [List.append_nil] at longer
        exact .inl ⟨longer.symm, (List.cons.inj rest).2⟩
      | cons head middle =>
        obtain ⟨rfl, tail⟩ := List.cons.inj rest
        exact .inr (.inl ⟨middle, longer, tail⟩)
    · cases middle with
      | nil =>
        rw [List.append_nil] at longer
        exact .inl ⟨longer, (List.cons.inj rest).2.symm⟩
      | cons head middle =>
        obtain ⟨rfl, tail⟩ := List.cons.inj rest
        exact .inr (.inr ⟨middle, longer, tail⟩)
  · rintro (⟨rfl, rfl⟩ | ⟨middle, rfl, rfl⟩ | ⟨middle, rfl, rfl⟩)
    · rfl
    · simp
    · simp

/-- `second.startswith(first + ":")`. -/
def Nests (first second : String) : Prop := (first ++ ":").toList <+: second.toList

instance (first second : String) : Decidable (Nests first second) :=
  inferInstanceAs (Decidable (_ <+: _))

theorem nests_iff {first second : String} :
    Nests first second ↔ ∃ middle, second = first ++ ":" ++ middle := by
  constructor
  · intro nests
    obtain ⟨middle, whole⟩ := nests
    refine ⟨String.ofList middle, ?_⟩
    rw [← String.toList_inj, ← whole]
    simp
  · rintro ⟨middle, rfl⟩
    refine ⟨middle.toList, ?_⟩
    simp

theorem toList_tenantIndexKey (tenantId : String) :
    (tenantIndexKey tenantId).toList = "eval_decision_index:".toList ++ tenantId.toList :=
  String.toList_append

theorem tenantIndexKey_injective : Function.Injective tenantIndexKey := by
  intro one two same
  rw [← String.toList_inj, toList_tenantIndexKey, toList_tenantIndexKey] at same
  exact String.toList_inj.mp (List.append_cancel_left same)

namespace RecordKind

theorem toList_key (kind : RecordKind) (tenantId identifier : String) :
    (kind.key tenantId identifier).toList =
      kind.lead.toList ++ (tenantId.toList ++ ':' :: identifier.toList) := by
  simp [key]

theorem lead_apart (one two : RecordKind) (differ : one ≠ two) :
    ¬ one.lead.toList <+: two.lead.toList := by
  revert differ
  cases one <;> cases two <;> decide

theorem lead_index (kind : RecordKind) : ¬ kind.lead.toList <+: "eval_decision_index:".toList ∧
      ¬ "eval_decision_index:".toList <+: kind.lead.toList := by
  cases kind <;> decide

theorem key_eq_iff {one two : RecordKind} {tenantId otherId first second : String} :
    one.key tenantId first = two.key otherId second ↔ one = two ∧
        tenantId.toList ++ ':' :: first.toList = otherId.toList ++ ':' :: second.toList := by
  rw [← String.toList_inj, toList_key, toList_key]
  constructor
  · intro same
    by_cases kinds : one = two
    · subst kinds
      exact ⟨rfl, List.append_cancel_left same⟩
    · have other := List.prefix_append two.lead.toList (otherId.toList ++ ':' :: second.toList)
      rw [← same] at other
      have begins := List.prefix_or_prefix_of_prefix (List.prefix_append _ _) other
      exact absurd begins
        (not_or.mpr ⟨lead_apart one two kinds, lead_apart two one (Ne.symm kinds)⟩)
  · rintro ⟨rfl, same⟩
    rw [same]

theorem key_ne_of_apart {tenantId otherId : String} (one two : RecordKind)
    (first second : String) (differ : (one, tenantId, first) ≠ (two, otherId, second))
    (outside : ¬ Nests tenantId otherId) (inside : ¬ Nests otherId tenantId) :
    one.key tenantId first ≠ two.key otherId second := by
  intro same
  obtain ⟨rfl, texts⟩ := key_eq_iff.mp same
  rcases append_separator_eq_iff.mp texts with
    ⟨tenants, names⟩ | ⟨middle, longer, -⟩ | ⟨middle, longer, -⟩
  · exact differ (by rw [String.toList_inj.mp tenants, String.toList_inj.mp names])
  · exact outside ⟨middle, by simp [longer]⟩
  · exact inside ⟨middle, by simp [longer]⟩

theorem key_of_nests (kind : RecordKind) (tenantId middle identifier : String) :
    kind.key tenantId (middle ++ ":" ++ identifier) =
      kind.key (tenantId ++ ":" ++ middle) identifier := by
  rw [key_eq_iff]
  simp

theorem key_ne_index (kind : RecordKind) (tenantId identifier otherId : String) :
    kind.key tenantId identifier ≠ tenantIndexKey otherId := by
  intro same
  have index := List.prefix_append "eval_decision_index:".toList otherId.toList
  rw [← toList_tenantIndexKey, ← same, toList_key] at index
  have begins := List.prefix_or_prefix_of_prefix (List.prefix_append _ _) index
  exact absurd begins (not_or.mpr (lead_index kind))

end RecordKind

def OwnKey (tenantId key : String) : Prop :=
  (∃ (kind : RecordKind) (identifier : String), key = kind.key tenantId identifier) ∨
    key = tenantIndexKey tenantId

theorem ownKey_of_kind (kind : RecordKind) (tenantId identifier : String) :
    OwnKey tenantId (kind.key tenantId identifier) := .inl ⟨kind, identifier, rfl⟩

theorem not_ownKey_of_apart {tenantId otherId : String} (differ : tenantId ≠ otherId)
    (outside : ¬ Nests tenantId otherId) (inside : ¬ Nests otherId tenantId) {key : String}
    (own : OwnKey tenantId key) : ¬ OwnKey otherId key := by
  rcases own with ⟨kind, identifier, rfl⟩ | rfl
  · rintro (⟨other, name, same⟩ | same)
    · refine RecordKind.key_ne_of_apart kind other identifier name ?_ outside inside same
      exact fun whole => differ (Prod.ext_iff.mp (Prod.ext_iff.mp whole).2).1
    · exact RecordKind.key_ne_index kind tenantId identifier otherId same
  · rintro (⟨other, name, same⟩ | same)
    · exact RecordKind.key_ne_index other otherId name tenantId same.symm
    · exact differ (tenantIndexKey_injective same)

namespace Redis

variable {footprint : String → Prop} {key : String} (inside : footprint key)

include inside

theorem within_typed {α : Type} (absent : α) (cast : RedisValue → Option α) :
    Within footprint (typed absent cast key) := by
  apply (Within.look inside fun held => held.elim (some absent) cast).bind
  intro read
  cases read with
  | none => exact Within.raise _
  | some value => exact Within.pure value

theorem within_get : Within footprint (get key) := within_typed inside _ _

theorem within_lrange : Within footprint (lrange key) := within_typed inside _ _

theorem within_smembers : Within footprint (smembers key) := within_typed inside _ _

theorem within_set (document : Json) : Within footprint (set key document) := Within.set inside _

theorem within_delete : Within footprint (delete key) := Within.erase inside

theorem within_putList (items : List Json) : Within footprint (putList key items) :=
  Within.set inside _

theorem within_rpush (item : Json) : Within footprint (rpush key item) :=
  (within_lrange inside).bind fun _ => within_putList inside _

theorem within_sadd (member : String) : Within footprint (sadd key member) :=
  (within_smembers inside).bind fun _ => Within.set inside _

end Redis

section Endpoints

open Redis

theorem within_storeEdited {footprint : String → Prop} {key : String} (inside : footprint key)
    (edited : Option Json) : Within footprint (storeEdited key edited) := by
  cases edited with
  | none => exact Within.raise _
  | some document => exact (within_set inside document).bind fun _ => Within.pure document

theorem within_collectDecisions (body : DecisionListBody) (evaluationIds : List String)
    (decisions : List Json) :
    Within (OwnKey body.tenantId) (collectDecisions body decisions evaluationIds) := by
  induction evaluationIds generalizing decisions with
  | nil => exact Within.pure decisions
  | cons evaluationId rest ih =>
    apply (within_get (ownKey_of_kind .decision body.tenantId evaluationId)).bind
    intro read
    cases read with
    | none => exact ih decisions
    | some decision =>
      dsimp only
      split
      · exact ih decisions
      · split
        · exact ih decisions
        · split
          · exact Within.pure _
          · exact ih _

theorem within_readDecision {footprint : String → Prop} {key : String}
    (inside : footprint key) : Within footprint (Keyspace.readDecision key) := by
  apply (within_get inside).bind
  intro read
  cases read with
  | none => exact Within.raise _
  | some decision => exact Within.pure decision

end Endpoints

/-- The requests whose data is in Redis. -/
inductive TenantRequest where
  | getUserState (userId tenantId : String)
  | putUserState (body : UserStatePutBody)
  | pushEvent (body : EventPushBody)
  | drainEvents (userId tenantId : String)
  | createDecision (body : DecisionCreateBody)
  | getDecision (evaluationId tenantId : String)
  | overrideCriterion (body : DecisionOverrideBody)
  | approveDecision (body : DecisionApproveBody)
  | listDecisions (body : DecisionListBody)
  | addComment (body : CommentAddBody)
  | listComments (evaluationId tenantId : String)

namespace TenantRequest

def tenantId : TenantRequest → String
  | .getUserState _ tenantId => tenantId
  | .putUserState body => body.tenantId
  | .pushEvent body => body.tenantId
  | .drainEvents _ tenantId => tenantId
  | .createDecision body => body.tenantId
  | .getDecision _ tenantId => tenantId
  | .overrideCriterion body => body.tenantId
  | .approveDecision body => body.tenantId
  | .listDecisions body => body.tenantId
  | .addComment body => body.tenantId
  | .listComments _ tenantId => tenantId

def identifier? : TenantRequest → Option String
  | .getUserState userId _ => some userId
  | .putUserState body => some body.userId
  | .pushEvent body => some body.userId
  | .drainEvents userId _ => some userId
  | .createDecision body => some body.evaluationId
  | .getDecision evaluationId _ => some evaluationId
  | .overrideCriterion body => some body.evaluationId
  | .approveDecision body => some body.evaluationId
  | .listDecisions _ => none
  | .addComment body => some body.evaluationId
  | .listComments evaluationId _ => some evaluationId

/-- What the endpoint of a request does. -/
def command (arrange : List String → List String) (moment : Moment) : TenantRequest → Command Json
  | .getUserState userId tenantId => Keyspace.getUserState userId tenantId
  | .putUserState body => Keyspace.putUserState body
  | .pushEvent body => Keyspace.pushEvent moment body
  | .drainEvents userId tenantId => Keyspace.drainEvents userId tenantId
  | .createDecision body => Keyspace.createDecision moment body
  | .getDecision evaluationId tenantId => Keyspace.getDecision evaluationId tenantId
  | .overrideCriterion body => Keyspace.overrideCriterion moment body
  | .approveDecision body => Keyspace.approveDecision moment body
  | .listDecisions body => Keyspace.listDecisions arrange body
  | .addComment body => Keyspace.addComment moment body
  | .listComments evaluationId tenantId => Keyspace.listComments evaluationId tenantId

open Redis in
theorem within_command (arrange : List String → List String) (moment : Moment)
    (request : TenantRequest) :
    Within (OwnKey request.tenantId) (request.command arrange moment) := by
  cases request with
  | getUserState userId tenantId =>
    exact (within_get (ownKey_of_kind .userState tenantId userId)).bind fun _ => Within.pure _
  | putUserState body =>
    exact (within_set (ownKey_of_kind .userState body.tenantId body.userId) _).bind fun _ =>
      Within.pure _
  | pushEvent body =>
    have own := ownKey_of_kind .event body.tenantId body.userId
    apply (within_lrange own).bind
    intro queue
    exact (within_putList own _).bind fun _ => Within.pure _
  | drainEvents userId tenantId =>
    have own := ownKey_of_kind .event tenantId userId
    apply (within_lrange own).bind
    intro events
    exact (within_delete own).bind fun _ => Within.pure _
  | createDecision body =>
    apply (within_set (ownKey_of_kind .decision body.tenantId body.evaluationId) _).bind
    intro _
    exact (within_sadd (.inr rfl) body.evaluationId).bind fun _ => Within.pure _
  | getDecision evaluationId tenantId =>
    exact (within_get (ownKey_of_kind .decision tenantId evaluationId)).bind fun _ =>
      Within.pure _
  | overrideCriterion body =>
    have own := ownKey_of_kind .decision body.tenantId body.evaluationId
    change Within _ (Keyspace.overrideCriterion moment body)
    rw [Keyspace.overrideCriterion]
    split
    · exact Within.raise _
    · apply (within_readDecision own).bind
      intro decision
      exact (within_storeEdited own _).bind fun _ => Within.pure _
  | approveDecision body =>
    have own := ownKey_of_kind .decision body.tenantId body.evaluationId
    apply (within_readDecision own).bind
    intro decision
    exact (within_storeEdited own _).bind fun _ => Within.pure _
  | listDecisions body =>
    apply (within_smembers (.inr rfl)).bind
    intro evaluationIds
    exact (within_collectDecisions body _ _).bind fun _ => Within.pure _
  | addComment body =>
    exact (within_rpush (ownKey_of_kind .comment body.tenantId body.evaluationId) _).bind
      fun _ => Within.pure _
  | listComments evaluationId tenantId =>
    exact (within_lrange (ownKey_of_kind .comment tenantId evaluationId)).bind fun _ =>
      Within.pure _

end TenantRequest

/-- A request, with the identifiers and times that are drawn for it. -/
structure Arrival where
  moment : Moment
  request : TenantRequest

def replyOf : Except ApiReply Json → ApiReply
  | .ok body => ⟨200, body⟩
  | .error reply => reply

def serveArrival (arrange : List String → List String) (space : Keyspace) (arrival : Arrival) :
    Keyspace × ApiReply :=
  let outcome := arrival.request.command arrange arrival.moment space
  (outcome.2, replyOf outcome.1)

def Arrival.isFor (tenantId : String) (arrival : Arrival) : Bool :=
  decide (arrival.request.tenantId = tenantId)

theorem observed_of_apart {arrange : List String → List String} {tenantId otherId : String}
    (differ : tenantId ≠ otherId) (outside : ¬ Nests tenantId otherId)
    (inside : ¬ Nests otherId tenantId) (space : Keyspace) {arrivals : List Arrival}
    (theirs : ∀ arrival ∈ arrivals,
      arrival.request.tenantId = tenantId ∨ arrival.request.tenantId = otherId) :
    observed (Arrival.isFor otherId) arrivals (answers (serveArrival arrange) space arrivals) =
      answers (serveArrival arrange) space (arrivals.filter (Arrival.isFor otherId)) := by
  have all : Allowed (next (serveArrival arrange))
      (fun _ arrival => arrival.request.tenantId = tenantId ∨
        arrival.request.tenantId = otherId) space arrivals := by
    clear differ outside inside
    induction arrivals generalizing space with
    | nil => trivial
    | cons arrival rest ih =>
      rw [List.forall_mem_cons] at theirs
      exact ⟨theirs.1, ih _ theirs.2⟩
  refine observed_eq (Arrival.isFor otherId) (serveArrival arrange) (serveArrival arrange)
    (SameOn (OwnKey otherId)) ?_ ?_ (fun _ _ => rfl) all
  · intro one two arrival same _ own
    have within := arrival.request.within_command arrange arrival.moment
    rw [of_decide_eq_true own] at within
    obtain ⟨results, spaces⟩ := within.alike one two same
    exact ⟨congrArg replyOf results, spaces⟩
  · intro one two arrival same whose foreign
    have within := arrival.request.within_command arrange arrival.moment
    rw [whose.resolve_right (of_decide_eq_false foreign)] at within
    intro key own
    have kept := within.sameOn_of_apart
      (fun _ => not_ownKey_of_apart differ.symm inside outside) one key own
    exact kept.trans (same key own)

/-- The records of two tenants have different keys, and what one tenant is answered is what it is
answered where the other one makes no requests. -/
structure KeepsApart (arrange : List String → List String) (tenantId otherId : String) :
    Prop where
  keys : ∀ (one two : RecordKind) (first second : String), first ≠ "" → second ≠ "" →
    (one, tenantId, first) ≠ (two, otherId, second) →
      one.key tenantId first ≠ two.key otherId second
  reads : tenantId ≠ otherId → ∀ (space : Keyspace) (arrivals : List Arrival),
    (∀ arrival ∈ arrivals, arrival.request.identifier? ≠ some "" ∧
      (arrival.request.tenantId = tenantId ∨ arrival.request.tenantId = otherId)) →
      observed (Arrival.isFor otherId) arrivals (answers (serveArrival arrange) space arrivals) =
        answers (serveArrival arrange) space (arrivals.filter (Arrival.isFor otherId))

theorem getUserState_of_nested (arrange : List String → List String) (space : Keyspace)
    (moment : Moment) (tenantId middle userId : String) (data : List (String × Json)) :
    (serveArrival arrange
      (serveArrival arrange space
        ⟨moment, .putUserState ⟨middle ++ ":" ++ userId, tenantId, data⟩⟩).1
      ⟨moment, .getUserState userId (tenantId ++ ":" ++ middle)⟩).2 = ⟨200, .obj data⟩ := by
  have shared := RecordKind.key_of_nests .userState tenantId middle userId
  have put : (serveArrival arrange space
      ⟨moment, .putUserState ⟨middle ++ ":" ++ userId, tenantId, data⟩⟩).1 =
      space.set (userStateKey (tenantId ++ ":" ++ middle) userId) (.text (.obj data)) :=
    congrArg (fun key => space.set key (.text (.obj data))) shared
  have read : Redis.get (userStateKey (tenantId ++ ":" ++ middle) userId)
      (space.set (userStateKey (tenantId ++ ":" ++ middle) userId) (.text (.obj data))) =
      (.ok (some (.obj data)),
        space.set (userStateKey (tenantId ++ ":" ++ middle) userId) (.text (.obj data))) :=
    Redis.get_of_text (by rw [Dict.get?_set, if_pos rfl])
  rw [put, serveArrival, TenantRequest.command, Keyspace.getUserState, Handler.bind_of_ok read]
  rfl

theorem not_keepsApart_of_nests {arrange : List String → List String} {first second : String}
    (nests : Nests first second) :
    ¬ KeepsApart arrange first second ∧ ¬ KeepsApart arrange second first := by
  obtain ⟨middle, rfl⟩ := nests_iff.mp nests
  have shared := RecordKind.key_of_nests .userState first middle "user"
  have told : middle ++ ":" ++ "user" ≠ "" := by
    intro blank
    have letters := congrArg String.toList blank
    simp at letters
  have differ : first ≠ first ++ ":" ++ middle := by
    intro same
    have letters := congrArg (fun text => text.toList.length) same
    simp at letters
  have tuples : (RecordKind.userState, first, middle ++ ":" ++ "user") ≠
      (RecordKind.userState, first ++ ":" ++ middle, "user") := by
    intro same
    exact differ (Prod.ext_iff.mp (Prod.ext_iff.mp same).2).1
  constructor
  · intro apart
    exact apart.keys .userState .userState _ _ told (by decide) tuples shared
  · intro apart
    exact apart.keys .userState .userState _ _ (by decide) told tuples.symm shared.symm

/-- Two tenants keep apart exactly when neither identifier, with a colon after it, begins the
other one. -/
theorem keepsApart_iff (arrange : List String → List String) (tenantId otherId : String) :
    KeepsApart arrange tenantId otherId ↔
      ¬ Nests tenantId otherId ∧ ¬ Nests otherId tenantId := by
  constructor
  · intro apart
    exact ⟨fun nests => (not_keepsApart_of_nests nests).1 apart,
      fun nests => (not_keepsApart_of_nests nests).2 apart⟩
  · intro outside
    exact {
      keys := fun one two first second _ _ differ =>
        RecordKind.key_ne_of_apart one two first second differ outside.1 outside.2
      reads := fun differ space arrivals theirs =>
        observed_of_apart differ outside.1 outside.2 space fun arrival member =>
          (theirs arrival member).2 }

/-- A tenant with a colon in its identifier reads the state that another one has put. -/
theorem not_keepsApart_region : ¬ KeepsApart id "acme" "acme:eu" := by
  intro apart
  let moment : Moment := ⟨"", 0, 0⟩
  let put : Arrival := ⟨moment, .putUserState ⟨"eu:ann", "acme", [("plan", .null)]⟩⟩
  let get : Arrival := ⟨moment, .getUserState "ann" "acme:eu"⟩
  have theirs : ∀ arrival ∈ [put, get], arrival.request.identifier? ≠ some "" ∧
      (arrival.request.tenantId = "acme" ∨ arrival.request.tenantId = "acme:eu") := by
    simp only [List.forall_mem_cons, List.not_mem_nil, false_implies, implies_true, and_true]
    exact ⟨⟨by decide, .inl rfl⟩, by decide, .inr rfl⟩
  have same := apart.reads (by decide) Dict.empty [put, get] theirs
  have seen := getUserState_of_nested id Dict.empty moment "acme" "eu" "ann" [("plan", .null)]
  have alone : (serveArrival id Dict.empty get).2 = ⟨200, .obj []⟩ := rfl
  have others : Arrival.isFor "acme:eu" put = false := by decide
  have own : Arrival.isFor "acme:eu" get = true := by decide
  rw [List.filter_cons_of_neg (by simp [others]), List.filter_cons_of_pos own] at same
  simp only [answers, observed, others, own, Bool.false_eq_true, if_false, if_true,
    List.filter_nil, alone, List.cons.injEq, and_true] at same
  have names : "eu" ++ ":" ++ "ann" = "eu:ann" ∧ "acme" ++ ":" ++ "eu" = "acme:eu" := by decide
  rw [names.1, names.2] at seen
  cases same.symm.trans seen

end Onpremai.MemoryService
