import Onpremai.Gateway.AdminApi
import Onpremai.Observer.AutonomyLimits

/-!
# Changes at the gateway

A change is applied through the admin API of the gateway and rolled back from the snapshot
that was taken before.  The snapshot asks for the routing where no endpoint answers, and two
of the three payloads lack a field that their request model needs.
-/

namespace Onpremai.Observer

open Onpremai.Library Onpremai.Library.Python Onpremai.Gateway

/-- What the observer's requests carry and meet: the key that is sent along, of which the
observer's client itself sends none, the clocks, and the answer of the memory service to a
pattern. -/
structure Connection where
  key : Option String := none
  now : Rat
  appliedAt : Time
  memoryReply : HttpReply

def Change.taskName (change : Change) : String :=
  if change.task = "" then "default" else change.task

def canaryPayload (settings : ObserverSettings) (change : Change) : Json :=
  .obj ([("traffic_pct", .num settings.canaryTrafficPct),
      ("min_samples", .num settings.canaryMinSamples), ("change_id", .str change.id)] ++
    if truthy change.configDiff then [("config", change.configDiff)] else [])

/-- The request that applies a change, where it goes to the gateway. -/
def applyCall (settings : ObserverSettings) (change : Change) : Option AdminCall :=
  match change.applyTier, change.changeType with
  | .auto, .routing => some (.postRouting change.configDiff)
  | .auto, .threshold => some (.postThreshold change.configDiff)
  | .canary, _ => some (.setCanary change.taskName (canaryPayload settings change))
  | _, _ => none

def rollbackCall (change : Change) : Option AdminCall :=
  if change.status = .canaryRunning then some (.rollbackCanary change.taskName)
  else (restorePayload change).map .postRouting

section

variable (service : AdminService) (connection : Connection)

def send (call : Option AdminCall) : AdminService × Option AdminResponse :=
  match call with
  | none => (service, none)
  | some call =>
    let served := service.serve connection.key connection.now call
    (served.1, some served.2)

def replyOf (response : AdminResponse) : HttpReply := .answered response.statusCode response.body

def applyChange (settings : ObserverSettings) (applier : ApplierState) (change : Change)
    (circuitBreakerOpen : Bool) : AdminService × Except PyError (Change × ApplierState) :=
  let answerTo (call : AdminCall) := replyOf (service.serve connection.key connection.now call).2
  let sent := send service connection (applyCall settings (underBreaker circuitBreakerOpen change))
  let replies : Replies := {
    metrics := answerTo (.getTaskMetrics change.taskName)
    routing := answerTo .getRouting
    execute := (sent.2.map replyOf).getD connection.memoryReply
    appliedAt := connection.appliedAt }
  (sent.1, apply settings applier change circuitBreakerOpen replies)

def rollBack (change : Change) : AdminService × Except PyError (Change × Bool) :=
  let sent := send service connection (rollbackCall change)
  let reply := (sent.2.map replyOf).getD .httpError
  (sent.1,
    if change.status = .canaryRunning then rollbackCanary change reply else rollback change reply)

def applyThenRollBack (settings : ObserverSettings) (applier : ApplierState) (change : Change)
    (circuitBreakerOpen : Bool) : AdminService × List AdminCall :=
  let applied := applyChange service connection settings applier change circuitBreakerOpen
  let calls := (applyCall settings (underBreaker circuitBreakerOpen change)).toList
  match applied.2 with
  | .error _ => (applied.1, calls)
  | .ok (changed, _) =>
    ((rollBack applied.1 connection changed).1, calls ++ (rollbackCall changed).toList)

/-- The change leaves the routing and the thresholds as they were, and every payload is
accepted. -/
structure RoundTrip (settings : ObserverSettings) (applier : ApplierState) (change : Change)
    (circuitBreakerOpen : Bool) : Prop where
  routing : (applyThenRollBack service connection settings applier change
    circuitBreakerOpen).1.app.config = service.app.config
  thresholds : (applyThenRollBack service connection settings applier change
    circuitBreakerOpen).1.app.confidenceThresholds = service.app.confidenceThresholds
  accepted : ∀ call ∈ (applyThenRollBack service connection settings applier change
    circuitBreakerOpen).2, call.accepted service.process = true

def routedTier (issue : DetectedIssue) : String :=
  if 1 / 2 < issue.currentValue then "strong" else "mid"

def routeUpdate (issue : DetectedIssue) : List (String × Json) :=
  [("task_routing", .obj [(issue.task, .str (routedTier issue))])]

def AlreadyRouted (issue : DetectedIssue) : Prop :=
  ∀ rawData merged config, mergeBase service.file = .ok rawData →
    mergeUpdates rawData (routeUpdate issue) = .ok merged →
      parseRoutingConfig service.process (processDictEnvVars service.process merged) = .ok config →
        config = service.app.config

def LeavesGateway (issue : DetectedIssue) (change : Change) : Prop := change.applyTier = .human ∨
    change.applyTier = .auto ∧ (change.changeType = .pattern ∨ change.changeType = .routing ∧
          (service.refusesKey connection.key ≠ none ∨ AlreadyRouted service issue))

end

section

variable {settings : ObserverSettings} {service : AdminService} {connection : Connection}

theorem canaryPayload_rejected (process : Process) (change : Change) :
    (AdminCall.setCanary change.taskName (canaryPayload settings change)).accepted process =
      false := by
  have unnamed : ∀ config, Json.field? "model"
      ([("traffic_pct", .num settings.canaryTrafficPct),
        ("min_samples", .num settings.canaryMinSamples), ("change_id", .str change.id)] ++
        if truthy change.configDiff then [("config", config)] else []) = none := by
    intro config
    split
    · simp
    · simp
  rw [AdminCall.accepted, AdminCall.read, readCanarySet, canaryPayload]
  dsimp only [bodyFields, bind, Except.bind]
  rw [requiredField, unnamed]
  rfl

section

variable (process : Process) (diagnosis : Diagnosis) (issue : DetectedIssue)

theorem threshold_rejected :
    (AdminCall.postThreshold (buildConfigDiff .threshold diagnosis issue)).accepted process =
      false := by
  rw [AdminCall.accepted, AdminCall.read, readThresholdUpdate, buildConfigDiff]
  dsimp only [bodyFields, bind, Except.bind]
  rw [requiredField, Json.field?, if_pos rfl]
  dsimp only [textField]
  rw [requiredField]
  simp [Except.toOption]

theorem routing_read : ∃ update, AdminCall.read process
        (.postRouting (buildConfigDiff .routing diagnosis issue)) =
          .ok (some (.updateRouting update)) ∧ update.updates = routeUpdate issue := by
  refine ⟨{ taskRouting := some (.ofFields [(issue.task, routedTier issue)]) }, rfl, rfl⟩

end

variable {change changed : Change} {circuitBreakerOpen : Bool}

theorem takeSnapshot_unrouted {replies : Replies} {snapshot : Json}
    (unanswered : replies.routing.hasStatus 200 = false)
    (taken : takeSnapshot change replies = .ok snapshot) :
    Json.get? "routing" snapshot = none := by
  have unrouted : ∀ fields, Json.field? "routing" fields = none →
      ∀ snapshot, snapshotRouting replies fields = .ok snapshot →
        Json.get? "routing" snapshot = none := by
    intro fields absent snapshot taken
    rw [snapshotRouting] at taken
    cases routed : replies.routing with
    | raised error =>
      rw [routed] at taken
      cases taken
    | httpError =>
      rw [routed] at taken
      cases taken
      exact absent
    | answered status body =>
      rw [routed] at taken unanswered
      cases taken
      rw [if_neg (of_decide_eq_false unanswered)]
      exact absent
  rw [takeSnapshot] at taken
  cases metrics : replies.metrics with
  | raised error =>
    rw [metrics] at taken
    cases taken
  | httpError =>
    rw [metrics] at taken
    cases taken
    rfl
  | answered status body =>
    rw [metrics] at taken
    dsimp only at taken
    apply unrouted _ _ snapshot taken
    split
    · rfl
    · rfl

theorem applyCanary_snapshot {replies : Replies}
    (returned : applyCanary change replies = .ok changed) :
    changed.snapshot = change.snapshot := by
  rw [applyCanary] at returned
  cases executed : replies.execute with
  | raised error =>
    rw [executed] at returned
    cases returned
  | httpError =>
    rw [executed] at returned
    cases returned
    rfl
  | answered status body =>
    rw [executed] at returned
    dsimp only at returned
    split at returned
    · cases returned
      rfl
    · cases returned
      rfl

theorem apply_leaves_nothing {applier applied : ApplierState} {replies : Replies}
    (fresh : change.snapshot = .obj [])
    (unanswered : replies.routing.hasStatus 200 = false)
    (refused : (underBreaker circuitBreakerOpen change).applyTier = .canary →
      replies.execute.hasStatus 200 = false)
    (returned : apply settings applier change circuitBreakerOpen replies = .ok (changed, applied)) :
    changed.status ≠ .canaryRunning ∧ Json.get? "routing" changed.snapshot = none := by
  have kept : (underBreaker circuitBreakerOpen change).snapshot = .obj [] := by
    rw [underBreaker]
    split
    · exact fresh
    · exact fresh
  rw [apply_eq] at returned
  cases tier : (underBreaker circuitBreakerOpen change).applyTier with
  | auto =>
    rw [tier] at returned
    refine ⟨(applyAuto_keeps returned).2.2.2.2, ?_⟩
    simp only [applyAuto, bind_eq_ok] at returned
    obtain ⟨snapshot, taken, success, -, made⟩ := returned
    have unrouted := takeSnapshot_unrouted unanswered taken
    cases success with
    | true =>
      cases made
      exact unrouted
    | false =>
      cases made
      exact unrouted
  | canary =>
    rw [tier] at returned
    obtain ⟨canary, ran, made⟩ := bind_eq_ok.mp returned
    cases made
    constructor
    · intro running
      have accepted := (applyCanary_keeps ran).2.2.2.2.mp running
      exact absurd (accepted.symm.trans (refused tier)) Bool.noConfusion
    · rw [applyCanary_snapshot ran, kept]
      rfl
  | human =>
    rw [tier] at returned
    cases returned
    refine ⟨ChangeStatus.noConfusion, ?_⟩
    change Json.get? "routing" (underBreaker circuitBreakerOpen change).snapshot = none
    rw [kept]
    rfl

theorem rollBack_of_nothing (service : AdminService) (connection : Connection)
    (idle : changed.status ≠ .canaryRunning)
    (unrouted : Json.get? "routing" changed.snapshot = none) :
    rollbackCall changed = none ∧ (rollBack service connection changed).1 = service := by
  have noCall : rollbackCall changed = none := by
    rw [rollbackCall, if_neg idle, restorePayload, unrouted]
    rfl
  refine ⟨noCall, ?_⟩
  rw [rollBack, noCall]
  rfl

theorem applyCall_canary (tier : change.applyTier = .canary) : applyCall settings change =
      some (.setCanary change.taskName (canaryPayload settings change)) := by
  rw [applyCall, tier]

theorem applyThenRollBack_eq (applier : ApplierState) (fresh : change.snapshot = .obj []) :
    applyThenRollBack service connection settings applier change circuitBreakerOpen =
      ((send service connection
          (applyCall settings (underBreaker circuitBreakerOpen change))).1,
        (applyCall settings (underBreaker circuitBreakerOpen change)).toList) := by
  have unanswered : (replyOf
      (service.serve connection.key connection.now .getRouting).2).hasStatus 200 = false := rfl
  have refused : (underBreaker circuitBreakerOpen change).applyTier = .canary →
      (((send service connection (applyCall settings
        (underBreaker circuitBreakerOpen change))).2.map replyOf).getD
          connection.memoryReply).hasStatus 200 = false := by
    intro tier
    rw [applyCall_canary tier]
    exact decide_eq_false (AdminService.serve_of_rejected
      (canaryPayload_rejected service.process (underBreaker circuitBreakerOpen change))).2
  rw [applyThenRollBack]
  cases returned :
      (applyChange service connection settings applier change circuitBreakerOpen).2 with
  | error error => rfl
  | ok outcome =>
    dsimp only
    have nothing := apply_leaves_nothing fresh unanswered refused returned
    obtain ⟨noCall, same⟩ := rollBack_of_nothing
      (applyChange service connection settings applier change circuitBreakerOpen).1
      connection nothing.1 nothing.2
    rw [noCall, same]
    exact congrArg _ (List.append_nil _)

theorem handle_updateRouting (app : GatewayApp) (process : Process) (now : Rat)
    (file : ConfigFile) {body : RoutingUpdateRequest} (given : body.updates ≠ []) :
    (app.handle process now file (.updateRouting body)).1.confidenceThresholds =
        app.confidenceThresholds ∧
      (app.handle process now file (.updateRouting body)).1.config =
        (((updateRouting process now file body.updates).toOption.map ConfigLoader.config).getD
          app.config) := by
  have nonempty : ¬ body.updates.isEmpty = true := by simpa using given
  rw [GatewayApp.handle]
  cases updated : updateRouting process now file body.updates with
  | error error =>
    have failed : updateRoutingRoute process now file app.loader body =
        (app.loader, .failed 500 "Internal Server Error") := by
      rw [updateRoutingRoute, if_neg nonempty, updated]
    rw [failed]
    exact ⟨rfl, rfl⟩
  | ok loader =>
    have applied : updateRoutingRoute process now file app.loader body =
        (loader, .answered (.obj [("status", .str "applied"),
          ("updates", Json.strings (body.updates.map Prod.fst))])) := by
      rw [updateRoutingRoute, if_neg nonempty, updated]
    rw [applied]
    exact ⟨rfl, rfl⟩

theorem updateRouting_keeps_iff (service : AdminService) (now : Rat) (issue : DetectedIssue) :
    ((updateRouting service.process now service.file (routeUpdate issue)).toOption.map
        ConfigLoader.config).getD service.app.config = service.app.config ↔
      AlreadyRouted service issue := by
  constructor
  · intro keeps rawData merged config read mergedAll parsed
    have updated : updateRouting service.process now service.file (routeUpdate issue) =
        .ok { config, lastLoadTime := now } := by
      rw [updateRouting, read]
      dsimp only [bind, Except.bind]
      rw [mergedAll]
      dsimp only
      rw [parsed]
      rfl
    rw [updated] at keeps
    exact keeps
  · intro already
    cases updated : updateRouting service.process now service.file (routeUpdate issue) with
    | error error => rfl
    | ok loader =>
      simp only [updateRouting, bind_eq_ok] at updated
      obtain ⟨rawData, read, merged, mergedAll, config, parsed, made⟩ := updated
      cases made
      exact already rawData merged config read mergedAll parsed

/-! ## Proposals -/

/-- What a proposal asks for. -/
structure Proposes (diagnosis : Diagnosis) (issue : DetectedIssue) (change : Change) : Prop where
  fresh : change.snapshot = .obj []
  configDiff : change.configDiff = buildConfigDiff change.changeType diagnosis issue
  automatic : change.applyTier = .auto → defaultTier change.changeType = .auto

theorem classifyTier_auto {proposer : ProposerState} {changeType : ChangeType}
    {confidence : FloatValue} {sampleCount : Int}
    (auto : classifyTier settings proposer changeType confidence sampleCount = .auto) :
    defaultTier changeType = .auto := by
  rw [classifyTier] at auto
  split at auto
  · cases auto
  · cases tier : defaultTier changeType with
    | auto => rfl
    | canary =>
      rw [tier] at auto
      dsimp only at auto
      split at auto
      · cases auto
      · split at auto
        · cases auto
        · cases auto
    | human =>
      rw [tier] at auto
      cases auto

theorem proposes_of_propose {proposer : ProposerState} {changeId : String} {now : Time}
    {diagnosis : Diagnosis} {issue : DetectedIssue}
    (proposed : propose settings proposer changeId now diagnosis issue = some change) :
    Proposes diagnosis issue change := by
  rw [propose] at proposed
  split at proposed
  · cases proposed
  · cases known : changeTypeOf diagnosis.fixType with
    | none =>
      rw [known] at proposed
      cases proposed
    | some changeType =>
      rw [known] at proposed
      cases proposed
      exact ⟨rfl, rfl, classifyTier_auto⟩

theorem Proposes.underBreaker {diagnosis : Diagnosis} {issue : DetectedIssue}
    (proposes : Proposes diagnosis issue change) (circuitBreakerOpen : Bool) :
    Proposes diagnosis issue (underBreaker circuitBreakerOpen change) := by
  rw [Observer.underBreaker.eq_def]
  split
  · exact ⟨proposes.fresh, proposes.configDiff, fun auto => absurd auto ApplyTier.noConfusion⟩
  · exact proposes

end

section

variable {service : AdminService} {connection : Connection} {diagnosis : Diagnosis}
  {issue : DetectedIssue}

theorem send_routing :
    let after := (send service connection
      (some (.postRouting (buildConfigDiff .routing diagnosis issue)))).1
    after.app.confidenceThresholds = service.app.confidenceThresholds ∧
      (after.app.config = service.app.config ↔
        service.refusesKey connection.key ≠ none ∨ AlreadyRouted service issue) := by
  obtain ⟨update, read, updates⟩ := routing_read service.process diagnosis issue
  cases refused : service.refusesKey connection.key with
  | some refusal =>
    have same := (@AdminService.serve_of_refusesKey service connection.key connection.now
      (.postRouting (buildConfigDiff .routing diagnosis issue)) refusal refused).1
    rw [send]
    dsimp only
    rw [same]
    exact ⟨rfl, iff_of_true rfl (.inl (by simp))⟩
  | none =>
    have carried : (send service connection
        (some (.postRouting (buildConfigDiff .routing diagnosis issue)))).1.app =
          (service.app.handle service.process connection.now service.file
            (.updateRouting update)).1 := by
      rw [send, AdminService.serve, refused, AdminService.carryOut, read]
      rfl
    have given : update.updates ≠ [] := by
      rw [updates]
      exact List.cons_ne_nil _ _
    have handled := handle_updateRouting service.app service.process connection.now
      service.file given
    dsimp only
    rw [carried, handled.1, handled.2, updates, updateRouting_keeps_iff]
    exact ⟨rfl, by simp⟩

end

/-- For every state of the gateway and every change that is proposed, applying it and rolling
it back leaves the routing and the thresholds as they were with payloads that are accepted,
exactly if it waits for a human, is a pattern, or is a change of the routing that the gateway
refuses or that changes nothing. -/
theorem roundTrip_iff_leavesGateway (service : AdminService) (connection : Connection)
    (settings : ObserverSettings) (proposer : ProposerState) (applier : ApplierState)
    (changeId : String) (now : Time) (diagnosis : Diagnosis) (issue : DetectedIssue)
    (change : Change) (circuitBreakerOpen : Bool)
    (proposed : propose settings proposer changeId now diagnosis issue = some change) :
    RoundTrip service connection settings applier change circuitBreakerOpen ↔
      LeavesGateway service connection issue (underBreaker circuitBreakerOpen change) := by
  have proposes := proposes_of_propose proposed
  have same := @applyThenRollBack_eq settings service connection change circuitBreakerOpen
    applier proposes.fresh
  have asks := proposes.underBreaker circuitBreakerOpen
  generalize underBreaker circuitBreakerOpen change = tiered at same asks
  have roundTrip : RoundTrip service connection settings applier change circuitBreakerOpen ↔
      (send service connection (applyCall settings tiered)).1.app.config = service.app.config ∧
        (send service connection (applyCall settings tiered)).1.app.confidenceThresholds =
          service.app.confidenceThresholds ∧
        ∀ call ∈ applyCall settings tiered, call.accepted service.process = true := by
    constructor
    · rintro ⟨routing, thresholds, accepted⟩
      rw [same] at routing thresholds accepted
      exact ⟨routing, thresholds, fun call sent => accepted call (Option.mem_toList.mpr sent)⟩
    · rintro ⟨routing, thresholds, accepted⟩
      constructor
      · rw [same]
        exact routing
      · rw [same]
        exact thresholds
      · rw [same]
        exact fun call sent => accepted call (Option.mem_toList.mp sent)
  rw [roundTrip, LeavesGateway]
  cases tier : tiered.applyTier with
  | human =>
    have noCall : applyCall settings tiered = none := by rw [applyCall, tier]
    rw [noCall]
    exact iff_of_true ⟨rfl, rfl, fun call sent => absurd sent (by simp)⟩ (.inl rfl)
  | canary =>
    rw [applyCall_canary tier]
    apply iff_of_false
    · rintro ⟨_, _, accepted⟩
      have rejected := @canaryPayload_rejected settings service.process tiered
      exact absurd (rejected.symm.trans (accepted _ rfl)) Bool.false_ne_true
    · simp
  | auto =>
    have automatic := asks.automatic tier
    have payload := asks.configDiff
    cases typed : tiered.changeType with
    | routing =>
      have called : applyCall settings tiered =
          some (.postRouting (buildConfigDiff .routing diagnosis issue)) := by
        rw [applyCall, tier, typed, payload, typed]
      obtain ⟨update, read, _⟩ := routing_read service.process diagnosis issue
      have accepted : (AdminCall.postRouting
          (buildConfigDiff .routing diagnosis issue)).accepted service.process = true := by
        rw [AdminCall.accepted, read]
        rfl
      have sent := @send_routing service connection diagnosis issue
      rw [called]
      constructor
      · rintro ⟨routing, _, _⟩
        exact .inr ⟨rfl, .inr ⟨rfl, sent.2.mp routing⟩⟩
      · rintro (human | ⟨_, pattern | ⟨_, leaves⟩⟩)
        · cases human
        · cases pattern
        · refine ⟨sent.2.mpr leaves, sent.1, ?_⟩
          intro call made
          cases made
          exact accepted
    | threshold =>
      have called : applyCall settings tiered =
          some (.postThreshold (buildConfigDiff .threshold diagnosis issue)) := by
        rw [applyCall, tier, typed, payload, typed]
      rw [called]
      apply iff_of_false
      · rintro ⟨_, _, accepted⟩
        exact absurd ((threshold_rejected service.process diagnosis issue).symm.trans
          (accepted _ rfl)) Bool.false_ne_true
      · simp
    | pattern =>
      have noCall : applyCall settings tiered = none := by rw [applyCall, tier, typed]
      rw [noCall]
      exact iff_of_true ⟨rfl, rfl, fun call sent => absurd sent (by simp)⟩
        (.inr ⟨rfl, .inl rfl⟩)
    | prompt | model =>
      rw [typed] at automatic
      cases automatic

def freshGateway : AdminService where
  process := { environ := fun _ => "", floatOfString := fun _ => none }
  expectedKey := "secret"
  file := .missing
  app := { canary := { keyed := keyed_empty } }

def keyedConnection : Connection where
  key := some "secret"
  now := 0
  appliedAt := 0
  memoryReply := .answered 201 (.obj [])

def confidentDiagnosis (fixType : String) : Diagnosis where
  id := "diag_1"
  fixType := fixType
  confidence := .finite (9 / 10)

def sampledIssue : DetectedIssue where
  id := "issue_1"
  task := "evaluate"
  sampleCount := 30

def automaticChange (changeType : ChangeType) (fixType : String) : Change where
  id := "chg_1"
  changeType := changeType
  applyTier := .auto
  task := "evaluate"
  configDiff := buildConfigDiff changeType (confidentDiagnosis fixType) sampledIssue
  confidence := .finite (9 / 10)
  sampleCount := 30
  diagnosisId := "diag_1"
  issueId := "issue_1"
  proposedAt := 0

theorem propose_automatic {changeType : ChangeType} {fixType : String}
    (known : changeTypeOf fixType = some changeType)
    (tier : classifyTier {} {} changeType (.finite (9 / 10)) 30 = .auto) :
    propose {} {} "chg_1" 0 (confidentDiagnosis fixType) sampledIssue =
      some (automaticChange changeType fixType) := by
  have acts : ¬ (confidentDiagnosis fixType).confidence.below (6 / 10) = true := by
    have low : (FloatValue.finite (9 / 10)).below (6 / 10) = false := by decide +kernel
    rw [confidentDiagnosis, low]
    exact Bool.false_ne_true
  have typed : changeTypeOf (confidentDiagnosis fixType).fixType = some changeType := known
  rw [propose, if_neg acts, typed]
  dsimp only [confidentDiagnosis, sampledIssue]
  rw [tier]
  rfl

/-- A routing change stays in effect after its rollback, even with the key of the gateway, and
the payload of a threshold change is rejected with any key. -/
theorem changes_are_not_rolled_back : (∃ change,
      propose {} {} "chg_1" 0 (confidentDiagnosis "routing") sampledIssue = some change ∧
      (applyThenRollBack freshGateway keyedConnection {} {} change
        false).1.app.config.taskRouting.get? "evaluate" = some "mid" ∧
      ¬ RoundTrip freshGateway keyedConnection {} {} change false) ∧
    ∃ change, propose {} {} "chg_1" 0 (confidentDiagnosis "threshold") sampledIssue = some change ∧
      ∀ key, ¬ RoundTrip freshGateway { keyedConnection with key } {} {} change false := by
  have routed : (applyThenRollBack freshGateway keyedConnection {} {}
      (automaticChange .routing "routing") false).1.app.config.taskRouting.get? "evaluate" =
        some "mid" := by
    decide +kernel
  constructor
  · refine ⟨_, propose_automatic (by decide) (by decide +kernel), routed, ?_⟩
    intro roundTrip
    have before : freshGateway.app.config.taskRouting.get? "evaluate" = none := by decide
    rw [roundTrip.routing, before] at routed
    cases routed
  · refine ⟨automaticChange .threshold "threshold",
      propose_automatic (by decide) (by decide +kernel), ?_⟩
    intro key roundTrip
    have accepted := roundTrip.accepted
    rw [applyThenRollBack_eq {} rfl] at accepted
    have rejected := threshold_rejected freshGateway.process (confidentDiagnosis "threshold")
      sampledIssue
    exact absurd (rejected.symm.trans (accepted _ (List.mem_singleton_self _)))
      Bool.false_ne_true

theorem roundTrip_iff_leavesGateway_pattern :
    RoundTrip freshGateway keyedConnection {} {} (automaticChange .pattern "pattern") false ↔
      LeavesGateway freshGateway keyedConnection sampledIssue
        (underBreaker false (automaticChange .pattern "pattern")) :=
  roundTrip_iff_leavesGateway freshGateway keyedConnection {} {} {} "chg_1" 0
    (confidentDiagnosis "pattern") sampledIssue _ false
    (propose_automatic (by decide) (by decide +kernel))

end Onpremai.Observer
