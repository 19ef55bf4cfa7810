import Onpremai.Library.Except

/-!
# Workflows

A workflow runs one node after the other on a shared state, each node choosing the next one by the
state it leaves.  The runner counts the nodes and gives up at a limit.
-/

namespace Onpremai.Library

/-- What each node does to the state, and where the run goes from there. -/
structure Workflow (Node State Err : Type) where
  run : Node → State → Except Err State
  route : Node → State → Option Node

namespace Workflow

variable {Node State Err : Type} (workflow : Workflow Node State Err)

def exec (limitError : Err) : Nat → Node → State → Except Err State
  | 0, _, _ => .error limitError
  | limit + 1, node, state => do
    let next ← workflow.run node state
    match workflow.route node next with
    | none => return next
    | some following => exec limitError limit following next

def visits : Nat → Node → State → List (Node × State)
  | 0, _, _ => []
  | limit + 1, node, state =>
    (node, state) ::
      match workflow.run node state with
      | .error _ => []
      | .ok next =>
        match workflow.route node next with
        | none => []
        | some following => visits limit following next

/-- A rank that every route lowers. -/
structure Ranked where
  rank : Node → Nat
  rank_lt : ∀ node state following,
    workflow.route node state = some following → rank following < rank node

variable {workflow}

theorem exec_of_route {limitError : Err} {limit : Nat} {node following : Node}
    {state next : State} (ran : workflow.run node state = .ok next)
    (routed : workflow.route node next = some following) :
    workflow.exec limitError (limit + 1) node state =
      workflow.exec limitError limit following next := by
  rw [exec, ran]
  change (match workflow.route node next with | none => _ | some following => _) = _
  rw [routed]

theorem exec_of_raise {limitError exn : Err} {limit : Nat} {node : Node} {state : State}
    (raised : workflow.run node state = .error exn) :
    workflow.exec limitError (limit + 1) node state = .error exn := by
  rw [exec, raised]
  rfl

theorem exec_ok {limitError : Err} {limit : Nat} {node : Node} {state final : State}
    (ran : workflow.exec limitError limit node state = .ok final) :
    ∃ rest next, workflow.run node state = .ok next ∧
      (workflow.route node next = none ∧ final = next ∧
          workflow.visits limit node state = [(node, state)] ∨
        ∃ following, workflow.route node next = some following ∧
          workflow.exec limitError rest following next = .ok final ∧
          workflow.visits limit node state =
            (node, state) :: workflow.visits rest following next) := by
  cases limit with
  | zero => cases ran
  | succ rest =>
    obtain ⟨next, nodeRan, goesOn⟩ := bind_eq_ok.mp ran
    refine ⟨rest, next, nodeRan, ?_⟩
    rw [visits, nodeRan]
    dsimp only at goesOn ⊢
    cases routed : workflow.route node next with
    | none =>
      rw [routed] at goesOn
      exact .inl ⟨rfl, (Except.ok.inj goesOn).symm, rfl⟩
    | some following =>
      rw [routed] at goesOn
      exact .inr ⟨following, rfl, goesOn, rfl⟩

theorem returns_exec_iff (ranked : workflow.Ranked) {limitError : Err} {limit : Nat}
    {node : Node} {state : State} (enough : ranked.rank node < limit) :
    Returns (workflow.exec limitError limit node state) ↔
      ∀ visit ∈ workflow.visits limit node state, Returns (workflow.run visit.1 visit.2) := by
  induction limit generalizing node state with
  | zero => exact absurd enough (Nat.not_lt_zero _)
  | succ limit ih =>
    rw [exec, visits, returns_bind, List.forall_mem_cons]
    cases ran : workflow.run node state with
    | error exn => simp
    | ok next =>
      simp only [Except.ok.injEq, exists_eq_left', returns_ok, true_and]
      cases routed : workflow.route node next with
      | none => simp [pure, Except.pure]
      | some following =>
        have lower := ranked.rank_lt node next following routed
        exact ih (by omega)

theorem visits_invariant {invariant : Node → State → Prop}
    (kept : ∀ node state next following, invariant node state →
      workflow.run node state = .ok next → workflow.route node next = some following →
      invariant following next)
    {limit : Nat} {node : Node} {state : State} (start : invariant node state) :
    ∀ visit ∈ workflow.visits limit node state, invariant visit.1 visit.2 := by
  induction limit generalizing node state with
  | zero => simp [visits]
  | succ limit ih =>
    rw [visits, List.forall_mem_cons]
    refine ⟨start, ?_⟩
    cases ran : workflow.run node state with
    | error exn => simp
    | ok next =>
      dsimp only
      cases routed : workflow.route node next with
      | none => simp
      | some following => exact ih (kept node state next following start ran routed)

theorem map_visits {Shown : Type} {shown : Workflow Node Shown Err} {project : State → Shown}
    (runs : ∀ node state, (workflow.run node state).map project = shown.run node (project state))
    (routes : ∀ node state, workflow.route node state = shown.route node (project state))
    (limit : Nat) (node : Node) (state : State) :
    (workflow.visits limit node state).map (fun visit => (visit.1, project visit.2)) =
      shown.visits limit node (project state) := by
  induction limit generalizing node state with
  | zero => rfl
  | succ limit ih =>
    rw [visits, visits, List.map_cons, ← runs]
    congr 1
    cases workflow.run node state with
    | error exn => rfl
    | ok next =>
      simp only [Except.map, ← routes]
      cases workflow.route node next with
      | none => rfl
      | some following => exact ih following next
theorem exists_visit_of_exec_ok {limitError : Err} {limit : Nat} {node : Node}
    {state final : State} (ran : workflow.exec limitError limit node state = .ok final) :
    ∃ visit ∈ workflow.visits limit node state,
      workflow.run visit.1 visit.2 = .ok final ∧ workflow.route visit.1 final = none := by
  induction limit generalizing node state with
  | zero => cases ran
  | succ limit ih =>
    obtain ⟨next, nodeRan, rest⟩ := bind_eq_ok.mp ran
    rw [visits, nodeRan]
    dsimp only at rest ⊢
    cases routed : workflow.route node next with
    | none =>
      rw [routed] at rest
      cases rest
      exact ⟨(node, state), List.mem_cons_self, nodeRan, routed⟩
    | some following =>
      rw [routed] at rest
      obtain ⟨visit, member, last⟩ := ih rest
      exact ⟨visit, List.mem_cons_of_mem _ member, last⟩

end Workflow

end Onpremai.Library
