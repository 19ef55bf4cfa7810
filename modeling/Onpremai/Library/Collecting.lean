import Mathlib.Data.List.Flatten
import Onpremai.Library.Except

/-!
# Loops that collect

A loop collects what its body gives for every item.  Where the body raises for one item, the
loop raises, and what the body gives for the others is lost with it.  A loop loses nothing
exactly when its body returns for every item, or gives nothing for any.
-/

namespace Onpremai.Library

universe u

variable {ε α β γ : Type u}

/-- The items that a computation gives: none where it raises. -/
def given : Except ε (List α) → List α
  | .ok items => items
  | .error _ => []

@[simp] theorem given_ok (items : List α) : given (.ok items : Except ε (List α)) = items := rfl

theorem eq_ok_given {computation : Except ε (List α)} (returns : Returns computation) :
    computation = .ok (given computation) := by
  obtain ⟨items, ran⟩ := returns
  rw [ran, given_ok]

theorem given_of_not_returns {computation : Except ε (List α)}
    (raises : ¬ Returns computation) : given computation = [] := by
  cases computation with
  | ok items => exact absurd (returns_ok items) raises
  | error exn => rfl

theorem mapM_of_ok {items : List α} {body : α → Except ε β} {value : α → β}
    (each : ∀ item ∈ items, body item = .ok (value item)) :
    items.mapM body = .ok (items.map value) := by
  induction items with
  | nil => rfl
  | cons item rest ih =>
    rw [List.forall_mem_cons] at each
    rw [List.mapM_cons, each.1, ih each.2]
    rfl

theorem filterMapM_of_ok {items : List α} {body : α → Except ε (Option β)}
    {value : α → Option β} (each : ∀ item ∈ items, body item = .ok (value item)) :
    items.filterMapM body = .ok (items.filterMap value) := by
  induction items with
  | nil => rfl
  | cons item rest ih =>
    rw [List.forall_mem_cons] at each
    rw [List.filterMapM_cons, each.1, ih each.2, List.filterMap_cons]
    cases value item with
    | none => rfl
    | some made => rfl

section

variable (body : α → Except ε (List β)) (items : List α)

def collect : Except ε (List β) := do
  let made ← items.mapM body
  return made.flatten

variable {body items}

theorem returns_collect :
    Returns (collect body items) ↔ ∀ item ∈ items, Returns (body item) := by
  rw [collect, returns_bind_pure, returns_mapM]

theorem collect_of_returns (every : ∀ item ∈ items, Returns (body item)) :
    collect body items = .ok (items.flatMap fun item => given (body item)) := by
  have values := mapM_of_ok fun item member => eq_ok_given (every item member)
  rw [collect, values, List.flatMap_def]
  rfl

theorem given_collect_sublist :
    (given (collect body items)).Sublist (items.flatMap fun item => given (body item)) := by
  by_cases returns : Returns (collect body items)
  · rw [collect_of_returns (returns_collect.mp returns), given_ok]
  · rw [given_of_not_returns returns]
    exact List.nil_sublist _

theorem given_collect_eq_iff :
    given (collect body items) = items.flatMap (fun item => given (body item)) ↔
      (∀ item ∈ items, Returns (body item)) ∨ ∀ item ∈ items, given (body item) = [] := by
  rw [← returns_collect]
  by_cases returns : Returns (collect body items)
  · apply iff_of_true
    · rw [collect_of_returns (returns_collect.mp returns), given_ok]
    · exact .inl returns
  · rw [given_of_not_returns returns, eq_comm, List.flatMap_eq_nil_iff, or_iff_right returns]

end

/-- Where no part is longer than it should be, the whole is as it should be exactly when every
part is. -/
theorem flatMap_eq_flatMap_iff {items : List α} {actual expected : α → List β}
    (within : ∀ item ∈ items, (actual item).Sublist (expected item)) :
    items.flatMap actual = items.flatMap expected ↔
      ∀ item ∈ items, actual item = expected item := by
  constructor
  · intro same
    induction items with
    | nil => exact List.forall_mem_nil _
    | cons item rest ih =>
      rw [List.forall_mem_cons] at within
      rw [List.flatMap_cons, List.flatMap_cons] at same
      have others := List.Sublist.flatMap_right rest within.2
      have lengths := congrArg List.length same
      rw [List.length_append, List.length_append] at lengths
      have shorter := within.1.length_le
      have fewer := others.length_le
      have first : actual item = expected item := within.1.eq_of_length (by omega)
      rw [first, List.append_cancel_left_eq] at same
      exact List.forall_mem_cons.mpr ⟨first, ih within.2 same⟩
  · intro every
    exact List.flatMap_congr every

end Onpremai.Library
