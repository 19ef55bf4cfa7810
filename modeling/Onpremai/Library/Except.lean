import Mathlib.Data.List.Basic

/-!
# Raising computations

When a computation that may raise returns, each of its steps returned.
-/

namespace Onpremai.Library

universe u

variable {ε α β : Type u}

theorem ok_bind (value : α) (next : α → Except ε β) : (.ok value >>= next) = next value := rfl

/-- A step of a raising computation succeeded exactly when its first part did and
the rest did on the value of the first part. -/
theorem bind_eq_ok {first : Except ε α} {next : α → Except ε β} {value : β} :
    first >>= next = .ok value ↔ ∃ middle, first = .ok middle ∧ next middle = .ok value := by
  cases first with
  | error exn => simp [bind, Except.bind]
  | ok middle => simp [bind, Except.bind]

theorem map_eq_ok {first : Except ε α} {image : α → β} {value : β} :
    first.map image = .ok value ↔ ∃ middle, first = .ok middle ∧ image middle = value := by
  cases first with
  | error exn => exact iff_of_false (fun same => by cases same) (fun ⟨_, same, _⟩ => by cases same)
  | ok middle =>
    constructor
    · intro same
      exact ⟨middle, rfl, Except.ok.inj same⟩
    · rintro ⟨_, ⟨⟩, same⟩
      exact congrArg Except.ok same

def Returns (computation : Except ε α) : Prop := ∃ value, computation = .ok value

@[simp] theorem returns_ok (value : α) : Returns (.ok value : Except ε α) := ⟨value, rfl⟩

@[simp] theorem not_returns_error (exn : ε) : ¬ Returns (.error exn : Except ε α) := by
  rintro ⟨value, ⟨⟩⟩

section

variable {first : Except ε α} {next : α → Except ε β}

theorem returns_bind :
    Returns (first >>= next) ↔ ∃ middle, first = .ok middle ∧ Returns (next middle) := by
  constructor
  · rintro ⟨value, ran⟩
    obtain ⟨middle, firstRan, nextRan⟩ := bind_eq_ok.mp ran
    exact ⟨middle, firstRan, value, nextRan⟩
  · rintro ⟨middle, firstRan, value, nextRan⟩
    exact ⟨value, bind_eq_ok.mpr ⟨middle, firstRan, nextRan⟩⟩

theorem returns_bind_iff {condition : Prop}
    (agree : ∀ middle, first = .ok middle → (Returns (next middle) ↔ condition)) :
    Returns (first >>= next) ↔ Returns first ∧ condition := by
  rw [returns_bind]
  constructor
  · rintro ⟨middle, firstRan, nextRan⟩
    exact ⟨⟨middle, firstRan⟩, (agree middle firstRan).mp nextRan⟩
  · rintro ⟨⟨middle, firstRan⟩, holds⟩
    exact ⟨middle, firstRan, (agree middle firstRan).mpr holds⟩

end

theorem returns_bind_pure {first : Except ε α} {image : α → β} :
    Returns (first >>= fun value => pure (image value)) ↔ Returns first := by
  cases first with
  | error exn => exact iff_of_false (not_returns_error exn) (not_returns_error exn)
  | ok value => exact iff_of_true (returns_ok _) (returns_ok _)

section

variable {body : α → Except ε β} {items : List α}

theorem returns_mapM : Returns (items.mapM body) ↔ ∀ item ∈ items, Returns (body item) := by
  induction items with
  | nil => simp [pure, Except.pure]
  | cons item rest ih =>
    rw [List.mapM_cons, returns_bind, List.forall_mem_cons, ← ih]
    constructor
    · rintro ⟨value, itemRan, restRan⟩
      obtain ⟨values, ran, -⟩ := returns_bind.mp restRan
      exact ⟨⟨value, itemRan⟩, values, ran⟩
    · rintro ⟨⟨value, itemRan⟩, values, restRan⟩
      exact ⟨value, itemRan, returns_bind.mpr ⟨values, restRan, returns_ok _⟩⟩

theorem length_mapM {values : List β}
    (ran : items.mapM body = .ok values) : values.length = items.length := by
  induction items generalizing values with
  | nil =>
    cases ran
    rfl
  | cons item rest ih =>
    rw [List.mapM_cons, bind_eq_ok] at ran
    rcases ran with ⟨value, -, restRan⟩
    rcases bind_eq_ok.mp restRan with ⟨others, othersRan, returned⟩
    cases returned
    rw [List.length_cons, List.length_cons, ih othersRan]

theorem exists_of_mem_mapM {values : List β}
    (ran : items.mapM body = .ok values) {value : β} (member : value ∈ values) :
    ∃ item ∈ items, body item = .ok value := by
  induction items generalizing values with
  | nil =>
    cases ran
    cases member
  | cons item rest ih =>
    rw [List.mapM_cons, bind_eq_ok] at ran
    rcases ran with ⟨first, firstRan, restRan⟩
    rcases bind_eq_ok.mp restRan with ⟨others, othersRan, returned⟩
    cases returned
    rcases List.mem_cons.mp member with same | later
    · exact ⟨item, List.mem_cons_self, same ▸ firstRan⟩
    · rcases ih othersRan later with ⟨origin, inside, made⟩
      exact ⟨origin, List.mem_cons_of_mem _ inside, made⟩

theorem mem_of_mapM {values : List β}
    (ran : items.mapM body = .ok values) {item : α} (member : item ∈ items) {value : β}
    (gave : body item = .ok value) : value ∈ values := by
  induction items generalizing values with
  | nil => cases member
  | cons first rest ih =>
    rw [List.mapM_cons, bind_eq_ok] at ran
    obtain ⟨made, firstRan, restRan⟩ := ran
    obtain ⟨others, othersRan, returned⟩ := bind_eq_ok.mp restRan
    cases returned
    rcases List.mem_cons.mp member with same | later
    · rw [same, firstRan] at gave
      cases gave
      exact List.mem_cons_self
    · exact List.mem_cons_of_mem _ (ih othersRan later)

end

/-- Two computations both raise, or they return related values. -/
inductive Alike (related : α → β → Prop) : Except ε α → Except ε β → Prop where
  | raised (exn other : ε) : Alike related (.error exn) (.error other)
  | returned {value : α} {other : β} : related value other →
      Alike related (.ok value) (.ok other)

theorem Alike.bind {γ δ : Type u} {related : α → β → Prop} {after : γ → δ → Prop}
    {first : Except ε α} {second : Except ε β} {next : α → Except ε γ} {goOn : β → Except ε δ}
    (parts : Alike related first second)
    (rest : ∀ value other, related value other → Alike after (next value) (goOn other)) :
    Alike after (first >>= next) (second >>= goOn) := by
  cases parts with
  | raised exn other => exact .raised exn other
  | returned inside => exact rest _ _ inside

/-- Two ways to go on from the same part. -/
theorem alike_bind {γ δ : Type u} {after : γ → δ → Prop} {first : Except ε α}
    {next : α → Except ε γ} {goOn : α → Except ε δ}
    (rest : ∀ value, Alike after (next value) (goOn value)) :
    Alike after (first >>= next) (first >>= goOn) := by
  cases first with
  | error exn => exact .raised exn exn
  | ok value => exact rest value

def RaisesOnly (allowed : ε → Prop) (computation : Except ε α) : Prop :=
  ∀ exn, computation = .error exn → allowed exn

theorem raisesOnly_ok (allowed : ε → Prop) (value : α) :
    RaisesOnly allowed (.ok value : Except ε α) := by
  rintro exn ⟨⟩

theorem raisesOnly_error {allowed : ε → Prop} {exn : ε} (inside : allowed exn) :
    RaisesOnly allowed (.error exn : Except ε α) := by
  rintro other ⟨⟩
  exact inside

theorem raisesOnly_bind {allowed : ε → Prop} {first : Except ε α} {next : α → Except ε β}
    (firstRaises : RaisesOnly allowed first)
    (nextRaises : ∀ middle, RaisesOnly allowed (next middle)) :
    RaisesOnly allowed (first >>= next) := by
  cases first with
  | error exn =>
    rintro other ⟨⟩
    exact firstRaises exn rfl
  | ok middle => exact nextRaises middle

end Onpremai.Library
