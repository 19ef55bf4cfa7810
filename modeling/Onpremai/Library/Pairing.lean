import Mathlib.Data.List.Nodup
import Mathlib.Data.List.Perm.Subperm

/-!
# Pairing results with the items they are for

Items are worked on one by one, and some of them fail.  Pairing the list of the results
with the list of the items again is right exactly when no item that failed comes before
one that did not.
-/

namespace Onpremai.Library

universe u v

variable {α : Type u} {β : Type v}

/-- The results that were obtained, in order. -/
def results (attempts : List (α × Option β)) : List β := attempts.filterMap Prod.snd

def ownPairs (attempts : List (α × Option β)) : List (β × α) :=
  attempts.filterMap fun attempt => attempt.2.map fun result => (result, attempt.1)

def zippedPairs (attempts : List (α × Option β)) : List (β × α) :=
  (results attempts).zip (attempts.map Prod.fst)

/-- No item that failed comes before one that did not. -/
def FailuresLast (attempts : List (α × Option β)) : Prop :=
  attempts.Pairwise fun earlier later => later.2.isSome = true → earlier.2.isSome = true

instance (attempts : List (α × Option β)) : Decidable (FailuresLast attempts) :=
  inferInstanceAs (Decidable (List.Pairwise _ _))

@[simp] theorem results_nil : results ([] : List (α × Option β)) = [] := rfl

section

variable (item : α)

@[simp] theorem results_cons_some (result : β) (rest : List (α × Option β)) :
    results ((item, some result) :: rest) = result :: results rest := rfl

@[simp] theorem results_cons_none (rest : List (α × Option β)) :
    results ((item, none) :: rest) = results rest := rfl

@[simp] theorem ownPairs_cons_some (result : β) (rest : List (α × Option β)) :
    ownPairs ((item, some result) :: rest) = (result, item) :: ownPairs rest := rfl

@[simp] theorem ownPairs_cons_none (rest : List (α × Option β)) :
    ownPairs ((item, none) :: rest) = ownPairs rest := rfl

@[simp] theorem zippedPairs_cons_some (result : β) (rest : List (α × Option β)) :
    zippedPairs ((item, some result) :: rest) = (result, item) :: zippedPairs rest := rfl

end

theorem mem_ownPairs {attempts : List (α × Option β)} {result : β} {item : α} :
    (result, item) ∈ ownPairs attempts ↔ (item, some result) ∈ attempts := by
  induction attempts with
  | nil => exact ⟨nofun, nofun⟩
  | cons attempt rest ih =>
    rcases attempt with ⟨first, _ | found⟩
    · simp [ih]
    · simp [ih, and_comm]

theorem map_fst_ownPairs (attempts : List (α × Option β)) :
    (ownPairs attempts).map Prod.fst = results attempts := by
  induction attempts with
  | nil => rfl
  | cons attempt rest ih =>
    rcases attempt with ⟨first, _ | found⟩
    · simpa using ih
    · simpa using ih

theorem map_snd_ownPairs_sublist (attempts : List (α × Option β)) :
    ((ownPairs attempts).map Prod.snd).Sublist (attempts.map Prod.fst) := by
  induction attempts with
  | nil => exact List.Sublist.refl _
  | cons attempt rest ih =>
    rcases attempt with ⟨first, _ | found⟩
    · exact ih.cons first
    · exact ih.cons_cons first

theorem ownPairs_eq_nil_of_failed {item : α} {rest : List (α × Option β)}
    (last : FailuresLast ((item, none) :: rest)) : ownPairs rest = [] := by
  rw [List.eq_nil_iff_forall_not_mem]
  rintro ⟨result, other⟩ member
  have earlier := (List.pairwise_cons.mp last).1 _ (mem_ownPairs.mp member) rfl
  cases earlier

theorem zippedPairs_eq_ownPairs {attempts : List (α × Option β)}
    (last : FailuresLast attempts) : zippedPairs attempts = ownPairs attempts := by
  induction attempts with
  | nil => rfl
  | cons attempt rest ih =>
    rcases attempt with ⟨item, _ | result⟩
    · have none := ownPairs_eq_nil_of_failed last
      have empty : results rest = [] := by
        rw [← map_fst_ownPairs, none, List.map_nil]
      rw [zippedPairs, results_cons_none, empty, ownPairs_cons_none, none]
      rfl
    · rw [zippedPairs_cons_some, ownPairs_cons_some, ih (List.pairwise_cons.mp last).2]

theorem ownPairs_eq_nil_of_zipped {item : α} {rest : List (α × Option β)}
    (distinct : ((item :: rest.map Prod.fst)).Nodup)
    (own : ∀ pair ∈ ownPairs rest, pair ∈ (results rest).zip (item :: rest.map Prod.fst)) :
    ownPairs rest = [] := by
  cases count : ownPairs rest with
  | nil => rfl
  | cons first others =>
    rw [List.nodup_cons] at distinct
    have length : (results rest).length = others.length + 1 := by
      rw [← map_fst_ownPairs, count, List.length_map, List.length_cons]
    have inside : ((ownPairs rest).map Prod.snd) ⊆ (rest.map Prod.fst).take others.length := by
      intro found member
      rcases List.mem_map.mp member with ⟨pair, succeeded, rfl⟩
      have zipped := own pair succeeded
      rw [List.zip_eq_zip_take_min, length, List.length_cons] at zipped
      have among := (List.of_mem_zip zipped).2
      have position : pair.2 ∈ (item :: rest.map Prod.fst).take (others.length + 1) :=
        (List.take_subset_take_left _ (Nat.min_le_left _ _)) among
      rw [List.take_succ_cons, List.mem_cons] at position
      rcases position with same | later
      · have among := (map_snd_ownPairs_sublist rest).subset member
        exact absurd (same ▸ among) distinct.1
      · exact later
    have few := (((map_snd_ownPairs_sublist rest).nodup distinct.2).subperm inside).length_le
    rw [count, List.length_map, List.length_cons] at few
    have bound := List.length_take_le others.length (rest.map Prod.fst)
    omega

theorem ownPairs_subset_zippedPairs_iff {attempts : List (α × Option β)}
    (distinct : (attempts.map Prod.fst).Nodup) :
    (∀ pair ∈ ownPairs attempts, pair ∈ zippedPairs attempts) ↔ FailuresLast attempts := by
  constructor
  · intro own
    induction attempts with
    | nil => exact List.Pairwise.nil
    | cons attempt rest ih =>
      rcases attempt with ⟨item, _ | result⟩
      · have none := ownPairs_eq_nil_of_zipped distinct own
        apply List.pairwise_cons.mpr
        constructor
        · rintro ⟨other, _ | found⟩ member succeeded
          · cases succeeded
          · rw [← mem_ownPairs, none] at member
            cases member
        · apply ih (List.nodup_cons.mp distinct).2
          intro pair member
          rw [none] at member
          cases member
      · apply List.pairwise_cons.mpr
        constructor
        · intro _ _ _
          rfl
        · apply ih (List.nodup_cons.mp distinct).2
          intro pair member
          have fresh : pair.2 ≠ item := by
            rintro rfl
            have among := (map_snd_ownPairs_sublist rest).subset
              (List.mem_map.mpr ⟨pair, member, rfl⟩)
            exact (List.nodup_cons.mp distinct).1 among
          have zipped := own pair (by rw [ownPairs_cons_some]; exact .tail _ member)
          rw [zippedPairs_cons_some, List.mem_cons] at zipped
          rcases zipped with same | later
          · rw [same] at fresh
            exact absurd rfl fresh
          · exact later
  · intro last pair member
    rw [zippedPairs_eq_ownPairs last]
    exact member

end Onpremai.Library
