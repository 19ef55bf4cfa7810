import Mathlib.Data.List.Infix
import Mathlib.Data.List.Pairwise
import Onpremai.Library.Dict

/-!
# Representatives, groups and pairs

A list is thinned out by a test of similarity, sorted into groups by keys, and searched for
pairs.  Whether an item is kept depends on the earlier items alone.
-/

namespace Onpremai.Library

/-! ## Representatives -/

section

variable {α : Type*} (similar : α → α → Bool)

def keepNew (kept : List α) (item : α) : List α :=
  if kept.any (similar item) then kept else kept ++ [item]

def representatives (items : List α) : List α := items.foldl (keepNew similar) []

def StandsAlone (item : α) : List α → Prop
  | [] => True
  | other :: before => (similar item other = true → ¬ StandsAlone other before) ∧
      StandsAlone item before

variable {similar}

theorem representatives_append_singleton (items : List α) (item : α) :
    representatives similar (items ++ [item]) =
      keepNew similar (representatives similar items) item := by
  rw [representatives, List.foldl_append]
  rfl

theorem standsAlone_iff (before : List α) (item : α) : StandsAlone similar item before.reverse ↔
      ∀ other ∈ representatives similar before, similar item other = false := by
  induction before using List.reverseRecOn generalizing item with
  | nil => exact iff_of_true trivial (List.forall_mem_nil _)
  | append_singleton before last ih =>
    rw [List.reverse_append, representatives_append_singleton, keepNew]
    change (similar item last = true → ¬ StandsAlone similar last before.reverse) ∧
      StandsAlone similar item before.reverse ↔ _
    rw [ih item, ih last]
    cases kept : (representatives similar before).any (similar last) with
    | true =>
      obtain ⟨other, member, like⟩ := List.any_eq_true.mp kept
      rw [if_pos rfl]
      constructor
      · intro alone
        exact alone.2
      · intro alone
        refine ⟨fun _ lastAlone => ?_, alone⟩
        rw [lastAlone other member] at like
        cases like
    | false =>
      rw [if_neg (by decide), List.forall_mem_append, List.forall_mem_singleton]
      have lastAlone : ∀ other ∈ representatives similar before,
          similar last other = false := by
        intro other member
        exact Bool.eq_false_iff.mpr (List.any_eq_false.mp kept other member)
      constructor
      · intro alone
        exact ⟨alone.2, Bool.eq_false_iff.mpr fun like => alone.1 like lastAlone⟩
      · intro alone
        refine ⟨fun like _ => ?_, alone.1⟩
        rw [alone.2] at like
        cases like

theorem mem_representatives_append_singleton {items : List α} {item last : α} :
    item ∈ representatives similar (items ++ [last]) ↔ item ∈ representatives similar items ∨
        item = last ∧ StandsAlone similar last items.reverse := by
  rw [representatives_append_singleton, keepNew, standsAlone_iff]
  cases found : (representatives similar items).any (similar last) with
  | true =>
    obtain ⟨other, member, like⟩ := List.any_eq_true.mp found
    rw [if_pos rfl]
    constructor
    · exact Or.inl
    · intro either
      rcases either with earlier | ⟨-, alone⟩
      · exact earlier
      · rw [alone other member] at like
        cases like
  | false =>
    rw [if_neg (by decide), List.mem_append, List.mem_singleton]
    apply or_congr_right
    constructor
    · intro same
      refine ⟨same, fun other member => ?_⟩
      exact Bool.eq_false_iff.mpr (List.any_eq_false.mp found other member)
    · intro added
      exact added.1

theorem mem_representatives_iff {items : List α} {item : α} : item ∈ representatives similar items ↔
      ∃ before after, items = before ++ item :: after ∧
        StandsAlone similar item before.reverse := by
  induction items using List.reverseRecOn with
  | nil =>
    apply iff_of_false List.not_mem_nil
    intro found
    obtain ⟨before, after, same, -⟩ := found
    cases before with
    | nil => cases same
    | cons _ _ => cases same
  | append_singleton items last ih =>
    rw [mem_representatives_append_singleton, ih]
    constructor
    · intro either
      rcases either with ⟨before, after, same, alone⟩ | ⟨same, alone⟩
      · exact ⟨before, after ++ [last], by rw [same, List.append_assoc]; rfl, alone⟩
      · exact ⟨items, [], by rw [same], same ▸ alone⟩
    · intro found
      obtain ⟨before, after, same, alone⟩ := found
      -- the split falls before the last item or at it
      rcases List.eq_nil_or_concat after with atLast | ⟨rest, final, earlier⟩
      · rw [atLast] at same
        obtain ⟨items_eq, last_eq⟩ := List.append_inj' same rfl
        cases last_eq
        exact Or.inr ⟨rfl, items_eq ▸ alone⟩
      · rw [earlier, List.concat_eq_append, ← List.cons_append, ← List.append_assoc] at same
        obtain ⟨items_eq, -⟩ := List.append_inj' same rfl
        exact Or.inl ⟨before, rest, items_eq, alone⟩

theorem pairwise_representatives (items : List α) :
    (representatives similar items).Pairwise fun earlier later => similar later earlier = false := by
  induction items using List.reverseRecOn with
  | nil => exact .nil
  | append_singleton items last ih =>
    rw [representatives_append_singleton, keepNew]
    split
    · exact ih
    · next new =>
      rw [List.pairwise_append]
      refine ⟨ih, List.pairwise_singleton _ _, ?_⟩
      intro other member item same
      rw [List.mem_singleton.mp same]
      exact Bool.eq_false_iff.mpr fun like => new (List.any_eq_true.mpr ⟨other, member, like⟩)

theorem not_similar_of_representatives
    (symmetric : ∀ item other, similar item other = similar other item) {items : List α}
    {item other : α} (itemIn : item ∈ representatives similar items)
    (otherIn : other ∈ representatives similar items) (apart : item ≠ other) :
    similar item other = false := by
  have pairs : (representatives similar items).Pairwise
      fun earlier later => similar earlier later = false :=
    (pairwise_representatives items).imp fun differ => (symmetric _ _).trans differ
  have both : Std.Symm fun earlier later => similar earlier later = false :=
    ⟨fun earlier later differ => (symmetric later earlier).trans differ⟩
  exact pairs.forall itemIn otherIn apart

/-- What is thinned out already stays as it is. -/
theorem representatives_of_pairwise {items : List α}
    (apart : items.Pairwise fun earlier later => similar later earlier = false) :
    representatives similar items = items := by
  induction items using List.reverseRecOn with
  | nil => rfl
  | append_singleton items last ih =>
    rw [List.pairwise_append] at apart
    have new : ¬ items.any (similar last) = true := by
      intro found
      obtain ⟨other, member, like⟩ := List.any_eq_true.mp found
      rw [apart.2.2 other member last (List.mem_singleton_self last)] at like
      cases like
    rw [representatives_append_singleton, ih apart.1, keepNew, if_neg new]

theorem representatives_representatives (items : List α) :
    representatives similar (representatives similar items) = representatives similar items :=
  representatives_of_pairwise (pairwise_representatives items)

theorem representatives_sublist (items : List α) : (representatives similar items).Sublist items := by
  induction items using List.reverseRecOn with
  | nil => exact List.Sublist.refl _
  | append_singleton items last ih =>
    rw [representatives_append_singleton, keepNew]
    split
    · exact ih.trans (List.sublist_append_left _ _)
    · exact ih.append (List.Sublist.refl _)

theorem representatives_subset (items : List α) : representatives similar items ⊆ items :=
  (representatives_sublist items).subset

end

section

variable {α : Type*}

def pairsOf : List α → List (α × α)
  | [] => []
  | item :: rest => rest.map (fun other => (item, other)) ++ pairsOf rest

theorem mem_of_mem_pairsOf {items : List α} {pair : α × α} (member : pair ∈ pairsOf items) :
    pair.1 ∈ items ∧ pair.2 ∈ items := by
  induction items with
  | nil => cases member
  | cons item rest ih =>
    rcases List.mem_append.mp member with first | later
    · obtain ⟨other, inside, same⟩ := List.mem_map.mp first
      cases same
      exact ⟨List.mem_cons_self, List.mem_cons_of_mem _ inside⟩
    · have both := ih later
      exact ⟨List.mem_cons_of_mem _ both.1, List.mem_cons_of_mem _ both.2⟩

theorem mem_pairsOf_or {items : List α} {left right : α} (inLeft : left ∈ items)
    (inRight : right ∈ items) (differ : left ≠ right) :
    (left, right) ∈ pairsOf items ∨ (right, left) ∈ pairsOf items := by
  induction items with
  | nil => cases inLeft
  | cons item rest ih =>
    rw [pairsOf, List.mem_append, List.mem_append, List.mem_map, List.mem_map]
    rcases List.mem_cons.mp inLeft with leftFirst | leftLater
    · rcases List.mem_cons.mp inRight with rightFirst | rightLater
      · exact absurd (leftFirst.trans rightFirst.symm) differ
      · exact Or.inl (Or.inl ⟨right, rightLater, by rw [leftFirst]⟩)
    · rcases List.mem_cons.mp inRight with rightFirst | rightLater
      · exact Or.inr (Or.inl ⟨left, leftLater, by rw [rightFirst]⟩)
      · exact (ih leftLater rightLater).imp Or.inr Or.inr

end

namespace Dict

variable {κ : Type*} {α : Type*} [DecidableEq κ]

/-- `groups.setdefault(key, []).append(item)`. -/
def push (groups : Dict κ (List α)) (entry : κ × α) : Dict κ (List α) :=
  groups.set entry.1 ((groups.get? entry.1).getD [] ++ [entry.2])

def group (entries : List (κ × α)) : Dict κ (List α) := entries.foldl push .empty

theorem group_concat (entries : List (κ × α)) (last : κ × α) :
    group (entries ++ [last]) = (group entries).push last := List.foldl_concat ..

theorem get?_group (entries : List (κ × α)) (key : κ) : (group entries).get? key =
    if entries.filter (·.1 = key) = [] then none
    else some ((entries.filter (·.1 = key)).map Prod.snd) := by
  induction entries using List.reverseRecOn with
  | nil => rfl
  | append_singleton entries last ih =>
    rw [group_concat, push, get?_set, List.filter_append]
    by_cases same : last.1 = key
    · rw [if_pos same, same, ih, List.filter_cons_of_pos (by simpa using same)]
      split
      · next none => simp [none]
      · simp
    · rw [if_neg same, ih, List.filter_cons_of_neg (by simpa using same), List.filter_nil,
        List.append_nil]

theorem values_setEntry_perm (key : κ) (item : α) (entries : List (κ × List α)) :
    ((setEntry key ((findEntry key entries).getD [] ++ [item]) entries).map Prod.snd).flatten.Perm
      ((entries.map Prod.snd).flatten ++ [item]) := by
  induction entries with
  | nil => simp [setEntry, findEntry]
  | cons entry rest ih =>
    rw [setEntry, findEntry]
    split
    · simpa using (List.perm_append_singleton item _).symm.append_left entry.2
    · simpa using ih.append_left entry.2

theorem values_group_perm (entries : List (κ × α)) :
    (group entries).values.flatten.Perm (entries.map Prod.snd) := by
  induction entries using List.reverseRecOn with
  | nil => exact .refl _
  | append_singleton entries last ih =>
    rw [group_concat, List.map_append]
    exact (values_setEntry_perm last.1 last.2 _).trans (ih.append_right _)

theorem mem_group_iff {entries : List (κ × α)} {key : κ} {item : α} :
    (∃ items, (group entries).get? key = some items ∧ item ∈ items) ↔ (key, item) ∈ entries := by
  rw [get?_group]
  split
  · next none =>
    rw [List.filter_eq_nil_iff] at none
    simpa using fun member => none _ member (by simp)
  · simp

end Dict

end Onpremai.Library
