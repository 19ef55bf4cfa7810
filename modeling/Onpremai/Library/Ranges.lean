import Mathlib.Data.List.Basic
import Mathlib.Tactic.Linarith

/-!
# Ranges of lists

How Redis and Python count from the end of a list: Redis takes the first and the last index
of a range, Python the index after the last one.
-/

namespace Onpremai.Library

universe u

variable {α : Type u}

/-- `LRANGE key start stop`: both ends are included, negative indices count from the end, and
indices out of range are no error. -/
def lrange (items : List α) (start stop : Int) : List α :=
  let first := if start < 0 then max 0 (items.length + start) else start
  let last := if stop < 0 then items.length + stop else stop
  if last < first then [] else (items.drop first.toNat).take (last - first + 1).toNat

/-- `items[:limit]`: a negative limit counts from the end. -/
def slicePrefix (items : List α) (limit : Int) : List α :=
  items.take (if limit < 0 then items.length + limit else limit).toNat

theorem lrange_eq_slicePrefix (items : List α) {limit : Int} (nonzero : limit ≠ 0) :
    lrange items 0 (limit - 1) = slicePrefix items limit := by
  simp only [lrange, slicePrefix, lt_self_iff_false, if_false, Int.toNat_zero, List.drop_zero,
    sub_zero]
  cases lt_or_gt_of_ne nonzero with
  | inl negative =>
    have before : limit - 1 < 0 := by omega
    rw [if_pos before, if_pos negative]
    split
    · next short =>
      have nothing : ((items.length : Int) + limit).toNat = 0 := by omega
      rw [nothing, List.take_zero]
    · congr 1
      omega
  | inr positive =>
    have atLeast : ¬ limit - 1 < 0 := by omega
    have past : ¬ limit < 0 := by omega
    rw [if_neg atLeast, if_neg past, if_neg atLeast]
    congr 1
    omega

theorem lrange_whole (items : List α) : lrange items 0 (-1) = items := by
  simp only [lrange, lt_self_iff_false, if_false, Int.toNat_zero, List.drop_zero, sub_zero]
  have before : (-1 : Int) < 0 := by omega
  rw [if_pos before]
  split
  · next empty =>
    have nothing : items.length = 0 := by omega
    exact (List.length_eq_zero_iff.mp nothing).symm
  · apply List.take_of_length_le
    omega

theorem lrange_map {β : Type u} (change : α → β) (items : List α) (start stop : Int) :
    lrange (items.map change) start stop = (lrange items start stop).map change := by
  simp only [lrange, List.length_map, apply_ite (List.map change), List.map_nil, List.map_take,
    List.map_drop]

@[simp] theorem slicePrefix_zero (items : List α) : slicePrefix items 0 = [] := by
  simp [slicePrefix]

end Onpremai.Library
