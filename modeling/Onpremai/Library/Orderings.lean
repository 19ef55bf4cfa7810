import Mathlib.Data.List.Perm.Basic
import Mathlib.Order.Lattice
import Onpremai.Library.Except

/-!
# Results that depend on no order

A computation over a list may give one result for all orders of the list.  A search for
the first item that decides does so exactly where the deciding items agree; filters that
may raise do so up to the exception.
-/

namespace Onpremai.Library

universe u v

variable {α : Type u} {β : Type v}

def AnyOrder (run : List α → β) (items : List α) : Prop :=
  ∀ order, order.Perm items → run order = run items

theorem anyOrder_congr {run other : List α → β} {items : List α}
    (same : ∀ order, order.Perm items → run order = other order) :
    AnyOrder run items ↔ AnyOrder other items := by
  have here := same items (List.Perm.refl items)
  constructor
  · intro anyOrder order perm
    rw [← same order perm, ← here, anyOrder order perm]
  · intro anyOrder order perm
    rw [same order perm, here, anyOrder order perm]

theorem anyOrder_of_eq {run : List α → β} {items : List α} (result : β)
    (same : ∀ order, order.Perm items → run order = result) : AnyOrder run items := by
  intro order perm
  rw [same order perm, same items (List.Perm.refl items)]

theorem exists_perm_cons {item : α} {items : List α} (member : item ∈ items) :
    ∃ rest, (item :: rest).Perm items := by
  rcases List.append_of_mem member with ⟨before, after, rfl⟩
  exact ⟨before ++ after, List.perm_middle.symm⟩

/-- All items that decide decide the same. -/
def Agree (decision : α → Option β) (items : List α) : Prop :=
  ∀ first ∈ items, ∀ second ∈ items, ∀ value other,
    decision first = some value → decision second = some other → value = other

section

variable {decision : α → Option β} {items order : List α} {default : β}

theorem Agree.findSome?_eq (agree : Agree decision items) (perm : order.Perm items) :
    order.findSome? decision = items.findSome? decision := by
  cases found : items.findSome? decision with
  | none =>
    rw [List.findSome?_eq_none_iff] at found ⊢
    intro item member
    exact found item (perm.mem_iff.mp member)
  | some value =>
    rcases List.exists_of_findSome?_eq_some found with ⟨item, member, decides⟩
    cases other : order.findSome? decision with
    | none =>
      have undecided := List.findSome?_eq_none_iff.mp other item (perm.mem_iff.mpr member)
      rw [decides] at undecided
      cases undecided
    | some result =>
      rcases List.exists_of_findSome?_eq_some other with ⟨second, inOrder, alsoDecides⟩
      rw [agree second (perm.mem_iff.mp inOrder) item member result value alsoDecides decides]

theorem anyOrder_findSome?_iff :
    AnyOrder (fun order => (order.findSome? decision).getD default) items ↔
      Agree decision items := by
  constructor
  · intro anyOrder
    have decides_result : ∀ item ∈ items, ∀ value, decision item = some value →
        value = (items.findSome? decision).getD default := by
      intro item member value decides
      rcases exists_perm_cons member with ⟨rest, perm⟩
      have same := anyOrder (item :: rest) perm
      simpa [List.findSome?_cons, decides] using same
    intro first firstMember second secondMember value other decides alsoDecides
    rw [decides_result first firstMember value decides,
      decides_result second secondMember other alsoDecides]
  · intro agree order perm
    exact congrArg (fun found => found.getD default) (agree.findSome?_eq perm)

theorem anyOrder_findSome?_filter_iff {keep : α → Bool} :
    AnyOrder (fun order => ((order.filter keep).findSome? decision).getD default) items ↔
      Agree decision (items.filter keep) := by
  have search : ∀ order : List α, (order.filter keep).findSome? decision =
      order.findSome? fun item => if keep item then decision item else none := by
    intro order
    induction order with
    | nil => rfl
    | cons item rest ih =>
      cases kept : keep item with
      | true => simp [kept, List.findSome?_cons, ih]
      | false => simp [kept, ih]
  simp only [search, anyOrder_findSome?_iff]
  constructor
  · intro agree first firstMember second secondMember value other decides alsoDecides
    rw [List.mem_filter] at firstMember secondMember
    exact agree first firstMember.1 second secondMember.1 value other
      ((if_pos firstMember.2).trans decides) ((if_pos secondMember.2).trans alsoDecides)
  · intro agree first firstMember second secondMember value other decides alsoDecides
    rw [Option.ite_none_right_eq_some] at decides alsoDecides
    exact agree first (List.mem_filter.mpr ⟨firstMember, decides.1⟩) second
      (List.mem_filter.mpr ⟨secondMember, alsoDecides.1⟩) value other decides.2 alsoDecides.2

end

section

variable {ε : Type u} {γ : Type u} {δ : Type v}

/-- What is read from a search that may raise: an image of what it finds, and one value
for every exception. -/
def outcomeOf (image : γ → δ) (raised : δ) : Except ε (Option γ) → Option δ
  | .ok found => found.map image
  | .error _ => some raised

theorem outcomeOf_findSomeM? (image : γ → δ) (raised : δ) (body : α → Except ε (Option γ))
    (items : List α) :
    outcomeOf image raised (items.findSomeM? body) =
      items.findSome? fun item => outcomeOf image raised (body item) := by
  induction items with
  | nil => rfl
  | cons item rest ih =>
    rw [List.findSomeM?_cons, List.findSome?_cons]
    cases body item with
    | error exn => rfl
    | ok found =>
      cases found with
      | some value => rfl
      | none => exact ih

end

section

variable {ε α : Type} {test : α → Except ε Bool} {items order kept : List α}

def accepts (test : α → Except ε Bool) (item : α) : Bool :=
  match test item with
  | .ok keep => keep
  | .error _ => false

private theorem filterAuxM_eq_ok {before : List α} : List.filterAuxM test items before = .ok kept ↔
      (∀ item ∈ items, Returns (test item)) ∧
        kept = (items.filter (accepts test)).reverse ++ before := by
  induction items generalizing before with
  | nil =>
    simp [List.filterAuxM, pure, Except.pure, eq_comm]
  | cons item rest ih =>
    rw [List.filterAuxM, bind_eq_ok, List.forall_mem_cons]
    cases ran : test item with
    | error exn => simp [Returns]
    | ok keep =>
      cases keep with
      | true => simp [ih, accepts, ran]
      | false => simp [ih, accepts, ran]

theorem filterM_eq_ok : items.filterM test = .ok kept ↔
      (∀ item ∈ items, Returns (test item)) ∧ kept = items.filter (accepts test) := by
  rw [List.filterM, bind_eq_ok]
  constructor
  · rintro ⟨reversed, ran, returned⟩
    rw [filterAuxM_eq_ok] at ran
    cases returned
    exact ⟨ran.1, by simp [ran.2]⟩
  · rintro ⟨returns, rfl⟩
    exact ⟨_, filterAuxM_eq_ok.mpr ⟨returns, rfl⟩, by simp [pure, Except.pure]⟩

theorem filterM_perm (perm : order.Perm items) :
    Alike List.Perm (order.filterM test) (items.filterM test) := by
  cases ran : items.filterM test with
  | ok kept =>
    rcases filterM_eq_ok.mp ran with ⟨returns, rfl⟩
    have here : order.filterM test = .ok (order.filter (accepts test)) :=
      filterM_eq_ok.mpr ⟨fun item member => returns item (perm.mem_iff.mp member), rfl⟩
    rw [here]
    exact .returned (perm.filter _)
  | error exn =>
    cases other : order.filterM test with
    | error second => exact .raised second exn
    | ok kept =>
      have returns := (filterM_eq_ok.mp other).1
      have here : items.filterM test = .ok (items.filter (accepts test)) :=
        filterM_eq_ok.mpr ⟨fun item member => returns item (perm.mem_iff.mpr member), rfl⟩
      rw [ran] at here
      cases here

end

end Onpremai.Library

/-!
## The leading items of a list

The items of a list with the greatest measures, greatest first.  Items of one measure may
stand in any order, so a list may have several such selections.
-/

namespace Onpremai.Library

universe u v

variable {α : Type u} {β : Type v} [LinearOrder β] (measure : α → β)

def sortDown (items : List α) : List α :=
  items.mergeSort fun one two => decide (measure two ≤ measure one)

/-- A selection of the `count` greatest items, greatest first. -/
structure Leads (count : Nat) (items selected : List α) : Prop where
  ordered : selected.Pairwise fun one two => measure two ≤ measure one
  greatest : ∃ others, (selected ++ others).Perm items ∧ selected.length = min count items.length ∧
    ∀ kept ∈ selected, ∀ other ∈ others, measure other ≤ measure kept

variable {measure}

theorem sortDown_perm (items : List α) : (sortDown measure items).Perm items :=
  List.mergeSort_perm _ _

theorem pairwise_sortDown (items : List α) :
    (sortDown measure items).Pairwise fun one two => measure two ≤ measure one := by
  have sorted : (sortDown measure items).Pairwise fun one two =>
      decide (measure two ≤ measure one) = true := by
    apply List.pairwise_mergeSort
    · intro first second third
      simp only [decide_eq_true_eq]
      exact fun earlier later => later.trans earlier
    · intro first second
      simp only [Bool.or_eq_true, decide_eq_true_eq]
      exact le_total _ _
  simpa only [decide_eq_true_eq] using sorted

theorem leads_take_iff {count : Nat} {items arranged : List α} (same : arranged.Perm items) :
    Leads measure count items (sortDown measure (arranged.take count)) ↔
      ∀ kept ∈ arranged.take count, ∀ other ∈ arranged.drop count,
        measure other ≤ measure kept := by
  have sorted : (sortDown measure (arranged.take count)).Perm (arranged.take count) :=
    sortDown_perm _
  constructor
  · intro leads kept inside other behind
    rcases leads.greatest with ⟨others, split, -, less⟩
    have all : (arranged.take count ++ others).Perm
        (arranged.take count ++ arranged.drop count) := by
      rw [List.take_append_drop]
      exact ((sorted.symm.append_right others).trans split).trans same.symm
    apply less kept (sorted.mem_iff.mpr inside) other
    exact ((List.perm_append_left_iff _).mp all).mem_iff.mpr behind
  · intro less
    constructor
    · exact pairwise_sortDown _
    · refine ⟨arranged.drop count, ?_, ?_, ?_⟩
      · have whole := sorted.append_right (arranged.drop count)
        rw [List.take_append_drop] at whole
        exact whole.trans same
      · rw [sorted.length_eq, List.length_take, same.length_eq]
      · intro kept inside other behind
        exact less kept (sorted.mem_iff.mp inside) other behind

end Onpremai.Library
