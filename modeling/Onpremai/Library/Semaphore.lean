import Mathlib.Data.List.Basic

/-!
# Semaphores of an event loop

A semaphore with futures: a task that finds no slot waits for a future, a slot that is released
is handed to the first task that still waits, and a task that is cancelled while it has a slot
in hand gives it back.  Slots are neither lost nor made: those that are free, those that are in
hand and those that are in use add up.
-/

namespace Onpremai.Library

universe u

/-- What a task waits for. -/
inductive Future where
  | pending
  | granted
  | cancelled
  deriving DecidableEq, Repr

/-- A task that waits, and whether it was cancelled after its future was granted. -/
structure Waiter (ι : Type u) where
  task : ι
  future : Future := .pending
  cancelling : Bool := false
  deriving DecidableEq, Repr

/-- The free slots, and the tasks that wait in their order. -/
structure Semaphore (ι : Type u) where
  value : Nat
  waiters : List (Waiter ι) := []
  deriving DecidableEq, Repr

variable {ι : Type u}

def grantFirst : List (Waiter ι) → Option (List (Waiter ι))
  | [] => none
  | waiter :: rest =>
    if waiter.future = .pending then some ({ waiter with future := .granted } :: rest)
    else (grantFirst rest).map (waiter :: ·)

def Waiter.cancel (waiter : Waiter ι) : Waiter ι :=
  match waiter.future with
  | .pending => { waiter with future := .cancelled }
  | .granted => { waiter with cancelling := true }
  | .cancelled => waiter

namespace Semaphore

/-- A slot cannot be taken at once. -/
def locked (semaphore : Semaphore ι) : Bool :=
  semaphore.value == 0 || semaphore.waiters.any fun waiter => waiter.future != .cancelled

/-- Hand a free slot to the first task that still waits. -/
def wakeUpNext (semaphore : Semaphore ι) : Semaphore ι :=
  match grantFirst semaphore.waiters with
  | none => semaphore
  | some waiters => { value := semaphore.value - 1, waiters }

def release (semaphore : Semaphore ι) : Semaphore ι :=
  wakeUpNext { semaphore with value := semaphore.value + 1 }

/-- Take a slot, else wait for one; whether the slot was taken. -/
def acquire (semaphore : Semaphore ι) (task : ι) : Semaphore ι × Bool :=
  if semaphore.locked then
    ({ semaphore with waiters := semaphore.waiters ++ [{ task }] }, false)
  else ({ semaphore with value := semaphore.value - 1 }, true)

def goOn (semaphore : Semaphore ι) (waiter : Waiter ι) : Option (Semaphore ι × Bool) :=
  match waiter.future, waiter.cancelling with
  | .pending, _ => none
  | .cancelled, _ => some (semaphore, false)
  | .granted, true => some (semaphore.release, false)
  | .granted, false =>
    some (if 0 < semaphore.value then semaphore.wakeUpNext else semaphore, true)

variable [DecidableEq ι]

def cancel (semaphore : Semaphore ι) (task : ι) : Semaphore ι :=
  { semaphore with
    waiters := semaphore.waiters.map fun waiter =>
      if waiter.task = task then waiter.cancel else waiter }

/-- Go on with a task whose future is done, and whether it has its slot: if not, it was
cancelled. -/
def resume (semaphore : Semaphore ι) (task : ι) : Option (Semaphore ι × Bool) :=
  match semaphore.waiters.find? fun waiter => waiter.task = task with
  | none => none
  | some waiter =>
    ({ semaphore with
      waiters := semaphore.waiters.eraseP fun other => other.task = task }).goOn waiter

end Semaphore

/-- The waiter has a slot in hand. -/
def Waiter.isGranted (waiter : Waiter ι) : Bool := waiter.future = .granted

namespace Semaphore

def slots (semaphore : Semaphore ι) : Nat :=
  semaphore.value + semaphore.waiters.countP Waiter.isGranted

end Semaphore

section

variable {waiters granted : List (Waiter ι)} {semaphore : Semaphore ι}

theorem length_grantFirst (result : grantFirst waiters = some granted) :
    granted.length = waiters.length := by
  induction waiters generalizing granted with
  | nil => cases result
  | cons waiter rest ih =>
    rw [grantFirst] at result
    split at result
    · rw [← Option.some_inj.mp result]
      rfl
    · obtain ⟨others, first, same⟩ := Option.map_eq_some_iff.mp result
      rw [← same, List.length_cons, List.length_cons, ih first]

/-- One more slot is in hand. -/
theorem countP_grantFirst (result : grantFirst waiters = some granted) :
    granted.countP Waiter.isGranted = waiters.countP Waiter.isGranted + 1 := by
  induction waiters generalizing granted with
  | nil => cases result
  | cons waiter rest ih =>
    rw [grantFirst] at result
    split at result
    · next pending =>
      rw [← Option.some_inj.mp result, List.countP_cons_of_pos (by rfl), List.countP_cons_of_neg]
      rw [Waiter.isGranted, pending]
      decide
    · obtain ⟨others, first, same⟩ := Option.map_eq_some_iff.mp result
      rw [← same, List.countP_cons, List.countP_cons, ih first]
      omega

namespace Semaphore

theorem slots_wakeUpNext (free : 0 < semaphore.value) :
    semaphore.wakeUpNext.slots = semaphore.slots := by
  rw [wakeUpNext]
  cases result : grantFirst semaphore.waiters with
  | none => rfl
  | some granted =>
    simp only [slots, countP_grantFirst result]
    omega

theorem length_wakeUpNext : semaphore.wakeUpNext.waiters.length = semaphore.waiters.length := by
  rw [wakeUpNext]
  cases result : grantFirst semaphore.waiters with
  | none => rfl
  | some granted => exact length_grantFirst result

theorem slots_release : semaphore.release.slots = semaphore.slots + 1 := by
  rw [release, slots_wakeUpNext (Nat.succ_pos _)]
  simp only [slots]
  omega

theorem length_release : semaphore.release.waiters.length = semaphore.waiters.length := by
  rw [release, length_wakeUpNext]

theorem acquire_cases (semaphore : Semaphore ι) (task : ι) :
    (∃ next, semaphore.acquire task = (next, true) ∧ next.slots + 1 = semaphore.slots ∧
      next.waiters = semaphore.waiters) ∨
    ∃ next, semaphore.acquire task = (next, false) ∧ next.slots = semaphore.slots ∧
      next.waiters.length = semaphore.waiters.length + 1 := by
  rw [acquire]
  split
  · refine .inr ⟨_, rfl, ?_, List.length_append⟩
    simp only [slots, List.countP_append, List.countP_singleton]
    rfl
  · next unlocked =>
    refine .inl ⟨_, rfl, ?_, rfl⟩
    rw [locked, Bool.or_eq_true, not_or, beq_iff_eq] at unlocked
    simp only [slots]
    omega

theorem goOn_cases {waiter : Waiter ι} {next : Semaphore ι} {acquired : Bool}
    (result : semaphore.goOn waiter = some (next, acquired)) :
    next.waiters.length = semaphore.waiters.length ∧
      next.slots + acquired.toNat = semaphore.slots + waiter.isGranted.toNat := by
  obtain ⟨task, future, cancelling⟩ := waiter
  cases future with
  | pending => cases result
  | cancelled =>
    cases result
    exact ⟨rfl, rfl⟩
  | granted =>
    cases cancelling with
    | true =>
      cases result
      exact ⟨length_release, slots_release⟩
    | false =>
      cases result
      split
      · next free =>
        rw [length_wakeUpNext, slots_wakeUpNext free]
        exact ⟨rfl, rfl⟩
      · exact ⟨rfl, rfl⟩

variable [DecidableEq ι]

theorem slots_cancel (task : ι) : (semaphore.cancel task).slots = semaphore.slots := by
  have same : ∀ waiter : Waiter ι,
      (if waiter.task = task then waiter.cancel else waiter).isGranted = waiter.isGranted := by
    intro waiter
    obtain ⟨other, future, cancelling⟩ := waiter
    split <;> cases future <;> rfl
  rw [slots, cancel, List.countP_map, slots]
  exact congrArg _ (List.countP_congr fun waiter _ => by rw [Function.comp_apply, same])

theorem length_cancel (task : ι) :
    (semaphore.cancel task).waiters.length = semaphore.waiters.length := List.length_map _

theorem resume_cases {task : ι} {next : Semaphore ι} {acquired : Bool}
    (result : semaphore.resume task = some (next, acquired)) :
    next.waiters.length + 1 = semaphore.waiters.length ∧
      next.slots + acquired.toNat = semaphore.slots := by
  rw [resume] at result
  cases found : semaphore.waiters.find? fun waiter => waiter.task = task with
  | none =>
    rw [found] at result
    cases result
  | some waiter =>
    rw [found] at result
    obtain ⟨isTask, before, after, whole, others⟩ := List.find?_eq_some_iff_append.mp found
    have rest : semaphore.waiters.eraseP (fun other => other.task = task) = before ++ after := by
      rw [whole, List.eraseP_append_right]
      · exact congrArg _ (List.eraseP_cons_of_pos isTask)
      · intro other member isOther
        exact absurd (others other member) (by rw [isOther]; decide)
    obtain ⟨sameLength, sameSlots⟩ := goOn_cases result
    rw [rest] at sameLength
    simp only [slots, rest] at sameSlots
    rw [whole, slots, slots, whole, sameLength, List.countP_append, List.countP_cons]
    simp only [List.countP_append, List.length_append, List.length_cons] at sameSlots ⊢
    refine ⟨by omega, ?_⟩
    cases granted : waiter.isGranted with
    | true =>
      rw [granted] at sameSlots
      simp only [Bool.toNat_true, if_true] at sameSlots ⊢
      omega
    | false =>
      rw [granted] at sameSlots
      simp only [Bool.toNat_false, Bool.false_eq_true, if_false] at sameSlots ⊢
      omega

end Semaphore

end

end Onpremai.Library
