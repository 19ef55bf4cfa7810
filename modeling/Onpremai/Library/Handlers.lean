import Onpremai.Library.Dict
import Onpremai.Library.Except

/-!
# Handlers

A handler works on a state and returns or raises, and what it has done to the state stays
done when it raises.  One family of rules carries conditions from before a handler to after
it; another one carries a relation through two runs of the same handler, and a third one
through runs of two handlers.
-/

namespace Onpremai.Library

universe u

variable {σ ε α β : Type u}

/-- Code that works on a state, and returns or raises. -/
def Handler (σ ε α : Type u) : Type u := σ → Except ε α × σ

namespace Handler

/-- Go on with what was returned. -/
def andThen (handler : Handler σ ε α) (next : α → Handler σ ε β) : Handler σ ε β := fun state =>
  match handler state with
  | (.ok value, state) => next value state
  | (.error exn, state) => (.error exn, state)

instance : Monad (Handler σ ε) where
  pure := fun value state => (.ok value, state)
  bind := andThen

def look (view : σ → α) : Handler σ ε α := fun state => (.ok (view state), state)

def change (update : σ → σ) : Handler σ ε PUnit := fun state => (.ok ⟨⟩, update state)

def raise (exn : ε) : Handler σ ε α := fun state => (.error exn, state)

def rescue (handler : Handler σ ε α) (recover : ε → Handler σ ε α) : Handler σ ε α := fun state =>
  match handler state with
  | (.ok value, state) => (.ok value, state)
  | (.error exn, state) => recover exn state

section Runs

variable {handler : Handler σ ε α} {state after : σ} {value : α} {exn : ε}

theorem bind_of_ok (ran : handler state = (.ok value, after)) (next : α → Handler σ ε β) :
    (handler >>= next) state = next value after := by
  change handler.andThen next state = next value after
  rw [andThen, ran]

theorem bind_of_error (ran : handler state = (.error exn, after)) (next : α → Handler σ ε β) :
    (handler >>= next) state = (.error exn, after) := by
  change handler.andThen next state = (.error exn, after)
  rw [andThen, ran]

theorem bind_pure_fst (result : α → β) :
    ((handler >>= fun value => pure (result value)) state).1 = (handler state).1.map result := by
  cases ran : (handler state).1 with
  | ok value => rw [bind_of_ok (Prod.ext ran rfl)]; rfl
  | error exn => rw [bind_of_error (Prod.ext ran rfl)]; rfl

theorem rescue_of_ok (ran : handler state = (.ok value, after))
    (recover : ε → Handler σ ε α) : handler.rescue recover state = (.ok value, after) := by
  rw [rescue, ran]

theorem rescue_of_error (ran : handler state = (.error exn, after))
    (recover : ε → Handler σ ε α) : handler.rescue recover state = recover exn after := by
  rw [rescue, ran]

end Runs

def After (returned : α → σ → Prop) (raised : ε → σ → Prop) : Except ε α × σ → Prop
  | (.ok value, state) => returned value state
  | (.error exn, state) => raised exn state

def Ensures (before : σ → Prop) (handler : Handler σ ε α) (returned : α → σ → Prop)
    (raised : ε → σ → Prop) : Prop :=
  ∀ state, before state → After returned raised (handler state)

section Rules

variable {before : σ → Prop} {returned : α → σ → Prop} {raised : ε → σ → Prop}
  {handler : Handler σ ε α}

theorem ensures_pure {value : α} (holds : ∀ state, before state → returned value state) :
    Ensures before (pure value : Handler σ ε α) returned raised := holds

theorem ensures_look {view : σ → α}
    (holds : ∀ state, before state → returned (view state) state) :
    Ensures before (look view : Handler σ ε α) returned raised := holds

theorem ensures_raise {exn : ε} (holds : ∀ state, before state → raised exn state) :
    Ensures before (raise exn : Handler σ ε α) returned raised := holds

/-- A sequence goes through a condition in the middle. -/
theorem ensures_bind {next : α → Handler σ ε β} {after : β → σ → Prop}
    (first : Ensures before handler returned raised)
    (second : ∀ value, Ensures (returned value) (next value) after raised) :
    Ensures before (handler >>= next) after raised := by
  intro state holds
  have done := first state holds
  change After after raised (handler.andThen next state)
  rw [andThen]
  cases outcome : handler state with
  | mk result state =>
    rw [outcome] at done
    cases result with
    | ok value => exact second value state done
    | error exn => exact done

theorem ensures_rescue {recover : ε → Handler σ ε α} {after : ε → σ → Prop}
    (first : Ensures before handler returned raised)
    (second : ∀ exn, Ensures (raised exn) (recover exn) returned after) :
    Ensures before (handler.rescue recover) returned after := by
  intro state holds
  have done := first state holds
  rw [rescue]
  cases outcome : handler state with
  | mk result state =>
    rw [outcome] at done
    cases result with
    | ok value => exact done
    | error exn => exact second exn state done

theorem Ensures.weaken {other : σ → Prop} {otherReturned : α → σ → Prop}
    {otherRaised : ε → σ → Prop} (ensures : Ensures other handler otherReturned otherRaised)
    (earlier : ∀ state, before state → other state)
    (returns : ∀ value state, otherReturned value state → returned value state)
    (raises : ∀ exn state, otherRaised exn state → raised exn state) :
    Ensures before handler returned raised := by
  intro state holds
  have done := ensures state (earlier state holds)
  cases outcome : handler state with
  | mk result state =>
    rw [outcome] at done
    cases result with
    | ok value => exact returns value state done
    | error exn => exact raises exn state done

end Rules

def Keeps (invariant : σ → Prop) (handler : Handler σ ε α) : Prop :=
  ∀ state, invariant state → invariant (handler state).2

section Invariants

variable {invariant : σ → Prop} {handler : Handler σ ε α}

theorem keeps_pure (value : α) : Keeps invariant (pure value : Handler σ ε α) :=
  fun _ holds => holds

theorem keeps_look (view : σ → α) : Keeps invariant (look view : Handler σ ε α) :=
  fun _ holds => holds

theorem keeps_raise (exn : ε) : Keeps invariant (raise exn : Handler σ ε α) :=
  fun _ holds => holds

theorem keeps_change {update : σ → σ} (kept : ∀ state, invariant state → invariant (update state)) :
    Keeps invariant (change update : Handler σ ε PUnit) := kept

theorem keeps_bind_at {next : α → Handler σ ε β} {state : σ} (first : invariant (handler state).2)
    (second : ∀ value, Keeps invariant (next value)) : invariant ((handler >>= next) state).2 := by
  change invariant (handler.andThen next state).2
  rw [andThen]
  cases outcome : handler state with
  | mk result state =>
    rw [outcome] at first
    cases result with
    | ok value => exact second value state first
    | error exn => exact first

theorem keeps_bind {next : α → Handler σ ε β} (first : Keeps invariant handler)
    (second : ∀ value, Keeps invariant (next value)) : Keeps invariant (handler >>= next) :=
  fun state holds => keeps_bind_at (first state holds) second

theorem keeps_rescue_at {recover : ε → Handler σ ε α} {state : σ}
    (first : invariant (handler state).2) (second : ∀ exn, Keeps invariant (recover exn)) :
    invariant ((handler.rescue recover) state).2 := by
  rw [rescue]
  cases outcome : handler state with
  | mk result state =>
    rw [outcome] at first
    cases result with
    | ok value => exact first
    | error exn => exact second exn state first

theorem keeps_rescue {recover : ε → Handler σ ε α} (first : Keeps invariant handler)
    (second : ∀ exn, Keeps invariant (recover exn)) :
    Keeps invariant (handler.rescue recover) :=
  fun state holds => keeps_rescue_at (first state holds) second

theorem Keeps.ensures (keeps : Keeps invariant handler) :
    Ensures invariant handler (fun _ => invariant) (fun _ => invariant) := by
  intro state holds
  have kept := keeps state holds
  cases outcome : handler state with
  | mk result state =>
    rw [outcome] at kept
    cases result with
    | ok value => exact kept
    | error exn => exact kept

theorem Ensures.keeps
    (ensures : Ensures invariant handler (fun _ => invariant) fun _ => invariant) :
    Keeps invariant handler := by
  intro state holds
  have done := ensures state holds
  cases outcome : handler state with
  | mk result state =>
    rw [outcome] at done
    cases result with
    | ok value => exact done
    | error exn => exact done

end Invariants

/-- Two runs of a handler from related states end alike, provided that the first one does
nothing that is not allowed.  Whatever was not allowed stays so. -/
structure Lockstep (allowed : σ → Prop) (related : σ → σ → Prop) (handler : Handler σ ε α) :
    Prop where
  earlier : ∀ state, allowed (handler state).2 → allowed state
  alike : ∀ first second, related first second → allowed (handler first).2 →
    (handler first).1 = (handler second).1 ∧ related (handler first).2 (handler second).2

section Relations

variable {allowed : σ → Prop} {related : σ → σ → Prop} {handler : Handler σ ε α}

theorem lockstep_pure (value : α) :
    Lockstep allowed related (pure value : Handler σ ε α) where
  earlier := fun _ fine => fine
  alike := fun _ _ same _ => ⟨rfl, same⟩

theorem lockstep_raise (exn : ε) : Lockstep allowed related (raise exn : Handler σ ε α) where
  earlier := fun _ fine => fine
  alike := fun _ _ same _ => ⟨rfl, same⟩

theorem lockstep_look {view : σ → α}
    (seen : ∀ first second, related first second → allowed first → view first = view second) :
    Lockstep allowed related (look view : Handler σ ε α) where
  earlier := fun _ fine => fine
  alike := fun first second same fine => ⟨congrArg Except.ok (seen first second same fine), same⟩

theorem lockstep_change {update : σ → σ} (earlier : ∀ state, allowed (update state) → allowed state)
    (kept : ∀ first second, related first second → allowed (update first) →
      related (update first) (update second)) :
    Lockstep allowed related (change update : Handler σ ε PUnit) where
  earlier := earlier
  alike := fun first second same fine => ⟨rfl, kept first second same fine⟩

theorem lockstep_bind {next : α → Handler σ ε β} (first : Lockstep allowed related handler)
    (second : ∀ value, Lockstep allowed related (next value)) :
    Lockstep allowed related (handler >>= next) := by
  have unfolds : ∀ state, (handler >>= next) state = handler.andThen next state := fun _ => rfl
  constructor
  · intro state fine
    apply first.earlier
    rw [unfolds, andThen] at fine
    cases outcome : handler state with
    | mk result middle =>
      rw [outcome] at fine
      cases result with
      | ok value => exact (second value).earlier middle fine
      | error exn => exact fine
  · intro one two same fine
    have ends := first.alike one two same
    rw [unfolds, andThen] at fine
    rw [unfolds, unfolds, andThen, andThen]
    cases outcome : handler one with
    | mk result middle =>
      rw [outcome] at fine ends
      cases otherOutcome : handler two with
      | mk otherResult otherMiddle =>
        rw [otherOutcome] at ends
        cases result with
        | ok value =>
          have ⟨results, states⟩ := ends ((second value).earlier middle fine)
          cases results
          exact (second value).alike middle otherMiddle states fine
        | error exn =>
          have ⟨results, states⟩ := ends fine
          cases results
          exact ⟨rfl, states⟩

theorem lockstep_rescue {recover : ε → Handler σ ε α} (first : Lockstep allowed related handler)
    (second : ∀ exn, Lockstep allowed related (recover exn)) :
    Lockstep allowed related (handler.rescue recover) := by
  constructor
  · intro state fine
    apply first.earlier
    rw [rescue] at fine
    cases outcome : handler state with
    | mk result middle =>
      rw [outcome] at fine
      cases result with
      | ok value => exact fine
      | error exn => exact (second exn).earlier middle fine
  · intro one two same fine
    have ends := first.alike one two same
    rw [rescue] at fine
    rw [rescue, rescue]
    cases outcome : handler one with
    | mk result middle =>
      rw [outcome] at fine ends
      cases otherOutcome : handler two with
      | mk otherResult otherMiddle =>
        rw [otherOutcome] at ends
        cases result with
        | ok value =>
          have ⟨results, states⟩ := ends fine
          cases results
          exact ⟨rfl, states⟩
        | error exn =>
          have ⟨results, states⟩ := ends ((second exn).earlier middle fine)
          cases results
          exact (second exn).alike middle otherMiddle states fine

end Relations

def Twins (related : σ → σ → Prop) (first second : Handler σ ε α) : Prop :=
  ∀ one two, related one two → (first one).1 = (second two).1 ∧ related (first one).2 (second two).2

section Pairs

variable {related : σ → σ → Prop} {first second : Handler σ ε α}

theorem twins_pure (value : α) :
    Twins related (pure value : Handler σ ε α) (pure value) := fun _ _ same => ⟨rfl, same⟩

theorem twins_raise (exn : ε) : Twins related (raise exn : Handler σ ε α) (raise exn) :=
  fun _ _ same => ⟨rfl, same⟩

theorem twins_look {view other : σ → α} (seen : ∀ one two, related one two → view one = other two) :
    Twins related (look view : Handler σ ε α) (look other) :=
  fun one two same => ⟨congrArg Except.ok (seen one two same), same⟩

theorem twins_change {update other : σ → σ}
    (kept : ∀ one two, related one two → related (update one) (other two)) :
    Twins related (change update : Handler σ ε PUnit) (change other) :=
  fun one two same => ⟨rfl, kept one two same⟩

theorem twins_bind {next other : α → Handler σ ε β} (firsts : Twins related first second)
    (nexts : ∀ value, Twins related (next value) (other value)) :
    Twins related (first >>= next) (second >>= other) := by
  intro one two same
  have ends := firsts one two same
  change (first.andThen next one).1 = (second.andThen other two).1 ∧
    related (first.andThen next one).2 (second.andThen other two).2
  rw [andThen, andThen]
  cases outcome : first one with
  | mk result middle =>
    cases otherOutcome : second two with
    | mk otherResult otherMiddle =>
      rw [outcome, otherOutcome] at ends
      obtain ⟨results, states⟩ := ends
      dsimp only at results
      rw [← results]
      cases result with
      | ok value => exact nexts value middle otherMiddle states
      | error exn => exact ⟨rfl, states⟩

theorem twins_rescue {recover other : ε → Handler σ ε α} (firsts : Twins related first second)
    (recovers : ∀ exn, Twins related (recover exn) (other exn)) :
    Twins related (first.rescue recover) (second.rescue other) := by
  intro one two same
  have ends := firsts one two same
  rw [rescue, rescue]
  cases outcome : first one with
  | mk result middle =>
    cases otherOutcome : second two with
    | mk otherResult otherMiddle =>
      rw [outcome, otherOutcome] at ends
      obtain ⟨results, states⟩ := ends
      dsimp only at results
      rw [← results]
      cases result with
      | ok value => exact ⟨rfl, states⟩
      | error exn => exact recovers exn middle otherMiddle states

end Pairs

end Handler

end Onpremai.Library

/-!
## Counting calls

A program that counts the calls it makes.  What it ends with does not depend on the count, and
how many calls it makes is bounded part by part, with a bound for every end and a bound for
the programs that return.
-/

namespace Onpremai.Library

universe u

variable {ε α β : Type}

abbrev Counting (ε α : Type) : Type := Handler Nat ε α

namespace Counting

def call (outcome : Except ε α) : Counting ε α := fun made => (outcome, made + 1)

/-- A computation without calls. -/
def plain (outcome : Except ε α) : Counting ε α := fun made => (outcome, made)

def Makes (program : Counting ε α) (outcome : Except ε α) (calls : Nat) : Prop :=
  ∀ made, program made = (outcome, made + calls)

theorem makes_call (outcome : Except ε α) : Makes (call outcome) outcome 1 := fun _ => rfl

theorem makes_plain (outcome : Except ε α) : Makes (plain outcome) outcome 0 := fun _ => rfl

section

variable {program : Counting ε α} {next : α → Counting ε β}

theorem makes_bind {value : α}
    {outcome : Except ε β} {first : Nat} (begins : Makes program (.ok value) first)
    (second : Nat) (ends : Makes (next value) outcome second) :
    Makes (program >>= next) outcome (first + second) := by
  intro made
  rw [Handler.bind_of_ok (begins made), ends, Nat.add_assoc]

theorem makes_bind_of_error {exn : ε} {calls : Nat} (raises : Makes program (.error exn) calls) :
    Makes (program >>= next) (.error exn) calls := by
  intro made
  rw [Handler.bind_of_error (raises made)]

end

theorem Makes.bind_plain {program : Counting ε α} {outcome : Except ε α} {calls : Nat}
    (makes : Makes program outcome calls) (next : α → Except ε β) :
    Makes (program >>= fun value => plain (next value)) (outcome >>= next) calls := by
  cases outcome with
  | error exn => exact makes_bind_of_error makes
  | ok value => exact makes_bind makes 0 (makes_plain _)

def AtLeast (program : Counting ε α) (outcome : Except ε α) (always returning : Nat) : Prop :=
  ∃ calls, Makes program outcome calls ∧ always ≤ calls ∧ (Returns outcome → returning ≤ calls)

theorem atLeast_call (outcome : Except ε α) : AtLeast (call outcome) outcome 1 1 :=
  ⟨1, makes_call outcome, Nat.le_refl 1, fun _ => Nat.le_refl 1⟩

theorem atLeast_plain (outcome : Except ε α) : AtLeast (plain outcome) outcome 0 0 :=
  ⟨0, makes_plain outcome, Nat.le_refl 0, fun _ => Nat.le_refl 0⟩

/-- The calls of a sequence add up. -/
theorem AtLeast.bind {program : Counting ε α} {next : α → Counting ε β} {outcome : Except ε α}
    {rest : α → Except ε β} {always returning later : Nat}
    (begins : AtLeast program outcome always returning) (laterReturning : Nat)
    (ends : ∀ value, AtLeast (next value) (rest value) later laterReturning) :
    AtLeast (program >>= next) (outcome >>= rest) always (returning + laterReturning) := by
  obtain ⟨first, makes, bound, returns⟩ := begins
  cases outcome with
  | error exn =>
    refine ⟨first, makes_bind_of_error makes, bound, ?_⟩
    rintro ⟨value, ⟨⟩⟩
  | ok value =>
    obtain ⟨second, goesOn, -, laterReturns⟩ := ends value
    have early := returns (returns_ok value)
    refine ⟨first + second, makes_bind makes second goesOn, by omega, ?_⟩
    intro returned
    have late := laterReturns returned
    omega

theorem AtLeast.weaken {program : Counting ε α} {outcome : Except ε α}
    {always returning fewer fewerReturning : Nat}
    (bounded : AtLeast program outcome always returning) (less : fewer ≤ always)
    (lessReturning : fewerReturning ≤ returning) :
    AtLeast program outcome fewer fewerReturning := by
  obtain ⟨calls, makes, bound, returns⟩ := bounded
  exact ⟨calls, makes, Nat.le_trans less bound,
    fun returned => Nat.le_trans lessReturning (returns returned)⟩

def calls (program : Counting ε α) : Nat := (program 0).2

theorem Makes.calls_eq {program : Counting ε α} {outcome : Except ε α} {count : Nat}
    (makes : Makes program outcome count) : calls program = count := by
  rw [calls, makes, Nat.zero_add]

end Counting

end Onpremai.Library

/-!
## Footprints

A handler that works on a store works within a footprint if it reads and writes no keys but
those of the footprint.  Handlers with footprints apart do not disturb each other.
-/

namespace Onpremai.Library

universe u

variable {κ ν ε α β : Type u} [DecidableEq κ]

def SameOn (footprint : κ → Prop) (first second : Dict κ ν) : Prop :=
  ∀ key, footprint key → first.get? key = second.get? key

/-- A handler that reads and writes only the keys of a footprint. -/
structure Within (footprint : κ → Prop) (handler : Handler (Dict κ ν) ε α) : Prop where
  frame : ∀ store key, ¬ footprint key → (handler store).2.get? key = store.get? key
  alike : Handler.Twins (SameOn footprint) handler handler

namespace Within

variable {footprint : κ → Prop} {handler : Handler (Dict κ ν) ε α}

protected theorem pure (value : α) :
    Within footprint (pure value : Handler (Dict κ ν) ε α) where
  frame := fun _ _ _ => rfl
  alike := Handler.twins_pure value

protected theorem raise (exn : ε) :
    Within footprint (Handler.raise exn : Handler (Dict κ ν) ε α) where
  frame := fun _ _ _ => rfl
  alike := Handler.twins_raise exn

theorem look {key : κ} (inside : footprint key) (view : Option ν → α) : Within footprint
      (Handler.look fun store => view (store.get? key) : Handler (Dict κ ν) ε α) where
  frame := fun _ _ _ => rfl
  alike := Handler.twins_look fun _ _ same => congrArg view (same key inside)

theorem set {key : κ} (inside : footprint key) (value : ν) : Within footprint
      (Handler.change fun store => store.set key value : Handler (Dict κ ν) ε PUnit) where
  frame := by
    intro store query outside
    have other : key ≠ query := fun same => outside (same ▸ inside)
    change (store.set key value).get? query = store.get? query
    rw [Dict.get?_set, if_neg other]
  alike := by
    apply Handler.twins_change
    intro one two same query queried
    rw [Dict.get?_set, Dict.get?_set, same query queried]

theorem erase {key : κ} (inside : footprint key) : Within footprint
      (Handler.change fun store => store.erase key : Handler (Dict κ ν) ε PUnit) where
  frame := by
    intro store query outside
    have other : query ≠ key := fun same => outside (same ▸ inside)
    change (store.erase key).get? query = store.get? query
    rw [Dict.get?_erase, if_neg other]
  alike := by
    apply Handler.twins_change
    intro one two same query queried
    rw [Dict.get?_erase, Dict.get?_erase, same query queried]

protected theorem bind {next : α → Handler (Dict κ ν) ε β} (first : Within footprint handler)
    (second : ∀ value, Within footprint (next value)) :
    Within footprint (handler >>= next) where
  frame := by
    intro store key outside
    have kept : ∀ value, Handler.Keeps (fun other => other.get? key = store.get? key)
        (next value) := by
      intro value other same
      rw [(second value).frame other key outside, same]
    exact Handler.keeps_bind_at (first.frame store key outside) kept
  alike := Handler.twins_bind first.alike fun value => (second value).alike

theorem sameOn_of_apart {apart : κ → Prop} (within : Within footprint handler)
    (disjoint : ∀ key, apart key → ¬ footprint key) (store : Dict κ ν) :
    SameOn apart (handler store).2 store :=
  fun key inside => within.frame store key (disjoint key inside)

end Within

end Onpremai.Library
