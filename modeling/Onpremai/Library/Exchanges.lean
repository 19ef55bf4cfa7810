import Mathlib.Data.List.Induction
import Mathlib.Data.List.Perm.Basic

/-!
# Exchanges

A transcript in which calls are made and answered.  It is well formed when the calls that are
made together are answered right away, each of them once, before anything else is said.
-/

namespace Onpremai.Library

universe u

variable {κ : Type u}

/-- What an utterance does: it makes calls, it answers one, or it just speaks.  Calls and
answers may lack an identifier. -/
inductive Utterance (κ : Type u) where
  | speaks
  | calls (ids : List (Option κ))
  | answers (id : Option κ)

/-- A transcript in which every call is answered once before anything else is said, and every
answer is one to a call. -/
inductive WellFormed : List (Utterance κ) → Prop where
  | nil : WellFormed []
  | speaks {rest : List (Utterance κ)} (later : WellFormed rest) : WellFormed (.speaks :: rest)
  | exchange {rest : List (Utterance κ)} (ids answers : List κ) (matched : answers.Perm ids)
      (later : WellFormed rest) :
      WellFormed
        (.calls (ids.map some) :: (answers.map (fun id => .answers (some id)) ++ rest))

namespace WellFormed

theorem append {earlier later : List (Utterance κ)} (first : WellFormed earlier)
    (second : WellFormed later) : WellFormed (earlier ++ later) := by
  induction first with
  | nil => exact second
  | speaks _ ih => exact .speaks ih
  | exchange ids answers matched _ ih =>
    rw [List.cons_append, List.append_assoc]
    exact .exchange ids answers matched ih

section

variable {transcript : List (Utterance κ)}

theorem concat_speaks (first : WellFormed transcript) :
    WellFormed (transcript ++ [.speaks]) := first.append (.speaks .nil)

theorem concat_exchange (first : WellFormed transcript)
    (id : κ) : WellFormed (transcript ++ [.calls [some id]] ++ [.answers (some id)]) := by
  rw [List.append_assoc]
  exact first.append (.exchange [id] [id] (List.Perm.refl [id]) .nil)

/-- What is said last can be taken back. -/
theorem of_concat_speaks
    (whole : WellFormed (transcript ++ [.speaks])) : WellFormed transcript := by
  generalize same : transcript ++ [.speaks] = longer at whole
  induction whole generalizing transcript with
  | nil => simp at same
  | speaks later ih =>
    cases transcript with
    | nil => exact .nil
    | cons first rest =>
      cases same
      exact .speaks (ih rfl)
  | @exchange rest ids answers matched later ih =>
    -- the last utterance is none of the exchange, so there is a rest that ends with it
    cases rest using List.reverseRecOn with
    | nil =>
      exfalso
      have last := congrArg List.getLast? same
      cases answers using List.reverseRecOn with
      | nil => simp at last
      | append_singleton answers id => simp [List.getLast?_cons, ← List.append_assoc] at last
    | append_singleton rest final =>
      rw [← List.append_assoc, ← List.cons_append] at same
      have ⟨front, finals⟩ := List.append_inj' same rfl
      cases finals
      rw [front]
      exact .exchange ids answers matched (ih rfl)

end

theorem of_speaks_cons {rest : List (Utterance κ)} (whole : WellFormed (.speaks :: rest)) :
    WellFormed rest := by
  cases whole with
  | speaks later => exact later

theorem identified {ids : List (Option κ)} {rest : List (Utterance κ)}
    (whole : WellFormed (.calls ids :: rest)) : none ∉ ids := by
  cases whole with
  | exchange ids answers matched later => simp

end WellFormed

end Onpremai.Library
