import Mathlib.Data.List.Infix
import Onpremai.Library.Regex

/-!
# Texts that are put together from blocks

What is found in the text stands in one of the blocks or crosses the border of two.  A
word that cannot contain what separates the blocks stands in one of them, and so does a word
that is found however far the blocks are moved apart.
-/

namespace Onpremai.Library

universe u

section

variable {α : Type u} {word first second : List α} {blocks : List (List α)}

def Straddles (word first second : List α) : Prop :=
  ∃ ending start, ending ≠ [] ∧ start ≠ [] ∧ word = ending ++ start ∧
    ending <:+ first ∧ start <+: second

def Crosses (word : List α) : List (List α) → Prop
  | [] => False
  | block :: rest => Straddles word block rest.flatten ∨ Crosses word rest

theorem infix_append_iff : word <:+: first ++ second ↔
      word <:+: first ∨ Straddles word first second ∨ word <:+: second := by
  constructor
  · rintro ⟨before, after, split⟩
    rcases List.append_eq_append_iff.mp split with ⟨rest, rfl, rfl⟩ | ⟨rest, joined, rfl⟩
    · exact Or.inl ⟨before, rest, rfl⟩
    · rcases List.append_eq_append_iff.mp joined with ⟨ending, rfl, rfl⟩ | ⟨start, rfl, rfl⟩
      · cases ending with
        | nil => exact Or.inr (Or.inr ⟨[], after, by simp⟩)
        | cons char ending =>
          cases rest with
          | nil => exact Or.inl ⟨before, [], by simp⟩
          | cons next rest =>
            exact Or.inr (Or.inl ⟨char :: ending, next :: rest, by simp, by simp, rfl,
              ⟨before, rfl⟩, ⟨after, rfl⟩⟩)
      · exact Or.inr (Or.inr ⟨start, after, rfl⟩)
  · rintro (⟨before, after, rfl⟩ | straddles | ⟨before, after, rfl⟩)
    · exact ⟨before, after ++ second, by simp⟩
    · rcases straddles with ⟨ending, start, -, -, rfl, ⟨before, rfl⟩, ⟨after, rfl⟩⟩
      exact ⟨before, after, by simp⟩
    · exact ⟨first ++ before, after, by simp⟩

theorem infix_of_infix_append_right (nonempty : word ≠ [])
    (absent : ∀ item ∈ second, item ∉ word) (inside : word <:+: first ++ second) :
    word <:+: first := by
  rcases infix_append_iff.mp inside with inFirst | straddles | inSecond
  · exact inFirst
  · obtain ⟨ending, start, -, shown, rfl, -, begins⟩ := straddles
    obtain ⟨item, member⟩ := List.exists_mem_of_ne_nil _ shown
    exact absurd (List.mem_append_right ending member) (absent item (begins.subset member))
  · obtain ⟨item, member⟩ := List.exists_mem_of_ne_nil _ nonempty
    exact absurd member (absent item (inSecond.subset member))

theorem infix_of_infix_append_left (nonempty : word ≠ [])
    (absent : ∀ item ∈ first, item ∉ word) (inside : word <:+: first ++ second) :
    word <:+: second := by
  rcases infix_append_iff.mp inside with inFirst | straddles | inSecond
  · obtain ⟨item, member⟩ := List.exists_mem_of_ne_nil _ nonempty
    exact absurd member (absent item (inFirst.subset member))
  · obtain ⟨ending, start, shown, -, rfl, ends, -⟩ := straddles
    obtain ⟨item, member⟩ := List.exists_mem_of_ne_nil _ shown
    exact absurd (List.mem_append_left start member) (absent item (ends.subset member))
  · exact inSecond

theorem infix_flatten_iff (nonempty : word ≠ []) :
    word <:+: blocks.flatten ↔ (∃ block ∈ blocks, word <:+: block) ∨ Crosses word blocks := by
  induction blocks with
  | nil => simp [Crosses, nonempty]
  | cons block rest ih =>
    rw [List.flatten_cons, infix_append_iff, ih]
    simp only [Crosses, List.exists_mem_cons_iff, or_assoc, or_left_comm]

end

section

variable {α : Type u} {word first second block : List α} {item separator : α}
  {blocks more : List (List α)} {count : Nat}

def HeldWithin (separator : α) (word : List α) : List (List α) → Prop
  | [] => False
  | [block] => word <:+: block
  | block :: next :: rest =>
    word <:+: block ++ [separator] ∨ HeldWithin separator word (next :: rest)

theorem HeldWithin.cons (held : HeldWithin separator word blocks) :
    HeldWithin separator word (block :: blocks) := by
  cases blocks with
  | nil => cases held
  | cons next rest => exact Or.inr held

theorem heldWithin_of_infix (inside : word <:+: block) :
    HeldWithin separator word (block :: blocks) := by
  cases blocks with
  | nil => exact inside
  | cons next rest => exact Or.inl (inside.trans (List.prefix_append block [separator]).isInfix)

theorem HeldWithin.sublist (sub : blocks.Sublist more)
    (held : HeldWithin separator word blocks) : HeldWithin separator word more := by
  induction sub with
  | slnil => exact held
  | cons block _ ih => exact (ih held).cons
  | @cons_cons shorter longer block sub ih =>
    cases shorter with
    | nil => exact heldWithin_of_infix held
    | cons next rest =>
      rcases held with inside | later
      · cases longer with
        | nil => cases sub
        | cons other rest => exact Or.inl inside
      · exact (ih later).cons

theorem HeldWithin.infix_flatten (starts : ∀ block ∈ blocks, [separator] <+: block)
    (held : HeldWithin separator word blocks) : word <:+: blocks.flatten := by
  induction blocks with
  | nil => cases held
  | cons block rest ih =>
    rw [List.flatten_cons]
    cases rest with
    | nil => exact held.trans (List.prefix_append _ _).isInfix
    | cons next rest =>
      rcases held with inside | later
      · obtain ⟨text, rfl⟩ := starts next (by simp)
        refine inside.trans (List.IsPrefix.isInfix ⟨text ++ rest.flatten, ?_⟩)
        simp
      · have inRest := ih (fun other member =>
          starts other (List.mem_cons_of_mem block member)) later
        exact inRest.trans (List.suffix_append _ _).isInfix

theorem head?_eq_of_subset_replicate (nonempty : word ≠ [])
    (repeats : word ⊆ List.replicate count item) : word.head? = some item := by
  cases word with
  | nil => exact absurd rfl nonempty
  | cons head rest =>
    rw [List.head?_cons, List.eq_of_mem_replicate (repeats List.mem_cons_self)]

theorem getLast?_eq_of_subset_replicate (nonempty : word ≠ [])
    (repeats : word ⊆ List.replicate count item) : word.getLast? = some item := by
  rw [List.getLast?_eq_some_getLast nonempty,
    List.eq_of_mem_replicate (repeats (List.getLast_mem nonempty))]

theorem infix_of_infix_wall (nonempty : word ≠ []) (short : word.length ≤ count)
    (starts : word.head? ≠ some item) (ends : word.getLast? ≠ some item)
    (inside : word <:+: first ++ (List.replicate count item ++ second)) :
    word <:+: first ∨ word <:+: second := by
  rcases infix_append_iff.mp inside with inFirst | straddles | beyond
  · exact Or.inl inFirst
  · -- what is left of the word is not longer than the wall, so the word ends in it
    obtain ⟨ending, start, -, shown, rfl, -, begins⟩ := straddles
    have inWall : start <+: List.replicate count item := by
      apply List.prefix_of_prefix_length_le begins (List.prefix_append _ _)
      rw [List.length_append] at short
      rw [List.length_replicate]
      omega
    have last := getLast?_eq_of_subset_replicate shown inWall.subset
    rw [List.getLast?_append, last] at ends
    exact absurd rfl ends
  · rcases infix_append_iff.mp beyond with inWall | straddles | inSecond
    · exact absurd (head?_eq_of_subset_replicate nonempty inWall.subset) starts
    · obtain ⟨ending, start, shown, -, rfl, finishes, -⟩ := straddles
      have head := head?_eq_of_subset_replicate shown finishes.subset
      rw [List.head?_append, head] at starts
      exact absurd rfl starts
    · exact Or.inr inSecond

end

namespace Regex

variable {isWord : Char → Bool} {word text rest : List Char} {separator : Char}
  {previous : Option Char}

theorem isBoundary_separator (outside : isWord separator = false) (left : Option Char) :
    isBoundary isWord left (some separator) = isBoundary isWord left none := by
  simp [isBoundary, outside]

theorem lastOr_append_cons (before after : List Char) :
    lastOr previous (before ++ separator :: after) = lastOr (some separator) after := by
  rw [lastOr, List.getLast?_append, ← lastOr_cons previous separator, lastOr]
  cases last : (separator :: after).getLast? with
  | none => simp at last
  | some char => rfl

theorem sides_of_separator {before after : List Char} (absent : separator ∉ word)
    (split : text ++ separator :: rest = before ++ (word ++ after)) :
    (∃ between, text = before ++ (word ++ between) ∧ after = between ++ separator :: rest) ∨
      ∃ start, before = text ++ separator :: start ∧ rest = start ++ (word ++ after) := by
  rcases List.append_eq_append_iff.mp split with ⟨start, opening, beyond⟩ | ⟨inside, cut, beyond⟩
  · cases start with
    | nil =>
      cases word with
      | nil => exact Or.inl ⟨[], by simpa using opening.symm, by simpa using beyond.symm⟩
      | cons char word =>
        rw [List.nil_append, List.cons_append, List.cons.injEq] at beyond
        exact absurd (beyond.1 ▸ List.mem_cons_self) absent
    | cons char start =>
      rw [List.cons_append, List.cons.injEq] at beyond
      rcases beyond with ⟨rfl, rfl⟩
      exact Or.inr ⟨start, opening, rfl⟩
  · rcases List.append_eq_append_iff.mp beyond with ⟨between, rfl, here⟩ | ⟨ending, rfl, here⟩
    · exact Or.inl ⟨between, cut, here⟩
    · cases ending with
      | nil => exact Or.inl ⟨[], by simpa using cut, by simpa using here.symm⟩
      | cons char ending =>
        rw [List.cons_append, List.cons.injEq] at here
        exact absurd (here.1 ▸ List.mem_append_right inside List.mem_cons_self) absent

theorem occursAsWord_append (outside : isWord separator = false) (absent : separator ∉ word) :
    OccursAsWord isWord word previous (text ++ separator :: rest) ↔
      OccursAsWord isWord word previous text ∨
        OccursAsWord isWord word (some separator) rest := by
  have ending : ∀ (left : Option Char) (between : List Char),
      isBoundary isWord left (between ++ separator :: rest).head? =
        isBoundary isWord left between.head? := by
    intro left between
    cases between with
    | nil => exact isBoundary_separator outside left
    | cons char between => rfl
  constructor
  · rintro ⟨before, after, split, opens, closes⟩
    rcases sides_of_separator absent split with ⟨between, rfl, rfl⟩ | ⟨start, rfl, rfl⟩
    · left
      refine ⟨before, between, by simp, ?_, ?_⟩
      · rwa [← List.append_assoc, ending] at opens
      · rwa [ending] at closes
    · right
      refine ⟨start, after, rfl, ?_, ?_⟩
      · rwa [lastOr_append_cons] at opens
      · rwa [List.append_assoc, List.cons_append, lastOr_append_cons] at closes
  · rintro (⟨before, after, rfl, opens, closes⟩ | ⟨before, after, rfl, opens, closes⟩)
    · refine ⟨before, after ++ separator :: rest, by simp, ?_, ?_⟩
      · rwa [← List.append_assoc, ending]
      · rwa [ending]
    · refine ⟨text ++ separator :: before, after, by simp, ?_, ?_⟩
      · rwa [lastOr_append_cons]
      · rwa [List.append_assoc, List.cons_append, lastOr_append_cons]

theorem not_occursAsWord_nil : ¬ OccursAsWord isWord word none [] := by
  rintro ⟨before, after, split, opens, -⟩
  have empty := List.append_eq_nil_iff.mp split.symm
  rw [empty.1, empty.2] at opens
  cases opens

theorem occursAsWord_cons (outside : isWord separator = false) (absent : separator ∉ word) :
    OccursAsWord isWord word none (separator :: rest) ↔
      OccursAsWord isWord word (some separator) rest := by
  have sides := @occursAsWord_append isWord word [] rest separator none outside absent
  simpa [not_occursAsWord_nil] using sides

theorem occursAsWord_row (outside : isWord separator = false) (absent : separator ∉ word)
    {texts : List (List Char)} :
    OccursAsWord isWord word (some separator)
        (text ++ (texts.map (separator :: ·)).flatten) ↔
      ∃ other ∈ text :: texts, OccursAsWord isWord word (some separator) other := by
  induction texts generalizing text with
  | nil => simp
  | cons next texts ih =>
    rw [List.map_cons, List.flatten_cons, List.cons_append,
      occursAsWord_append outside absent, ih, List.exists_mem_cons_iff _ text]

theorem occursAsWord_flatten_iff (outside : isWord separator = false)
    (absent : separator ∉ word) {texts : List (List Char)} :
    OccursAsWord isWord word none (texts.map (separator :: ·)).flatten ↔
      ∃ text ∈ texts, OccursAsWord isWord word none (separator :: text) := by
  cases texts with
  | nil => simp [not_occursAsWord_nil]
  | cons text texts =>
    rw [List.map_cons, List.flatten_cons, List.cons_append, occursAsWord_cons outside absent,
      occursAsWord_row outside absent]
    simp only [occursAsWord_cons outside absent]

end Regex

end Onpremai.Library
