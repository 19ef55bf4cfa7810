import Onpremai.Library.Text

/-!
# Marked lines of a text

The lines of a text that start with a mark, such as headings.  A text that is put together
from others has their marked lines, as far as the parts begin at the start of a line.
-/

namespace Onpremai.Library.Text

section Split

variable {α : Type} [DecidableEq α] {separator : α} {first second : List α}

theorem tail_splitOn_append (absent : separator ∉ first) :
    ((first ++ second).splitOn separator).tail = (second.splitOn separator).tail := by
  induction first with
  | nil => rfl
  | cons item rest ih =>
    rw [List.mem_cons, not_or] at absent
    have other : ¬ (item == separator) = true := by
      rw [beq_iff_eq]
      exact Ne.symm absent.1
    rw [List.cons_append, List.splitOn_cons_eq_if_modifyHead, if_neg other, List.tail_modifyHead,
      ih absent.2]

theorem tail_splitOn_suffix :
    (second.splitOn separator).tail <:+ ((first ++ second).splitOn separator).tail := by
  induction first with
  | nil => exact List.suffix_refl _
  | cons item rest ih =>
    rw [List.cons_append, List.splitOn_cons_eq_if_modifyHead]
    split
    · exact ih.trans (List.tail_suffix _)
    · rw [List.tail_modifyHead]
      exact ih

end Split

def markedLines (mark text : String) : List String := (lines text).filter (startsWith mark)

def laterMarked (mark text : String) : List String := (lines text).tail.filter (startsWith mark)

def IsLine (text : String) : Prop := '\n' ∉ text.toList

instance (text : String) : Decidable (IsLine text) := inferInstanceAs (Decidable (¬ _))

def Apart (mark text : String) : Prop :=
  ∃ char ∈ text.toList.head?, ∃ other ∈ mark.toList.head?, other ≠ char

instance (mark text : String) : Decidable (Apart mark text) :=
  inferInstanceAs (Decidable (∃ char ∈ text.toList.head?, _))

variable {mark first second : String}

theorem lines_append_newline : lines (first ++ "\n" ++ second) = lines first ++ lines second := by
  have split : (first ++ "\n" ++ second).toList = first.toList ++ '\n' :: second.toList := by
    simp [String.toList_append]
  rw [lines, split, List.splitOn_append_cons_self, List.map_append, lines, lines]

theorem markedLines_append_newline : markedLines mark (first ++ "\n" ++ second) =
    markedLines mark first ++ markedLines mark second := by
  rw [markedLines, lines_append_newline, List.filter_append, markedLines, markedLines]

theorem laterMarked_append (isLine : IsLine first) :
    laterMarked mark (first ++ second) = laterMarked mark second := by
  rw [laterMarked, lines, String.toList_append, ← List.map_tail, tail_splitOn_append isLine,
    List.map_tail, laterMarked, lines]

theorem laterMarked_of_isLine (isLine : IsLine first) : laterMarked mark first = [] := by
  rw [laterMarked, lines, List.splitOn_eq_singleton isLine]
  rfl

theorem laterMarked_suffix : laterMarked mark second <:+ laterMarked mark (first ++ second) := by
  rw [laterMarked, laterMarked, lines, lines, ← List.map_tail, ← List.map_tail,
    String.toList_append]
  exact (tail_splitOn_suffix.map _).filter _

theorem Apart.append (apart : Apart mark first) : Apart mark (first ++ second) := by
  obtain ⟨char, isHead, differ⟩ := apart
  refine ⟨char, ?_, differ⟩
  rw [String.toList_append]
  exact List.mem_head?_append_of_mem_head? isHead

theorem markedLines_of_apart {text : String} (apart : Apart mark text) :
    markedLines mark text = laterMarked mark text := by
  obtain ⟨char, isHead, other, isMark, differ⟩ := apart
  obtain ⟨rest, chars⟩ := List.head?_eq_some_iff.mp isHead
  obtain ⟨more, marks⟩ := List.head?_eq_some_iff.mp isMark
  obtain ⟨line, following, split⟩ := List.exists_cons_of_ne_nil (List.splitOn_ne_nil '\n' rest)
  rw [markedLines, laterMarked, lines, chars, List.splitOn_cons_eq_if_modifyHead]
  have unmarked : ∀ line : List Char, (∀ item ∈ line.head?, item = char) →
      startsWith mark (String.ofList line) = false := by
    intro line begins
    rw [startsWith, marks, String.toList_ofList]
    cases line with
    | nil => rfl
    | cons item items =>
      rw [List.isPrefixOf_cons₂, begins item rfl, Bool.and_eq_false_iff, beq_eq_false_iff_ne]
      exact Or.inl differ
  split
  · rw [List.map_cons, List.filter_cons_of_neg, List.tail_cons]
    rw [unmarked [] (by simp)]
    exact Bool.false_ne_true
  · rw [split, List.modifyHead_cons, List.map_cons, List.filter_cons_of_neg, List.tail_cons]
    rw [unmarked (char :: line) (by simp)]
    exact Bool.false_ne_true

theorem markedLines_append (apart : Apart mark first) (isLine : IsLine first) :
    markedLines mark (first ++ second) = laterMarked mark second := by
  rw [markedLines_of_apart apart.append, laterMarked_append isLine]

theorem markedLines_empty (some : mark ≠ "") : markedLines mark "" = [] := by
  rw [markedLines, lines, String.toList_empty, List.splitOn_nil, List.map_singleton,
    List.filter_singleton]
  have marks : mark.toList ≠ [] := fun none => some (String.toList_inj.mp none)
  obtain ⟨char, rest, chars⟩ := List.exists_cons_of_ne_nil marks
  rw [startsWith, chars]
  rfl

theorem joinLines_cons (part next : String) (rest : List String) :
    joinLines (part :: next :: rest) = part ++ "\n" ++ joinLines (next :: rest) := by
  apply String.toList_inj.mp
  simp [joinLines, List.intercalate_cons_cons, String.toList_append]

theorem joinLines_singleton (part : String) : joinLines [part] = part := by
  simp [joinLines]

theorem markedLines_joinLines (some : mark ≠ "") (parts : List String) :
    markedLines mark (joinLines parts) = parts.flatMap (markedLines mark) := by
  induction parts with
  | nil => exact markedLines_empty some
  | cons part rest ih =>
    cases rest with
    | nil => rw [joinLines_singleton, List.flatMap_singleton]
    | cons next rest =>
      rw [joinLines_cons, markedLines_append_newline, ih]
      rfl

/-- `"\n\n".join(parts)`. -/
def joinParagraphs (parts : List String) : String := joinLines (parts.intersperse "")

theorem markedLines_joinParagraphs (some : mark ≠ "") (parts : List String) :
    markedLines mark (joinParagraphs parts) = parts.flatMap (markedLines mark) := by
  rw [joinParagraphs, markedLines_joinLines some]
  induction parts with
  | nil => rfl
  | cons part rest ih =>
    cases rest with
    | nil => rfl
    | cons next rest =>
      rw [List.intersperse_cons_cons, List.flatMap_cons, List.flatMap_cons, ih,
        markedLines_empty some]
      rfl

theorem infix_joinLines {part : String} {parts : List String} (member : part ∈ parts) :
    part.toList <:+: (joinLines parts).toList := by
  induction parts with
  | nil => exact absurd member List.not_mem_nil
  | cons first rest ih =>
    cases rest with
    | nil =>
      rw [joinLines_singleton, List.mem_singleton.mp member]
    | cons next rest =>
      rw [joinLines_cons, String.toList_append, String.toList_append]
      rcases List.mem_cons.mp member with here | there
      · rw [here, List.append_assoc]
        exact (List.prefix_append _ _).isInfix
      · exact (ih there).trans (List.suffix_append _ _).isInfix

theorem infix_joinParagraphs {part : String} {parts : List String} (member : part ∈ parts) :
    part.toList <:+: (joinParagraphs parts).toList := by
  apply infix_joinLines
  induction parts with
  | nil => exact absurd member List.not_mem_nil
  | cons first rest ih =>
    cases rest with
    | nil => exact member
    | cons next rest =>
      rw [List.intersperse_cons_cons]
      rcases List.mem_cons.mp member with here | there
      · exact here ▸ List.mem_cons_self
      · exact List.mem_cons_of_mem _ (List.mem_cons_of_mem _ (ih there))

section Titled

variable {Part Line : Type} (title : Part → Line) (others : Part → List Line)

theorem length_le_titled (parts : List Part) :
    parts.length ≤ (parts.flatMap fun part => title part :: others part).length := by
  induction parts with
  | nil => exact Nat.zero_le _
  | cons part rest ih =>
    rw [List.flatMap_cons, List.length_append, List.length_cons, List.length_cons]
    omega

theorem titled_eq_iff (parts : List Part) :
    (parts.flatMap fun part => title part :: others part) = parts.map title ↔
      ∀ part ∈ parts, others part = [] := by
  induction parts with
  | nil => simp
  | cons part rest ih =>
    rw [List.forall_mem_cons, ← ih, List.flatMap_cons, List.map_cons, List.cons_append,
      List.cons.injEq, and_iff_right rfl]
    constructor
    · intro same
      have most := length_le_titled title others rest
      have lengths := congrArg List.length same
      rw [List.length_append, List.length_map] at lengths
      have none : others part = [] := List.length_eq_zero_iff.mp (by omega)
      rw [none, List.nil_append] at same
      exact ⟨none, same⟩
    · intro split
      rw [split.1, split.2, List.nil_append]

end Titled

end Onpremai.Library.Text
