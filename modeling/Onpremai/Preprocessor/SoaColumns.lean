import Onpremai.Preprocessor.SoaParser

/-!
# Columns of a statement of applicability

A header names at most one field.  The sheets find the column of a field by its name, the text
finds it by its position among the headers that are not empty.  Both mean the same column where
no empty header stands before it and no other column has its name.
-/

namespace Onpremai.Preprocessor

open Onpremai.Library

def lettersOf (name : List Char) : List Char := name.filter fun char => !isSeparator char

theorem lettersOf_of_matchesPhrase {phrase : List (List Char)} {name : List Char}
    (plain : ∀ word ∈ phrase, lettersOf word = word)
    (matched : matchesPhrase phrase name = true) : lettersOf name = phrase.flatten := by
  induction phrase generalizing name with
  | nil =>
    rw [List.isEmpty_iff.mp matched]
    rfl
  | cons word others ih =>
    rw [List.forall_mem_cons] at plain
    cases others with
    | nil =>
      have same : name = word := beq_iff_eq.mp matched
      rw [same, plain.1, List.flatten_singleton]
    | cons next rest =>
      rw [matchesPhrase, Bool.and_eq_true, Bool.or_eq_true, Bool.and_eq_true] at matched
      obtain ⟨starts, follows⟩ := matched
      obtain ⟨after, whole⟩ := List.isPrefixOf_iff_prefix.mp starts
      rw [← whole, List.drop_left] at follows
      have letters : lettersOf after = (next :: rest).flatten := by
        rcases follows with directly | ⟨separated, later⟩
        · exact ih plain.2 directly
        · cases after with
          | nil => cases separated
          | cons char tail =>
            have separator : isSeparator char = true := separated
            rw [lettersOf, List.filter_cons_of_neg (by rw [separator]; decide)]
            exact ih plain.2 later
      rw [← whole, lettersOf, List.filter_append, List.flatten_cons, ← letters]
      exact congrArg (· ++ _) plain.1

theorem plain_phrases (field : SoaField) :
    ∀ phrase ∈ field.phrases, ∀ word ∈ phrase, lettersOf word.toList = word.toList := by
  cases field <;> decide

theorem phrases_apart (field other : SoaField) :
    ∀ phrase ∈ field.phrases, ∀ otherPhrase ∈ other.phrases,
      (phrase.map String.toList).flatten = (otherPhrase.map String.toList).flatten →
        field = other := by
  cases field <;> cases other <;> decide

theorem field_unique {field other : SoaField} {name : String}
    (first : field.matches name = true) (second : other.matches name = true) : field = other := by
  obtain ⟨phrase, inPhrases, matched⟩ := List.any_eq_true.mp first
  obtain ⟨otherPhrase, inOthers, otherMatched⟩ := List.any_eq_true.mp second
  apply phrases_apart field other phrase inPhrases otherPhrase inOthers
  rw [← lettersOf_of_matchesPhrase _ matched, ← lettersOf_of_matchesPhrase _ otherMatched]
  · exact List.forall_mem_map.mpr (plain_phrases other otherPhrase inOthers)
  · exact List.forall_mem_map.mpr (plain_phrases field phrase inPhrases)

theorem matches_empty (field : SoaField) : field.matches "" = false := by
  cases field <;> decide

def TextColumns.at (found : TextColumns) : SoaField → Option Nat
  | .controlId => found.controlId
  | .applicable => found.applicable
  | .justification => found.justification
  | .scope => found.scope

theorem at_note (found : TextColumns) (header : String × Nat) (field : SoaField) :
    (found.note header).at field =
      (found.at field).or (if field.matches header.1 then some header.2 else none) := by
  obtain ⟨controlId, applicable, justification, scope⟩ := found
  by_cases names : ∃ named : SoaField, named.matches header.1 = true
  · obtain ⟨named, isName⟩ := names
    have alone (other : SoaField) : other.matches header.1 = decide (other = named) := by
      by_cases same : other = named
      · rw [same, isName, decide_eq_true rfl]
      · rw [decide_eq_false same, Bool.eq_false_iff]
        exact fun isOther => same (field_unique isOther isName)
    cases named with
    | controlId =>
      cases controlId <;> cases field <;> simp [TextColumns.note, TextColumns.at, alone]
    | applicable =>
      cases applicable <;> cases field <;> simp [TextColumns.note, TextColumns.at, alone]
    | justification =>
      cases justification <;> cases field <;> simp [TextColumns.note, TextColumns.at, alone]
    | scope =>
      cases scope <;> cases field <;> simp [TextColumns.note, TextColumns.at, alone]
  · have none (other : SoaField) : other.matches header.1 = false :=
      Bool.eq_false_iff.mpr fun isName => names ⟨other, isName⟩
    simp [TextColumns.note, none]

theorem at_foldl_note (headers : List String) (field : SoaField) :
    (headers.zipIdx.foldl TextColumns.note {}).at field = headers.findIdx? field.matches := by
  induction headers using List.reverseRecOn with
  | nil => cases field <;> rfl
  | append_singleton headers last ih =>
    rw [List.zipIdx_append, List.foldl_append, Nat.zero_add, List.zipIdx_singleton,
      List.foldl_cons, List.foldl_nil, at_note, ih, List.findIdx?_append,
      List.findIdx?_singleton]
    cases field.matches last <;> simp

section

variable (columns : List String) (field : SoaField)

def columnsBefore : List String :=
  columns.takeWhile fun column => !field.matches (Text.strip column)

def columnsAfter : List String := columns.drop ((columnsBefore columns field).length + 1)

variable {columns field}

theorem split_columns {name : String} (found : findColumn columns field = some name) :
    ∃ before after, columns = before ++ name :: after ∧
      columnsBefore columns field = before ∧ columnsAfter columns field = after := by
  obtain ⟨named, before, after, whole, others⟩ := List.find?_eq_some_iff_append.mp found
  have start : columnsBefore columns field = before := by
    rw [columnsBefore, whole, List.takeWhile_append_of_pos others, List.takeWhile_cons_of_neg,
      List.append_nil]
    rw [named]
    decide
  refine ⟨before, after, whole, start, ?_⟩
  rw [columnsAfter, start, whole, ← List.drop_drop, List.drop_left]
  rfl

theorem findColumn_eq_none_iff : findColumn columns field = none ↔
      ∀ column ∈ columns, field.matches (Text.strip column) = false := by
  rw [findColumn, List.find?_eq_none]
  exact forall₂_congr fun column _ => Bool.not_eq_true _ ▸ Iff.rfl

def headersOf (columns : List String) : List String := columns.flatMap Text.shown

theorem findIdx?_headersOf {name : String} (found : findColumn columns field = some name) :
    (headersOf columns).findIdx? field.matches =
      some (headersOf (columnsBefore columns field)).length := by
  obtain ⟨before, after, whole, start, -⟩ := split_columns found
  have named : field.matches (Text.strip name) = true :=
    @List.find?_some _ (fun column => field.matches (Text.strip column)) _ _ found
  have nonblank : Text.strip name ≠ "" := by
    intro blank
    rw [blank, matches_empty] at named
    cases named
  rw [start]
  have others : ∀ header ∈ headersOf before, field.matches header = false := by
    intro header member
    obtain ⟨column, inside, isShown⟩ := List.mem_flatMap.mp member
    rw [Text.shown] at isShown
    split at isShown
    · cases isShown
    · rw [← start] at inside
      have unnamed := @List.mem_takeWhile_imp _
        (fun column => !field.matches (Text.strip column)) _ _ inside
      rw [List.mem_singleton.mp isShown]
      exact (Bool.not_eq_true' _).mp unnamed
  rw [headersOf, whole, List.flatMap_append, List.flatMap_cons, Text.shown,
    if_neg nonblank, List.singleton_append, List.findIdx?_append, ← headersOf,
    List.findIdx?_eq_none_iff.mpr others, List.findIdx?_cons, named]
  simp

theorem length_headersOf_le (columns : List String) :
    (headersOf columns).length ≤ columns.length := by
  induction columns with
  | nil => exact Nat.le_refl _
  | cons column rest ih =>
    rw [headersOf, List.flatMap_cons, List.length_append, List.length_cons, Text.shown, ← headersOf]
    split
    · rw [List.length_nil]
      omega
    · rw [List.length_singleton]
      omega

theorem length_headersOf_eq_iff : (headersOf columns).length = columns.length ↔
      ∀ column ∈ columns, Text.strip column ≠ "" := by
  induction columns with
  | nil => exact iff_of_true rfl (fun _ member => absurd member List.not_mem_nil)
  | cons column rest ih =>
    have most := length_headersOf_le rest
    rw [List.forall_mem_cons, ← ih, headersOf, List.flatMap_cons, List.length_append,
      List.length_cons, Text.shown, ← headersOf]
    split
    · next blank =>
      rw [List.length_nil]
      exact iff_of_false (by omega) fun both => both.1 blank
    · next shown =>
      rw [List.length_singleton, and_iff_right shown]
      omega

theorem findIdx?_headersOf_of_none (absent : findColumn columns field = none) :
    (headersOf columns).findIdx? field.matches = none := by
  rw [List.findIdx?_eq_none_iff]
  intro header member
  obtain ⟨column, inside, inShown⟩ := List.mem_flatMap.mp member
  rw [Text.shown] at inShown
  split at inShown
  · cases inShown
  · rw [List.mem_singleton.mp inShown]
    exact findColumn_eq_none_iff.mp absent column inside

end

end Onpremai.Preprocessor
