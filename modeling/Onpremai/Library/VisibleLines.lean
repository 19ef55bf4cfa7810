import Mathlib.Data.List.DropRight
import Onpremai.Library.Lines

/-!
# Visible lines

What a reader sees of a text: its lines without their outer spaces, except for the blank ones.
The outer spaces of a text show nothing, so that stripping it changes none of them.
-/

namespace Onpremai.Library.Text

/-! ## Stripping -/

section

variable {accept : Char → Bool} {chars : List Char} {char : Char}

theorem stripChars_eq_rdropWhile :
    stripChars accept chars = (chars.dropWhile accept).rdropWhile accept := rfl

theorem stripChars_cons (accepted : accept char = true) :
    stripChars accept (char :: chars) = stripChars accept chars := by
  rw [stripChars, List.dropWhile_cons_of_pos accepted, stripChars]

theorem exists_stripChars (accept : Char → Bool) (chars : List Char) :
    ∃ first last, chars = first ++ stripChars accept chars ++ last ∧
      (∀ char ∈ first, accept char = true) ∧ ∀ char ∈ last, accept char = true := by
  refine ⟨chars.takeWhile accept, (chars.dropWhile accept).rtakeWhile accept, ?_,
    fun char member => List.mem_takeWhile_imp member,
    fun char member => List.mem_rtakeWhile_imp member⟩
  rw [stripChars_eq_rdropWhile, List.append_assoc, List.rdropWhile_append_rtakeWhile,
    List.takeWhile_append_dropWhile]

theorem stripChars_append_singleton (accepted : accept char = true) :
    stripChars accept (chars ++ [char]) = stripChars accept chars := by
  rw [stripChars_eq_rdropWhile, stripChars_eq_rdropWhile, List.dropWhile_append]
  cases rest : chars.dropWhile accept with
  | nil =>
    rw [List.isEmpty_nil, if_pos rfl, List.dropWhile_cons_of_pos accepted, List.dropWhile_nil]
  | cons first others =>
    rw [List.isEmpty_cons, if_neg Bool.false_ne_true, List.rdropWhile_concat_pos _ _ _ accepted]

end

section

variable {accept : Char → Bool} {first last chars : List Char}

theorem rdropWhile_append_of_exists (kept : ∃ char ∈ last, accept char = false) :
    (first ++ last).rdropWhile accept = first ++ last.rdropWhile accept := by
  obtain ⟨char, inside, refused⟩ := kept
  have some : (last.reverse.dropWhile accept).isEmpty = false := by
    rw [List.isEmpty_eq_false_iff, ne_eq, List.dropWhile_eq_nil_iff]
    intro every
    rw [every char (List.mem_reverse.mpr inside)] at refused
    cases refused
  rw [List.rdropWhile, List.reverse_append, List.dropWhile_append, some,
    if_neg Bool.false_ne_true, List.reverse_append, List.reverse_reverse, List.rdropWhile]

theorem dropWhile_append_of_exists (kept : ∃ char ∈ first, accept char = false) :
    (first ++ last).dropWhile accept = first.dropWhile accept ++ last := by
  obtain ⟨char, inside, refused⟩ := kept
  have some : (first.dropWhile accept).isEmpty = false := by
    rw [List.isEmpty_eq_false_iff, ne_eq, List.dropWhile_eq_nil_iff]
    intro every
    rw [every char inside] at refused
    cases refused
  rw [List.dropWhile_append, some, if_neg Bool.false_ne_true]

theorem stripChars_append (keptFirst : ∃ char ∈ first, accept char = false)
    (keptLast : ∃ char ∈ last, accept char = false) :
    stripChars accept (first ++ last) = first.dropWhile accept ++ last.rdropWhile accept := by
  rw [stripChars_eq_rdropWhile, dropWhile_append_of_exists keptFirst,
    rdropWhile_append_of_exists keptLast]

theorem stripChars_append_right (accepted : ∀ char ∈ first, accept char = true) :
    stripChars accept (first ++ last) = stripChars accept last := by
  rw [stripChars, List.dropWhile_append_of_pos accepted, stripChars]

theorem stripChars_append_left (accepted : ∀ char ∈ last, accept char = true) :
    stripChars accept (first ++ last) = stripChars accept first := by
  induction last using List.reverseRecOn with
  | nil => rw [List.append_nil]
  | append_singleton before char ih =>
    rw [List.forall_mem_append, List.forall_mem_singleton] at accepted
    rw [← List.append_assoc, stripChars_append_singleton accepted.2, ih accepted.1]

theorem mem_stripChars {char : Char} (inside : char ∈ chars) (refused : accept char = false) :
    char ∈ stripChars accept chars := by
  have front : char ∈ chars.dropWhile accept := by
    rw [← @List.takeWhile_append_dropWhile _ accept chars] at inside
    rcases List.mem_append.mp inside with dropped | kept
    · rw [List.mem_takeWhile_imp dropped] at refused
      cases refused
    · exact kept
  rw [stripChars_eq_rdropWhile]
  rw [← @List.rdropWhile_append_rtakeWhile _ accept (chars.dropWhile accept)] at front
  rcases List.mem_append.mp front with kept | dropped
  · exact kept
  · rw [List.mem_rtakeWhile_imp dropped] at refused
    cases refused

theorem stripChars_subset : stripChars accept chars ⊆ chars :=
  List.Subset.trans (List.rdropWhile_prefix accept _).subset (List.dropWhile_suffix accept).subset

theorem stripChars_eq_self (refused : ∀ char ∈ chars, accept char = false) :
    stripChars accept chars = chars := by
  have front : chars.dropWhile accept = chars := by
    cases chars with
    | nil => rfl
    | cons first rest =>
      exact List.dropWhile_cons_of_neg (Bool.eq_false_iff.mp (refused first List.mem_cons_self))
  rw [stripChars_eq_rdropWhile, front, List.rdropWhile_eq_self_iff]
  exact fun some => Bool.eq_false_iff.mp (refused _ (List.getLast_mem some))

end

theorem filter_stripChars (accept : Char → Bool) (chars : List Char) :
    (stripChars accept chars).filter (fun char => !accept char) =
      chars.filter fun char => !accept char := by
  obtain ⟨first, last, whole, firstAccepted, lastAccepted⟩ := exists_stripChars accept chars
  have none {part : List Char} (accepted : ∀ char ∈ part, accept char = true) :
      part.filter (fun char => !accept char) = [] := by
    rw [List.filter_eq_nil_iff]
    intro char member
    simp [accepted char member]
  conv_rhs => rw [whole]
  simp [none firstAccepted, none lastAccepted]

section

variable {accept : Char → Bool} {chars : List Char}

theorem stripChars_of_ends (ends : ∀ char, chars.head? = some char ∨ chars.getLast? = some char →
      accept char = false) : stripChars accept chars = chars := by
  have front : chars.dropWhile accept = chars := by
    cases chars with
    | nil => rfl
    | cons first rest => simp [ends first (Or.inl rfl)]
  rw [stripChars_eq_rdropWhile, front, List.rdropWhile_eq_self_iff]
  intro some
  simp [ends _ (Or.inr (List.getLast?_eq_some_getLast some))]

theorem length_stripChars_lt {char : Char} (accepted : accept char = true)
    (ends : chars.head? = some char ∨ chars.getLast? = some char) :
    (stripChars accept chars).length < chars.length := by
  have shorter (part : List Char) : (stripChars accept part).length ≤ part.length := by
    rw [stripChars_eq_rdropWhile]
    exact (List.rdropWhile_prefix accept _).length_le.trans
      (List.dropWhile_suffix accept).length_le
  rcases ends with first | last
  · obtain ⟨rest, rfl⟩ := List.head?_eq_some_iff.mp first
    rw [stripChars_cons accepted]
    exact Nat.lt_succ_of_le (shorter rest)
  · obtain ⟨before, rfl⟩ := List.getLast?_eq_some_iff.mp last
    rw [stripChars_append_singleton accepted, List.length_append]
    exact Nat.lt_succ_of_le (shorter before)

end

theorem stripChars_idempotent (accept : Char → Bool) (chars : List Char) :
    stripChars accept (stripChars accept chars) = stripChars accept chars := by
  rw [stripChars_eq_rdropWhile, stripChars_eq_rdropWhile]
  have front : ((chars.dropWhile accept).rdropWhile accept).dropWhile accept =
      (chars.dropWhile accept).rdropWhile accept := by
    cases rest : (chars.dropWhile accept).rdropWhile accept with
    | nil => rfl
    | cons first others =>
      have start : first :: others <+: chars.dropWhile accept := by
        rw [← rest]
        exact List.rdropWhile_prefix accept _
      obtain ⟨more, whole⟩ := start
      have kept := List.head?_dropWhile_not accept chars
      rw [← whole] at kept
      exact List.dropWhile_cons_of_neg (Bool.eq_false_iff.mp kept)
  rw [front, List.rdropWhile_idempotent]

theorem strip_ofList {chars : List Char} : strip (String.ofList chars) =
    String.ofList (stripChars isSpace chars) := by
  rw [strip, String.toList_ofList]

theorem strip_strip (text : String) : strip (strip text) = strip text := by
  rw [strip, strip, String.toList_ofList, stripChars_idempotent]

theorem strip_append_singleton {chars : List Char} {char : Char} (space : isSpace char = true) :
    strip (String.ofList (chars ++ [char])) = strip (String.ofList chars) := by
  rw [strip_ofList, strip_ofList, stripChars_append_singleton space]

theorem strip_cons {chars : List Char} {char : Char} (space : isSpace char = true) :
    strip (String.ofList (char :: chars)) = strip (String.ofList chars) := by
  rw [strip_ofList, strip_ofList, stripChars_cons space]

/-- `text.split(separator)`. -/
def pieces (separator : Char) (text : String) : List String :=
  (text.toList.splitOn separator).map String.ofList

theorem lines_eq_pieces (text : String) : lines text = pieces '\n' text := rfl

theorem notMem_of_mem_splitOn {chars part : List Char} {separator : Char}
    (member : part ∈ chars.splitOn separator) : separator ∉ part := by
  induction chars generalizing part with
  | nil =>
    rw [List.mem_singleton.mp member]
    exact List.not_mem_nil
  | cons first rest ih =>
    rw [List.splitOn_cons_eq_if_modifyHead] at member
    split at member
    · rcases List.mem_cons.mp member with empty | later
      · rw [empty]
        exact List.not_mem_nil
      · exact ih later
    · next other =>
      obtain ⟨line, others, split⟩ :=
        List.exists_cons_of_ne_nil (List.splitOn_ne_nil separator rest)
      rw [split] at ih member
      rcases List.mem_cons.mp member with extended | later
      · rw [extended, List.mem_cons, not_or]
        exact ⟨fun same => other (beq_iff_eq.mpr same.symm), ih List.mem_cons_self⟩
      · exact ih (List.mem_cons_of_mem _ later)

section

variable {β : Type} {read : String → List β} {separator char : Char} {chars : List Char}

private theorem pieces_ofList :
    pieces separator (String.ofList chars) = (chars.splitOn separator).map String.ofList := by
  rw [pieces, String.toList_ofList]

theorem splitOn_append_singleton (other : char ≠ separator) :
    ∃ before last, chars.splitOn separator = before ++ [last] ∧
      (chars ++ [char]).splitOn separator = before ++ [last ++ [char]] := by
  induction chars with
  | nil => exact ⟨[], [], rfl, List.splitOn_eq_singleton (by simpa using Ne.symm other)⟩
  | cons first rest ih =>
    obtain ⟨before, last, split, extended⟩ := ih
    rw [List.cons_append, List.splitOn_cons_eq_if_modifyHead,
      List.splitOn_cons_eq_if_modifyHead, split, extended]
    by_cases same : (first == separator) = true
    · rw [if_pos same, if_pos same]
      exact ⟨[] :: before, last, rfl, rfl⟩
    · rw [if_neg same, if_neg same]
      cases before with
      | nil => exact ⟨[], first :: last, rfl, rfl⟩
      | cons piece others => exact ⟨(first :: piece) :: others, last, rfl, rfl⟩

theorem flatMap_pieces_cons (empty : read "" = [])
    (ignored : ∀ chars, read (String.ofList (char :: chars)) = read (String.ofList chars)) :
    (pieces separator (String.ofList (char :: chars))).flatMap read =
      (pieces separator (String.ofList chars)).flatMap read := by
  rw [pieces_ofList, pieces_ofList, List.splitOn_cons_eq_if_modifyHead]
  split
  · rw [List.map_cons, List.flatMap_cons, String.ofList_nil, empty, List.nil_append]
  · obtain ⟨first, rest, split⟩ := List.exists_cons_of_ne_nil (List.splitOn_ne_nil separator chars)
    rw [split, List.modifyHead_cons, List.map_cons, List.map_cons, List.flatMap_cons,
      List.flatMap_cons, ignored]

theorem flatMap_pieces_append_singleton (empty : read "" = [])
    (ignored : ∀ chars, read (String.ofList (chars ++ [char])) = read (String.ofList chars)) :
    (pieces separator (String.ofList (chars ++ [char]))).flatMap read =
      (pieces separator (String.ofList chars)).flatMap read := by
  rw [pieces_ofList, pieces_ofList]
  by_cases same : char = separator
  · rw [same, List.splitOn_append_cons_self, List.splitOn_nil, List.map_append,
      List.flatMap_append, List.map_singleton, List.flatMap_singleton, String.ofList_nil, empty,
      List.append_nil]
  · obtain ⟨before, last, split, extended⟩ := @splitOn_append_singleton separator char chars same
    rw [split, extended, List.map_append, List.map_append, List.flatMap_append,
      List.flatMap_append, List.map_singleton, List.map_singleton, List.flatMap_singleton,
      List.flatMap_singleton, ignored]

theorem flatMap_pieces_dropWhile (empty : read "" = [])
    (ignored : ∀ space chars, isSpace space = true →
      read (String.ofList (space :: chars)) = read (String.ofList chars)) :
    (pieces separator (String.ofList (chars.dropWhile isSpace))).flatMap read =
      (pieces separator (String.ofList chars)).flatMap read := by
  induction chars with
  | nil => rfl
  | cons first rest ih =>
    by_cases space : isSpace first = true
    · rw [List.dropWhile_cons_of_pos space, ih,
        flatMap_pieces_cons empty fun chars => ignored first chars space]
    · rw [List.dropWhile_cons_of_neg space]

theorem flatMap_pieces_rdropWhile (empty : read "" = [])
    (ignored : ∀ space chars, isSpace space = true →
      read (String.ofList (chars ++ [space])) = read (String.ofList chars)) :
    (pieces separator (String.ofList (chars.rdropWhile isSpace))).flatMap read =
      (pieces separator (String.ofList chars)).flatMap read := by
  induction chars using List.reverseRecOn with
  | nil => rfl
  | append_singleton before last ih =>
    by_cases space : isSpace last = true
    · rw [List.rdropWhile_concat_pos _ _ _ space, ih,
        flatMap_pieces_append_singleton empty fun chars => ignored last chars space]
    · rw [List.rdropWhile_concat_neg _ _ _ space]

end

/-- A line without its outer spaces, unless it is blank. -/
def shown (line : String) : List String := if strip line = "" then [] else [strip line]

/-- The lines without their outer spaces, and without those that are blank. -/
def visible (lines : List String) : List String := lines.flatMap shown

def visibleLines (text : String) : List String := visible (lines text)

theorem visible_append (first second : List String) :
    visible (first ++ second) = visible first ++ visible second :=
  List.flatMap_append

theorem visible_cons (line : String) (rest : List String) :
    visible (line :: rest) = visible [line] ++ visible rest :=
  visible_append [line] rest

theorem visible_singleton_of_ne {line : String} (nonblank : strip line ≠ "") :
    visible [line] = [strip line] := by
  rw [visible, List.flatMap_singleton, shown, if_neg nonblank]

theorem visible_eq_nil_iff {lines : List String} :
    visible lines = [] ↔ ∀ line ∈ lines, strip line = "" := by
  rw [visible, List.flatMap_eq_nil_iff]
  apply forall₂_congr
  intro line _
  rw [shown]
  split
  · next blank => exact iff_of_true rfl blank
  · next nonblank => exact iff_of_false (List.cons_ne_nil _ _) nonblank

theorem shown_empty : shown "" = [] := by decide

theorem visibleLines_strip (text : String) : visibleLines (strip text) = visibleLines text := by
  rw [strip, stripChars_eq_rdropWhile, visibleLines, visible, lines_eq_pieces,
    flatMap_pieces_rdropWhile shown_empty, flatMap_pieces_dropWhile shown_empty,
    String.ofList_toList]
  · rfl
  · intro space chars isSpace
    rw [shown, strip_cons isSpace, shown]
  · intro space chars isSpace
    rw [shown, strip_append_singleton isSpace, shown]

theorem lines_joinLines {parts : List String} (some : parts ≠ [])
    (every : ∀ line ∈ parts, IsLine line) : lines (joinLines parts) = parts := by
  rw [lines, joinLines, String.toList_ofList, List.splitOn_intercalate, List.map_map]
  · exact List.map_id'' (fun line => String.ofList_toList) parts
  · exact List.forall_mem_map.mpr every
  · exact fun none => some (List.map_eq_nil_iff.mp none)

theorem lines_of_isLine {text : String} (isLine : IsLine text) : lines text = [text] := by
  rw [lines, List.splitOn_eq_singleton isLine, List.map_singleton, String.ofList_toList]

theorem isLine_of_mem_lines {text line : String} (member : line ∈ lines text) : IsLine line := by
  obtain ⟨chars, inSplit, same⟩ := List.mem_map.mp member
  rw [← same, IsLine, String.toList_ofList]
  exact notMem_of_mem_splitOn inSplit

section

variable {first : String} {parts : List String}

theorem strip_joinLines_of_blank_rest
    (blank : ∀ char ∈ (joinLines parts).toList, isSpace char = true) :
    strip (joinLines (first :: parts)) = strip first := by
  cases parts with
  | nil => rw [joinLines_singleton]
  | cons next rest =>
    have newline : ∀ char ∈ "\n".toList, isSpace char = true :=
      List.forall_mem_singleton.mpr (by decide)
    have spaces : ∀ char ∈ "\n".toList ++ (joinLines (next :: rest)).toList, isSpace char = true :=
      List.forall_mem_append.mpr ⟨newline, blank⟩
    rw [joinLines_cons, strip, String.toList_append, String.toList_append,
      List.append_assoc, stripChars_append_left spaces, strip]

theorem strip_joinLines_of_blank_first (some : parts ≠ [])
    (blank : ∀ char ∈ first.toList, isSpace char = true) :
    strip (joinLines (first :: parts)) = strip (joinLines parts) := by
  obtain ⟨next, rest, whole⟩ := List.exists_cons_of_ne_nil some
  have newline : ∀ char ∈ "\n".toList, isSpace char = true :=
    List.forall_mem_singleton.mpr (by decide)
  have spaces : ∀ char ∈ first.toList ++ "\n".toList, isSpace char = true :=
    List.forall_mem_append.mpr ⟨blank, newline⟩
  rw [whole, joinLines_cons, strip, String.toList_append, String.toList_append,
    stripChars_append_right spaces, strip]

theorem lines_strip_joinLines (isLine : IsLine first)
    (shownFirst : ∃ char ∈ first.toList, isSpace char = false)
    (shownRest : ∃ char ∈ (joinLines parts).toList, isSpace char = false) :
    lines (strip (joinLines (first :: parts))) = String.ofList (first.toList.dropWhile isSpace) ::
        lines (String.ofList ((joinLines parts).toList.rdropWhile isSpace)) := by
  cases parts with
  | nil =>
    obtain ⟨char, inside, -⟩ := shownRest
    cases inside
  | cons next rest =>
    have firstLine : IsLine (String.ofList (first.toList.dropWhile isSpace)) := by
      rw [IsLine, String.toList_ofList]
      exact fun inside => isLine ((List.dropWhile_suffix isSpace).subset inside)
    have stripped : strip (joinLines (first :: next :: rest)) =
        String.ofList (first.toList.dropWhile isSpace) ++ "\n" ++
          String.ofList ((joinLines (next :: rest)).toList.rdropWhile isSpace) := by
      rw [joinLines_cons, strip, String.toList_append, String.toList_append, List.append_assoc,
        stripChars_append shownFirst, rdropWhile_append_of_exists shownRest, ← String.toList_inj]
      · simp only [String.toList_append, String.toList_ofList, List.append_assoc]
      · obtain ⟨char, inside, visible⟩ := shownRest
        exact ⟨char, List.mem_append_right _ inside, visible⟩
    rw [stripped, lines_append_newline, lines_of_isLine firstLine, List.singleton_append]

end

theorem mem_of_mem_lines {text line : String} {char : Char} (member : line ∈ lines text)
    (inside : char ∈ line.toList) : char ∈ text.toList := by
  have joined : joinLines (lines text) = text := by
    have same : String.toList ∘ String.ofList = id := funext fun _ => String.toList_ofList
    rw [joinLines, lines, List.map_map, same, List.map_id, List.intercalate_splitOn,
      String.ofList_toList]
  exact joined ▸ (infix_joinLines member).subset inside

theorem visibleLines_strip_joinLines {parts : List String}
    (every : ∀ line ∈ parts, IsLine line) :
    visibleLines (strip (joinLines parts)) = visible parts := by
  rw [visibleLines_strip, visibleLines]
  cases parts with
  | nil => decide
  | cons part rest => rw [lines_joinLines (List.cons_ne_nil _ _) every]

end Onpremai.Library.Text
