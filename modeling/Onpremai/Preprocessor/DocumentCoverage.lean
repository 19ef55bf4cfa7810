import Onpremai.Preprocessor.PolicyAnalysis
import Onpremai.Preprocessor.StructuralParser

/-!
# Coverage of a document

The sections tell the visible lines of a document, in their order, from the first heading on.
What comes before it is in no section.  A section that is too long for one call is told by its
chunks.
-/

namespace Onpremai.Preprocessor

open Onpremai.Library
open Onpremai.Library.Text (visible visibleLines IsLine)

section

variable (isDigit : Char → Bool) (style : Option HeadingStyle)

def headingAt (line : String) : Option Heading :=
  style.bind fun style => headingOf isDigit style (Text.strip line)

def preamble (lines : List String) : List String :=
  lines.takeWhile fun line => (headingAt isDigit style line).isNone

def HeadedBy : Option String → ParsedSection → Prop
  | some line, part => ∃ known ∈ style,
      headingOf isDigit known line = some { level := part.level, title := part.heading }
  | none, part => part.heading = "Document"

def shownLines (headingLines : List (Option String)) (sections : List ParsedSection) :
    List String :=
  (headingLines.zip sections).flatMap fun part => part.1.toList ++ visibleLines part.2.content

/-- Every visible line of a text is the heading line of a section or stands in the content of one
section, and all of them are told in the order of the document. -/
def LosesNoText (text : String) (sections : List ParsedSection) : Prop :=
  ∃ headingLines, List.Forall₂ (HeadedBy isDigit style) headingLines sections ∧
    visibleLines text = shownLines headingLines sections

variable {isDigit style}

theorem headingOf_empty (known : HeadingStyle) : headingOf isDigit known "" = none := by
  cases known with
  | markdown =>
    have short : markdownHeading "" = none := by decide
    exact short
  | numbered =>
    have digits : isNumber isDigit [] = false := rfl
    rw [headingOf, numberedHeading]
    simp only [String.toList_empty, splitLetter, List.takeWhile_nil, digits]
    rfl
  | allcaps =>
    have short : allcapsHeading "" = none := by decide
    exact short

theorem headingAt_of_blank {line : String} (blank : Text.strip line = "") :
    headingAt isDigit style line = none := by
  rw [headingAt, blank]
  cases style with
  | none => rfl
  | some known => exact headingOf_empty known

def headingsFrom (isDigit : Char → Bool) (style : Option HeadingStyle) (lines : List String)
    (first : Nat) : List (Nat × Heading) :=
  (lines.zipIdx first).filterMap fun line =>
    (headingAt isDigit style line.1).map fun heading => (line.2, heading)

theorem headingsFrom_cons (line : String) (rest : List String) (first : Nat) :
    headingsFrom isDigit style (line :: rest) first =
      ((headingAt isDigit style line).map fun heading => (first, heading)).toList ++
        headingsFrom isDigit style rest (first + 1) := by
  rw [headingsFrom, List.zipIdx_cons, List.filterMap_cons]
  cases headingAt isDigit style line with
  | none => rfl
  | some heading => rfl

theorem preamble_cons_of_none {line : String} (rest : List String)
    (none : headingAt isDigit style line = none) :
    preamble isDigit style (line :: rest) = line :: preamble isDigit style rest := by
  rw [preamble, List.takeWhile_cons_of_pos (by rw [none]; rfl), preamble]

theorem preamble_cons_of_some {line : String} {heading : Heading} (rest : List String)
    (found : headingAt isDigit style line = some heading) :
    preamble isDigit style (line :: rest) = [] := by
  rw [preamble, List.takeWhile_cons_of_neg (by rw [found]; exact Bool.false_ne_true)]

theorem nextLine_headingsFrom (lines : List String) (first : Nat) :
    nextLine (headingsFrom isDigit style lines first) (first + lines.length) =
      first + (preamble isDigit style lines).length := by
  induction lines generalizing first with
  | nil => rfl
  | cons line rest ih =>
    rw [headingsFrom_cons]
    cases found : headingAt isDigit style line with
    | some heading =>
      rw [preamble_cons_of_some rest found]
      rfl
    | none =>
      have next := ih (first + 1)
      rw [preamble_cons_of_none rest found, List.length_cons, List.length_cons]
      rw [Nat.add_assoc, Nat.add_comm 1, Nat.add_assoc, Nat.add_comm 1] at next
      exact next

theorem contentBetween_headingsFrom (before : List String) (line : String)
    (rest : List String) :
    contentBetween (before ++ line :: rest) before.length
        (nextLine (headingsFrom isDigit style rest (before.length + 1))
          (before ++ line :: rest).length) =
      Text.strip (Text.joinLines (preamble isDigit style rest)) := by
  have stop : (before ++ line :: rest).length = before.length + 1 + rest.length := by
    rw [List.length_append, List.length_cons]
    omega
  have whole : before ++ line :: rest = (before ++ [line]) ++ rest := by
    rw [List.append_assoc]
    rfl
  have length : before.length + 1 = (before ++ [line]).length := by
    rw [List.length_append, List.length_singleton]
  have start : rest.take (preamble isDigit style rest).length = preamble isDigit style rest :=
    (List.prefix_iff_eq_take.mp (List.takeWhile_prefix _)).symm
  rw [contentBetween, stop, nextLine_headingsFrom, whole, length, List.take_length_add_append,
    List.drop_left, start]

theorem shownLines_cons (line : Option String) (headingLines : List (Option String))
    (part : ParsedSection) (sections : List ParsedSection) :
    shownLines (line :: headingLines) (part :: sections) =
      line.toList ++ visibleLines part.content ++ shownLines headingLines sections := rfl

theorem headedSections_show (generateId : Nat → String) {lines : List String}
    (every : ∀ line ∈ lines, IsLine line) {before rest : List String}
    (split : lines = before ++ rest) (index : Nat) (stack : List (String × Nat)) :
    ∃ told : List String, List.Forall₂ (HeadedBy isDigit style) (told.map some)
        (headedSections generateId lines index stack
          (headingsFrom isDigit style rest before.length)) ∧
      visible rest = visible (preamble isDigit style rest) ++
        shownLines (told.map some) (headedSections generateId lines index stack
          (headingsFrom isDigit style rest before.length)) := by
  induction rest generalizing before index stack with
  | nil => exact ⟨[], .nil, rfl⟩
  | cons line rest ih =>
    have extended : lines = (before ++ [line]) ++ rest := by
      rw [split, List.append_assoc]
      rfl
    have length : (before ++ [line]).length = before.length + 1 := by
      rw [List.length_append, List.length_singleton]
    rw [headingsFrom_cons, ← length, Text.visible_cons]
    cases found : headingAt isDigit style line with
    | none =>
      obtain ⟨told, headed, shown⟩ := ih extended index stack
      refine ⟨told, headed, ?_⟩
      rw [preamble_cons_of_none rest found, Text.visible_cons line (preamble _ _ _),
        List.append_assoc, shown]
      rfl
    | some heading =>
      obtain ⟨known, isStyle, read⟩ := Option.bind_eq_some_iff.mp found
      have content := @contentBetween_headingsFrom isDigit style before line rest
      rw [← split, ← length] at content
      have restLines : ∀ other ∈ preamble isDigit style rest, IsLine other := by
        intro other member
        apply every
        rw [extended]
        exact List.mem_append_right _ ((List.takeWhile_sublist _).subset member)
      have nonblank : Text.strip line ≠ "" := by
        intro blank
        rw [headingAt_of_blank blank] at found
        cases found
      obtain ⟨told, headed, shown⟩ := ih extended (index + 1)
        ((generateId index, heading.level) ::
          stack.dropWhile fun parent => heading.level ≤ parent.2)
      refine ⟨Text.strip line :: told, .cons ⟨known, isStyle, read⟩ headed, ?_⟩
      rw [preamble_cons_of_some rest found, Text.visible_singleton_of_ne nonblank, shown,
        List.map_cons]
      -- the first section tells its heading line and the lines before the next heading
      simp only [Option.map_some, Option.toList_some, List.singleton_append, headedSections]
      rw [shownLines_cons, content, Text.visibleLines_strip_joinLines restLines]
      rfl

theorem length_shownLines_le {told : List String} {headingLines : List (Option String)}
    {sections : List ParsedSection} (sameLength : told.length = sections.length) :
    (shownLines headingLines sections).length ≤
      (shownLines (told.map some) sections).length := by
  induction sections generalizing told headingLines with
  | nil =>
    cases headingLines with
    | nil => exact Nat.zero_le _
    | cons _ _ => exact Nat.zero_le _
  | cons part rest ih =>
    cases told with
    | nil => cases sameLength
    | cons line told =>
      cases headingLines with
      | nil => exact Nat.zero_le _
      | cons first others =>
        have most : (shownLines others rest).length ≤
            (shownLines (told.map some) rest).length := ih (Nat.succ.inj sameLength)
        have one : first.toList.length ≤ 1 := Option.length_toList_le
        rw [List.map_cons, shownLines_cons, shownLines_cons]
        simp only [List.length_append, Option.toList_some, List.length_singleton]
        omega

theorem headingsFrom_eq_nil_iff {lines : List String} {first : Nat} :
    headingsFrom isDigit style lines first = [] ↔
      ∀ line ∈ lines, headingAt isDigit style line = none := by
  induction lines generalizing first with
  | nil => exact iff_of_true rfl (List.forall_mem_nil _)
  | cons line rest ih =>
    rw [headingsFrom_cons, List.append_eq_nil_iff, ih, List.forall_mem_cons,
      Option.toList_eq_nil_iff, Option.map_eq_none_iff]

variable (isDigit) (text : String)

def documentStyle : Option HeadingStyle := detectHeadingStyle isDigit (Text.lines text)

def BeginsWithHeading : Prop :=
  (∀ line ∈ Text.lines text, headingAt isDigit (documentStyle isDigit text) line = none) ∨
    ∀ line ∈ preamble isDigit (documentStyle isDigit text) (Text.lines text), Text.strip line = ""

variable {isDigit text}

section

variable {style : Option HeadingStyle}

theorem losesNoText_single (part : ParsedSection) (headed : part.heading = "Document")
    (content : part.content = Text.strip (Text.joinLines (Text.lines text))) :
    LosesNoText isDigit style text [part] := by
  refine ⟨[none], .cons headed .nil, ?_⟩
  rw [shownLines_cons, content,
    Text.visibleLines_strip_joinLines fun line member => Text.isLine_of_mem_lines member]
  exact (List.append_nil _).symm

theorem losesNoText_nil (blank : visibleLines text = []) : LosesNoText isDigit style text [] :=
  ⟨[], .nil, blank⟩

theorem losesNoText_headed_iff (generateId : Nat → String) : LosesNoText isDigit style text
        (headedSections generateId (Text.lines text) 0 []
          (headingsFrom isDigit style (Text.lines text) 0)) ↔
      ∀ line ∈ preamble isDigit style (Text.lines text), Text.strip line = "" := by
  obtain ⟨told, headed, shown⟩ := @headedSections_show isDigit style generateId
    (Text.lines text) (fun line member => Text.isLine_of_mem_lines member) [] (Text.lines text)
    rfl 0 []
  rw [List.length_nil] at headed shown
  rw [← Text.visible_eq_nil_iff]
  constructor
  · intro loses
    obtain ⟨headingLines, -, same⟩ := loses
    have lengths := headed.length_eq
    rw [List.length_map] at lengths
    have most := @length_shownLines_le told headingLines _ lengths
    rw [visibleLines, shown] at same
    have count := congrArg List.length same
    rw [List.length_append] at count
    exact List.length_eq_zero_iff.mp (by omega)
  · intro none
    rw [none, List.nil_append] at shown
    exact ⟨told.map some, headed, shown⟩

end

/-- Parsing a document loses no text exactly when the document begins with a heading or has
none. -/
theorem losesNoText_parseDocument_iff (isDigit : Char → Bool) (generateId : Nat → String)
    (text : String) :
    LosesNoText isDigit (documentStyle isDigit text) text
        (parseDocument isDigit generateId text) ↔
      BeginsWithHeading isDigit text := by
  rw [BeginsWithHeading, ← @headingsFrom_eq_nil_iff isDigit _ _ 0, parseDocument]
  split
  · next blank =>
    have stripped : Text.strip text = "" := by
      rcases blank with empty | stripped
      · rw [empty]
        decide
      · exact stripped
    have nothing : visibleLines text = [] := by
      rw [← Text.visibleLines_strip, stripped]
      decide
    apply iff_of_true (losesNoText_nil nothing)
    left
    rw [headingsFrom_eq_nil_iff]
    intro line member
    exact headingAt_of_blank (Text.visible_eq_nil_iff.mp nothing line member)
  · change LosesNoText _ _ _ (buildSections generateId (Text.lines text)
      (headingsFrom isDigit (documentStyle isDigit text) (Text.lines text) 0)) ↔ _
    rw [buildSections]
    cases headings : headingsFrom isDigit (documentStyle isDigit text) (Text.lines text) 0 with
    | nil =>
      apply iff_of_true
      · rw [List.isEmpty_nil, if_pos rfl]
        dsimp only
        split
        · next blank =>
          apply losesNoText_nil
          have same := Text.visibleLines_strip_joinLines
            fun line member => @Text.isLine_of_mem_lines text line member
          rw [blank] at same
          exact same.symm
        · exact losesNoText_single _ rfl rfl
      · exact Or.inl rfl
    | cons heading others =>
      rw [List.isEmpty_cons, if_neg Bool.false_ne_true, ← headings, losesNoText_headed_iff,
        headings]
      constructor
      · exact Or.inr
      · intro either
        rcases either with absent | blank
        · cases absent
        · exact blank

end

/-- A line before the first heading is in no section. -/
theorem preamble_lost :
    ¬ LosesNoText Char.isDigit (documentStyle Char.isDigit "Keys must rotate.\n# Access")
      "Keys must rotate.\n# Access"
      (parseDocument Char.isDigit (fun index => toString index)
        "Keys must rotate.\n# Access") := by
  intro loses
  obtain ⟨headingLines, -, same⟩ := loses
  have most := @length_shownLines_le ["# Access"] headingLines
    [{ sectionId := "0", heading := "Access", level := 1, content := "" }] rfl
  have parsed : parseDocument Char.isDigit (fun index => toString index)
      "Keys must rotate.\n# Access" =
        [{ sectionId := "0", heading := "Access", level := 1, content := "" }] := by
    decide
  rw [parsed] at same
  rw [← same] at most
  exact absurd most (by decide)


/-! ## The chunks of a section -/

/-- The characters of a text that are no spaces. -/
def inked (chars : List Char) : List Char := chars.filter fun char => !Text.isSpace char

/-- The chunks are short enough, and together they tell the characters of the text. -/
def SplitsWell (content : String) (chunks : List String) : Prop :=
  (∀ chunk ∈ chunks, chunk.toList.length ≤ maxSectionChars) ∧
    chunks.flatMap (fun chunk => inked chunk.toList) = inked content.toList

/-- A paragraph or a sentence ends in the second half of the window. -/
def HasBreak (remaining : List Char) : Prop := ∃ boundary ∈ ["\n\n".toList, ". ".toList],
    boundary <:+: (remaining.take maxSectionChars).drop (maxSectionChars / 2)

/-- What a pass of the loop leaves of a text. -/
def leftOf (remaining : List Char) : List Char := Text.stripChars Text.isSpace
    (remaining.drop (splitPoint (remaining.take maxSectionChars) + 1))

def Passes (remaining left : List Char) : Prop :=
  maxSectionChars < remaining.length ∧ left = leftOf remaining

def FitsCut (remaining : List Char) : Prop :=
  HasBreak remaining ∨ ∃ char, Text.isSpace char = true ∧
    ((remaining.take (maxSectionChars + 1)).head? = some char ∨
      (remaining.take (maxSectionChars + 1)).getLast? = some char)

/-- Every text that the loop comes to and that is too long fits the cut. -/
def FitsCuts (content : List Char) : Prop :=
  ∀ remaining, Relation.ReflTransGen Passes content remaining →
    maxSectionChars < remaining.length → FitsCut remaining

section

variable {needle chars : List Char} {index : Nat}

theorem lastIndexOf?_lt (nonempty : needle ≠ []) (found : lastIndexOf? needle chars = some index) :
    index < chars.length := by
  induction chars generalizing index with
  | nil => simp [lastIndexOf?, nonempty] at found
  | cons char rest ih =>
    rw [lastIndexOf?] at found
    split at found
    · next earlier later =>
      rw [← Option.some.inj found]
      exact Nat.succ_lt_succ (ih later)
    · split at found
      · simp [← Option.some.inj found]
      · cases found

theorem lastIndexOf?_eq_none_iff (nonempty : needle ≠ []) :
    lastIndexOf? needle chars = none ↔ ¬ needle <:+: chars := by
  induction chars with
  | nil => simp [lastIndexOf?, nonempty]
  | cons char rest ih =>
    rw [List.infix_cons_iff, not_or, ← ih, lastIndexOf?]
    cases lastIndexOf? needle rest <;> simp

theorem filter_lastIndexOf?_eq_none_iff (nonempty : needle ≠ []) (least : Nat) :
    (lastIndexOf? needle chars).filter (fun index => least ≤ index) = none ↔
      ¬ needle <:+: chars.drop least := by
  induction chars generalizing least with
  | nil => simp [lastIndexOf?, nonempty]
  | cons char rest ih =>
    cases least with
    | zero =>
      rw [List.drop_zero, ← lastIndexOf?_eq_none_iff nonempty]
      cases lastIndexOf? needle (char :: rest) <;> simp
    | succ least =>
      rw [List.drop_succ_cons, ← ih, lastIndexOf?]
      cases lastIndexOf? needle rest with
      | none =>
        dsimp only
        split <;> simp
      | some index => simp [Option.filter]

end

section

variable {remaining : List Char}

theorem splitPoint_lt (hasBreak : HasBreak remaining) :
    splitPoint (remaining.take maxSectionChars) < maxSectionChars := by
  have inside {boundary : List Char} {index : Nat} (nonempty : boundary ≠ [])
      (found : (lastIndexOf? boundary (remaining.take maxSectionChars)).filter
        (fun index => maxSectionChars / 2 ≤ index) = some index) : index < maxSectionChars := by
    have before := lastIndexOf?_lt nonempty (Option.filter_eq_some_iff.mp found).1
    rw [List.length_take] at before
    exact before.trans_le (Nat.min_le_left _ _)
  rw [splitPoint]
  split
  · next paragraph => exact inside (by decide) paragraph
  · next noParagraph =>
    split
    · next sentence => exact inside (by decide) sentence
    · next noSentence =>
      rw [filter_lastIndexOf?_eq_none_iff (by decide)] at noParagraph noSentence
      obtain ⟨boundary, either, occurs⟩ := hasBreak
      rcases List.mem_pair.mp either with rfl | rfl
      · exact absurd occurs noParagraph
      · exact absurd occurs noSentence

theorem splitPoint_eq (noBreak : ¬ HasBreak remaining) :
    splitPoint (remaining.take maxSectionChars) = maxSectionChars := by
  have none (boundary : List Char) (either : boundary ∈ ["\n\n".toList, ". ".toList])
      (nonempty : boundary ≠ []) :
      (lastIndexOf? boundary (remaining.take maxSectionChars)).filter
        (fun index => maxSectionChars / 2 ≤ index) = none := by
    rw [filter_lastIndexOf?_eq_none_iff nonempty]
    exact fun occurs => noBreak ⟨boundary, either, occurs⟩
  rw [splitPoint, none "\n\n".toList (by simp) (by decide)]
  dsimp only
  rw [none ". ".toList (by simp) (by decide)]

def firstChunk (remaining : List Char) : List Char := Text.stripChars Text.isSpace
    (remaining.take (splitPoint (remaining.take maxSectionChars) + 1))

theorem length_firstChunk_le_iff (long : maxSectionChars < remaining.length) :
    (firstChunk remaining).length ≤ maxSectionChars ↔ FitsCut remaining := by
  by_cases hasBreak : HasBreak remaining
  · apply iff_of_true _ (Or.inl hasBreak)
    have most := length_stripChars_le Text.isSpace
      (remaining.take (splitPoint (remaining.take maxSectionChars) + 1))
    rw [List.length_take] at most
    exact (most.trans (Nat.min_le_left _ _)).trans (splitPoint_lt hasBreak)
  · have length : (remaining.take (maxSectionChars + 1)).length = maxSectionChars + 1 := by
      rw [List.length_take]
      exact Nat.min_eq_left long
    rw [firstChunk, splitPoint_eq hasBreak, FitsCut, or_iff_right hasBreak]
    constructor
    · intro short
      by_contra none
      rw [Text.stripChars_of_ends, length] at short
      · exact absurd short (Nat.not_succ_le_self _)
      · intro char ends
        rw [← Bool.not_eq_true]
        exact fun space => none ⟨char, space, ends⟩
    · intro some
      obtain ⟨char, space, ends⟩ := some
      have shorter := Text.length_stripChars_lt space ends
      rw [length] at shorter
      exact Nat.le_of_lt_succ shorter

end

theorem reaches_iff {content remaining : List Char} :
    Relation.ReflTransGen Passes content remaining ↔
      content = remaining ∨ (maxSectionChars < content.length ∧
        Relation.ReflTransGen Passes (leftOf content) remaining) := by
  rw [Relation.ReflTransGen.cases_head_iff]
  simp only [Passes, and_assoc, exists_and_left, exists_eq_left]

theorem fitsCuts_of_short {content : List Char} (short : content.length ≤ maxSectionChars) :
    FitsCuts content := by
  intro remaining reached long
  rw [reaches_iff] at reached
  rcases reached with rfl | further
  · exact absurd long (Nat.not_lt_of_le short)
  · exact absurd further.1 (Nat.not_lt_of_le short)

theorem fitsCuts_iff {content : List Char} (long : maxSectionChars < content.length) :
    FitsCuts content ↔ FitsCut content ∧ FitsCuts (leftOf content) := by
  constructor
  · intro fits
    constructor
    · exact fits content .refl long
    · intro remaining reached
      exact fits remaining (reaches_iff.mpr (Or.inr ⟨long, reached⟩))
  · intro fits remaining reached longer
    rw [reaches_iff] at reached
    rcases reached with rfl | further
    · exact fits.1
    · exact fits.2 remaining further.2 longer

theorem splitRemaining_of_long {remaining : List Char}
    (long : ¬ remaining.length ≤ maxSectionChars) :
    splitRemaining remaining =
      (if (firstChunk remaining).isEmpty then [] else [firstChunk remaining]) ++
        splitRemaining (leftOf remaining) := by
  rw [splitRemaining, if_neg long]
  rfl

theorem splitRemaining_fits_iff (remaining : List Char) :
    (∀ chunk ∈ splitRemaining remaining, chunk.length ≤ maxSectionChars) ↔
      FitsCuts remaining := by
  induction remaining using splitRemaining.induct with
  | case1 remaining short empty =>
    rw [splitRemaining, if_pos short, if_pos empty]
    exact iff_of_true (by simp) (fitsCuts_of_short short)
  | case2 remaining short some =>
    rw [splitRemaining, if_pos short, if_neg some]
    exact iff_of_true (by simpa using short) (fitsCuts_of_short short)
  | case3 remaining long point ih =>
    change _ ↔ FitsCuts (leftOf remaining) at ih
    rw [splitRemaining_of_long long, fitsCuts_iff (Nat.lt_of_not_le long),
      ← length_firstChunk_le_iff (Nat.lt_of_not_le long), ← ih, List.forall_mem_append]
    apply and_congr_left'
    split
    · next empty => simp [List.isEmpty_iff.mp empty]
    · simp

theorem inked_splitRemaining (remaining : List Char) :
    (splitRemaining remaining).flatMap inked = inked remaining := by
  induction remaining using splitRemaining.induct with
  | case1 remaining short empty =>
    rw [splitRemaining, if_pos short, if_pos empty, List.isEmpty_iff.mp empty]
    rfl
  | case2 remaining short some =>
    rw [splitRemaining, if_pos short, if_neg some]
    simp
  | case3 remaining long point ih =>
    change (splitRemaining (leftOf remaining)).flatMap inked = inked (leftOf remaining) at ih
    have rest : inked (leftOf remaining) = inked (remaining.drop point) :=
      Text.filter_stripChars _ _
    have first : (if (firstChunk remaining).isEmpty then [] else
        [firstChunk remaining]).flatMap inked = inked (remaining.take point) := by
      have same : inked (firstChunk remaining) = inked (remaining.take point) :=
        Text.filter_stripChars _ _
      rw [← same]
      split
      · next empty => rw [List.isEmpty_iff.mp empty]; rfl
      · simp
    rw [splitRemaining_of_long long, List.flatMap_append, ih, rest, first, inked, inked,
      ← List.filter_append, List.take_append_drop, inked]

/-- A section is split without loss, and into short chunks exactly when no pass of the loop cuts
a text without a break where no space stands. -/
theorem splitsWell_iff (content : String) :
    SplitsWell content (splitContent content) ↔ FitsCuts content.toList := by
  rw [splitContent, SplitsWell]
  split
  · next short =>
    apply iff_of_true _ (fitsCuts_of_short short)
    simpa using short
  · rw [← splitRemaining_fits_iff]
    have kept := inked_splitRemaining content.toList
    simp [List.flatMap_map, kept]

theorem not_fitsCut_replicate {char : Char} (visible : Text.isSpace char = false)
    (noPoint : char ≠ '.') (count : Nat) : ¬ FitsCut (List.replicate count char) := by
  have noSpace : char ≠ '\n' := by
    rintro rfl
    cases visible
  intro fits
  rcases fits with hasBreak | ends
  · obtain ⟨boundary, either, occurs⟩ := hasBreak
    have only : ∀ other ∈ boundary, other = char := by
      intro other member
      have inside := List.mem_of_mem_take (List.mem_of_mem_drop (occurs.subset member))
      exact List.eq_of_mem_replicate inside
    rcases List.mem_pair.mp either with rfl | rfl
    · exact noSpace (only '\n' (by simp)).symm
    · exact noPoint (only '.' (by simp)).symm
  · obtain ⟨other, space, place⟩ := ends
    have inside : other ∈ List.replicate count char := by
      rcases place with first | last
      · exact List.mem_of_mem_take (List.mem_of_head? first)
      · exact List.mem_of_mem_take (List.mem_of_getLast? last)
    rw [List.eq_of_mem_replicate inside, visible] at space
    cases space

/-- A text without spaces that is one character too long is not split at all. -/
theorem not_splitsWell_word : ¬ SplitsWell (String.ofList (List.replicate 4001 'x'))
      (splitContent (String.ofList (List.replicate 4001 'x'))) := by
  have long : maxSectionChars < (List.replicate 4001 'x').length := by
    rw [List.length_replicate]
    decide
  intro splits
  have short := splits.1
  rw [splitContent, String.toList_ofList, if_neg (Nat.not_le_of_lt long)] at short
  have fits : FitsCuts (List.replicate 4001 'x') := by
    rw [← splitRemaining_fits_iff]
    intro chunk member
    simpa using short _ (List.mem_map_of_mem member)
  exact not_fitsCut_replicate (by decide) (by decide) 4001 ((fitsCuts_iff long).mp fits).1

end Onpremai.Preprocessor
