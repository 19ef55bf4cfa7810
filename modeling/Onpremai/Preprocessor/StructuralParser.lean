import Onpremai.Library.VisibleLines
import Onpremai.Preprocessor.Models

/-!
# Structural parser

A policy document is cut into sections at its headings, which are markdown headings, numbered
headings or lines in capitals, whichever the beginning of the document has most of.  `isDigit`
is the test for decimal digits of the runtime.
-/

namespace Onpremai.Preprocessor

open Onpremai.Library

/-- A heading: its level and its text. -/
structure Heading where
  level : Nat
  title : String
  deriving DecidableEq, Repr

inductive HeadingStyle where
  | markdown
  | numbered
  | allcaps
  deriving DecidableEq, Repr

def titleAfter : List Char → Option String
  | [] => none
  | char :: rest =>
    if Text.isSpace char then some (Text.strip (String.ofList (char :: rest))) else none

/-- `#` to `######`, spaces and a title. -/
def markdownHeading (stripped : String) : Option Heading :=
  let hashes := stripped.toList.takeWhile fun char => char == '#'
  if 1 ≤ hashes.length ∧ hashes.length ≤ 6 then
    (titleAfter (stripped.toList.drop hashes.length)).map fun title =>
      { level := hashes.length, title }
  else none

def isCapital (char : Char) : Bool := 'A' ≤ char && char ≤ 'Z'

/-- An optional letter with a point, and what follows it. -/
def splitLetter : List Char → List Char × List Char
  | letter :: '.' :: rest => if isCapital letter then ([letter, '.'], rest) else
      ([], letter :: '.' :: rest)
  | chars => ([], chars)

section

variable (isDigit : Char → Bool)

def isNumber (chars : List Char) : Bool :=
  let groups := chars.splitOn '.'
  chars.all (fun char => isDigit char || char == '.') && 1 < groups.length &&
    groups.dropLast.all fun group => !group.isEmpty

def countNumberedLevel (number : String) : Nat :=
  let cleaned := (splitLetter number.toList).2
  if cleaned.isEmpty then 1
  else ((cleaned.splitOn '.').filter fun group => !group.isEmpty).length

/-- `1.`, `1.1`, `A.1` and the like, spaces and a title. -/
def numberedHeading (stripped : String) : Option Heading :=
  let parts := splitLetter stripped.toList
  let digits := parts.2.takeWhile fun char => isDigit char || char == '.'
  if isNumber isDigit digits then
    let number := String.ofList (parts.1 ++ digits)
    (titleAfter (parts.2.drop digits.length)).map fun title =>
      { level := countNumberedLevel number, title := number ++ " " ++ title }
  else none

def isHeadingChar (char : Char) : Bool :=
  isCapital char || ('0' ≤ char && char ≤ '9') || Text.isSpace char ||
    "-&/,():".toList.contains char

/-- A line of capitals that is neither too short nor too long. -/
def allcapsHeading (stripped : String) : Option Heading :=
  let chars := stripped.toList
  if 3 ≤ chars.length ∧ chars.length ≤ 80 ∧ chars.head?.any isCapital ∧
      chars.all isHeadingChar then
    some { level := 1, title := Text.strip stripped }
  else none

/-- The heading of a line without its outer spaces, where it is one of the style. -/
def headingOf (style : HeadingStyle) (stripped : String) : Option Heading :=
  match style with
  | .markdown => markdownHeading stripped
  | .numbered => numberedHeading isDigit stripped
  | .allcaps => allcapsHeading stripped

def styleOf (stripped : String) : Option HeadingStyle :=
  [HeadingStyle.markdown, .numbered, .allcaps].find? fun style =>
    (headingOf isDigit style stripped).isSome

def countStyle (style : HeadingStyle) (lines : List String) : Nat :=
  ((lines.take 200).filter fun line =>
    decide (styleOf isDigit (Text.strip line) = some style)).length

def detectHeadingStyle (lines : List String) : Option HeadingStyle :=
  let markdown := countStyle isDigit .markdown lines
  let numbered := countStyle isDigit .numbered lines
  let allcaps := countStyle isDigit .allcaps lines
  if markdown = 0 ∧ numbered = 0 ∧ allcaps = 0 then none
  else if numbered ≤ markdown ∧ allcaps ≤ markdown then some .markdown
  else if allcaps ≤ numbered then some .numbered
  else some .allcaps

def parseHeadings (style : Option HeadingStyle) (lines : List String) : List (Nat × Heading) :=
  lines.zipIdx.filterMap fun line =>
    (style.bind fun style => headingOf isDigit style (Text.strip line.1)).map fun heading =>
      (line.2, heading)

end

/-- A section with its place in the hierarchy. -/
structure ParsedSection extends PolicySection where
  level : Nat
  parentId : Option String := none
  deriving DecidableEq, Repr

/-- `"\n".join(lines[start + 1:stop]).strip()`. -/
def contentBetween (lines : List String) (start stop : Nat) : String :=
  Text.strip (Text.joinLines ((lines.take stop).drop (start + 1)))

def nextLine (headings : List (Nat × Heading)) (stop : Nat) : Nat :=
  (headings.head?.map Prod.fst).getD stop

section

variable (generateId : Nat → String) (lines : List String)

def headedSections : Nat → List (String × Nat) → List (Nat × Heading) → List ParsedSection
  | _, _, [] => []
  | index, stack, heading :: rest =>
    let sectionId := generateId index
    let enclosing := stack.dropWhile fun parent => heading.2.level ≤ parent.2
    { sectionId, heading := heading.2.title, level := heading.2.level
      content := contentBetween lines heading.1 (nextLine rest lines.length)
      parentId := enclosing.head?.map Prod.fst } ::
    headedSections (index + 1) ((sectionId, heading.2.level) :: enclosing) rest

def buildSections (headings : List (Nat × Heading)) : List ParsedSection :=
  if headings.isEmpty then
    let fullText := Text.strip (Text.joinLines lines)
    if fullText = "" then []
    else [{ sectionId := generateId 0, heading := "Document", level := 1, content := fullText }]
  else headedSections generateId lines 0 [] headings

end

def parseDocument (isDigit : Char → Bool) (generateId : Nat → String) (text : String) :
    List ParsedSection :=
  if text = "" ∨ Text.strip text = "" then []
  else
    let lines := Text.lines text
    buildSections generateId lines
      (parseHeadings isDigit (detectHeadingStyle isDigit lines) lines)

example : parseDocument Char.isDigit (fun index => toString index)
        "Owner: CISO\n# Access\nKeys rotate.\n## Audit\n Logs stay.\n" =
      [{ sectionId := "0", heading := "Access", level := 1, content := "Keys rotate." },
       { sectionId := "1", heading := "Audit", level := 2, content := "Logs stay."
         parentId := some "0" }] := by
  decide +kernel

def nearestAbove (earlier : List ParsedSection) (level : Nat) : Option ParsedSection :=
  earlier.find? fun part => part.level < level

def IsParent (sections : List ParsedSection) (parent child : ParsedSection) : Prop :=
  parent ∈ sections ∧ child ∈ sections ∧ child.parentId = some parent.sectionId

/-- The sections form a forest in document order: the parent of a section is the nearest preceding
one with a smaller level. -/
structure IsForest (sections : List ParsedSection) : Prop where
  identified : (sections.map (·.sectionId)).Nodup
  nearest : ∀ before part after, sections = before ++ part :: after →
    part.parentId = (nearestAbove before.reverse part.level).map (·.sectionId)
  increasing : ∀ ancestor part, Relation.TransGen (IsParent sections) ancestor part →
    ancestor.level < part.level
  acyclic : ∀ part, ¬ Relation.TransGen (IsParent sections) part part

theorem level_of_nearestAbove {earlier : List ParsedSection} {level : Nat}
    {found : ParsedSection} (nearest : nearestAbove earlier level = some found) :
    found.level < level := by
  simpa using List.find?_some nearest

namespace IsForest

theorem of_nearest {sections : List ParsedSection}
    (identified : (sections.map (·.sectionId)).Nodup)
    (nearest : ∀ before part after, sections = before ++ part :: after →
      part.parentId = (nearestAbove before.reverse part.level).map (·.sectionId)) :
    IsForest sections := by
  have smaller : ∀ parent child, IsParent sections parent child →
      parent.level < child.level := by
    intro parent child linked
    obtain ⟨parentIn, childIn, linked⟩ := linked
    obtain ⟨before, after, split⟩ := List.append_of_mem childIn
    rw [nearest before child after split, Option.map_eq_some_iff] at linked
    obtain ⟨found, isNearest, sameId⟩ := linked
    have foundIn : found ∈ sections := by
      have earlier := List.mem_of_find?_eq_some isNearest
      rw [split]
      exact List.mem_append_left _ (List.mem_reverse.mp earlier)
    have same : found = parent := List.inj_on_of_nodup_map identified foundIn parentIn sameId
    rw [← same]
    exact level_of_nearestAbove isNearest
  have increasing : ∀ ancestor part, Relation.TransGen (IsParent sections) ancestor part →
      ancestor.level < part.level := by
    intro ancestor part path
    induction path with
    | single linked => exact smaller _ _ linked
    | tail _ linked ih => exact ih.trans (smaller _ _ linked)
  exact {
    identified, nearest, increasing
    acyclic := fun part cycle => Nat.lt_irrefl _ (increasing part part cycle) }

end IsForest

def Remembers (stack : List (String × Nat)) (earlier : List ParsedSection) : Prop :=
  ∀ level, (stack.find? fun entry => entry.2 < level).map Prod.fst =
    (nearestAbove earlier level).map (·.sectionId)

namespace Remembers

theorem parent {stack : List (String × Nat)} {earlier : List ParsedSection}
    (remembers : Remembers stack earlier) (level : Nat) :
    (stack.dropWhile fun entry => level ≤ entry.2).head?.map Prod.fst =
      (nearestAbove earlier level).map (·.sectionId) := by
  rw [← remembers level, ← List.find?_not_eq_head?_dropWhile]
  congr 2
  funext entry
  rw [← decide_not]
  simp

theorem find?_dropWhile (stack : List (String × Nat)) {level below : Nat}
    (le : below ≤ level) :
    (stack.dropWhile fun entry => level ≤ entry.2).find? (fun entry => entry.2 < below) =
      stack.find? fun entry => entry.2 < below := by
  induction stack with
  | nil => rfl
  | cons entry rest ih =>
    by_cases covers : level ≤ entry.2
    · have high : ¬ entry.2 < below := by simp [le.trans covers]
      simp [covers, high, ih]
    · simp [covers]

theorem push {stack : List (String × Nat)} {earlier : List ParsedSection}
    (remembers : Remembers stack earlier) (part : ParsedSection) :
    Remembers
      ((part.sectionId, part.level) :: stack.dropWhile fun entry => part.level ≤ entry.2)
      (part :: earlier) := by
  intro level
  by_cases above : part.level < level
  · simp [nearestAbove, above]
  · have same := remembers level
    rw [← find?_dropWhile stack (Nat.le_of_not_lt above)] at same
    simpa [nearestAbove, above] using same

end Remembers

section

variable (generateId : Nat → String) (lines : List String)

theorem headedSections_nearest (headings : List (Nat × Heading)) {index : Nat}
    {stack : List (String × Nat)} {earlier : List ParsedSection}
    (remembers : Remembers stack earlier) {before after : List ParsedSection}
    {part : ParsedSection}
    (split : headedSections generateId lines index stack headings = before ++ part :: after) :
    part.parentId =
      (nearestAbove (before.reverse ++ earlier) part.level).map (·.sectionId) := by
  induction headings generalizing index stack earlier before with
  | nil => simp [headedSections] at split
  | cons heading rest ih =>
    rw [headedSections] at split
    cases before with
    | nil =>
      rw [List.nil_append, List.cons.injEq] at split
      rw [← split.1]
      exact remembers.parent heading.2.level
    | cons first others =>
      rw [List.cons_append, List.cons.injEq] at split
      -- the section in front is the one that the stack has on top from here on
      have pushed := remembers.push first
      rw [← split.1] at pushed
      have later := ih pushed split.2
      rw [split.1] at later
      simpa using later

theorem map_sectionId_headedSections (headings : List (Nat × Heading)) (index : Nat)
    (stack : List (String × Nat)) :
    (headedSections generateId lines index stack headings).map (·.sectionId) =
      (List.range' index headings.length).map generateId := by
  induction headings generalizing index stack with
  | nil => rfl
  | cons heading rest ih => simp [headedSections, ih, List.range'_succ]

variable {generateId}

theorem isForest_headedSections (distinct : Function.Injective generateId)
    (headings : List (Nat × Heading)) :
    IsForest (headedSections generateId lines 0 [] headings) := by
  apply IsForest.of_nearest
  · rw [map_sectionId_headedSections]
    exact List.Nodup.map distinct List.nodup_range'
  · intro before part after split
    have remembers : Remembers [] [] := fun _ => rfl
    simpa using headedSections_nearest generateId lines headings remembers split

/-- The parent of a section is the nearest preceding section with a smaller level. -/
theorem isForest_parseDocument (isDigit : Char → Bool) (text : String)
    (distinct : Function.Injective generateId) :
    IsForest (parseDocument isDigit generateId text) := by
  have none : IsForest [] := .of_nearest .nil (by simp)
  rw [parseDocument]
  split
  · exact none
  · dsimp only [buildSections]
    split
    · split
      · exact none
      · apply IsForest.of_nearest (by simp)
        intro before part after split
        -- a document without headings is one section
        cases before with
        | nil =>
          rw [List.nil_append, List.cons.injEq] at split
          rw [← split.1]
          rfl
        | cons first others => simp at split
    · exact isForest_headedSections _ distinct _

end

theorem isForest_parseDocument_decimal :
    IsForest (parseDocument Char.isDigit (fun index => String.ofList (Decimals.decimal index))
      "# Access\n### Keys\n## Audit") := by
  apply isForest_parseDocument
  intro one two same
  exact Int.ofNat.inj (Decimals.decimal_injective (String.ofList_injective same))

end Onpremai.Preprocessor
