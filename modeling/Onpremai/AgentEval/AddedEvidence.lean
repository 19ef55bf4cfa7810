import Onpremai.AgentEval.EvidenceOrder

/-!
# Verdicts and added evidence

Four rules look for something that is there: for a file, for columns, for rows or for words.
What one of them finds is still found among more evidence, with one exception: a phrase that
starts in one text and ends in the next one is lost when another text comes between them.
-/

namespace Onpremai.AgentEval

open Onpremai.Library

/-- The check types of the rules that look for something that is there. -/
def searchTypes : List String :=
  ["file_existence", "schema_presence", "row_count", "keyword_presence"]

def StaysPassed (services : RuleServices) (criterion : Criterion)
    (evidenceMetadata : List EvidenceMetadata) (evidenceFiles : List EvidenceFile) : Prop :=
  ∀ moreMetadata moreFiles, evidenceMetadata.Sublist moreMetadata →
    evidenceFiles.Sublist moreFiles →
      layer1Verdict services criterion moreMetadata moreFiles = .pass

def PatternsCompile (services : RuleServices) : Prop :=
  ∀ pattern text other, Returns (services.reSearch pattern text) →
    Returns (services.reSearch pattern other)

def KeepsSmallLetters (services : RuleServices) : Prop :=
  ∀ text : String, (∀ char ∈ text.toList, char.isLower) → services.unicode.lower text = text

def PhrasesHeld (services : RuleServices) (criterion : Criterion)
    (evidenceMetadata : List EvidenceMetadata) : Prop :=
  ∀ keywords, loweredKeywords services criterion = .ok keywords → ∀ keyword ∈ keywords,
    ' ' ∈ keyword.toList →
      HeldWithin ' ' keyword.toList (blocksOf services (textsOf evidenceMetadata))

section

variable {services : RuleServices} {criterion : Criterion}
  {evidenceMetadata moreMetadata : List EvidenceMetadata}
  {evidenceFiles moreFiles : List EvidenceFile}

/-! ## Files -/

section

variable {types : List String} {namePattern : Json} {files more : List (String × String)}

theorem returns_hasPattern (compile : PatternsCompile services) {storageKey : String}
    (found : hasPattern services namePattern storageKey = .ok true) (other : String) :
    Returns (hasPattern services namePattern other) := by
  cases namePattern with
  | str pattern =>
    rw [hasPattern] at found ⊢
    split
    · next given =>
      rw [if_pos given] at found
      exact compile pattern _ _ ⟨true, found⟩
    · exact ⟨true, rfl⟩
  | null => exact ⟨true, found⟩
  | bool value => exact ⟨true, found⟩
  | num value => exact ⟨true, found⟩
  | arr items => exact ⟨true, found⟩
  | obj fields => exact ⟨true, found⟩

theorem returns_isMatchingFile (compile : PatternsCompile services) {file : String × String}
    (found : isMatchingFile services types namePattern file.1 file.2 = .ok true)
    (other : String × String) :
    Returns (isMatchingFile services types namePattern other.1 other.2) := by
  rw [isMatchingFile] at found
  split at found
  · rw [isMatchingFile]
    split
    · exact returns_hasPattern compile found other.2
    · exact ⟨false, rfl⟩
  · cases found

theorem matchingFiles_eq_ok {matching : List String}
    (ran : matchingFiles services types namePattern files = .ok matching) :
    (∀ file ∈ files, Returns (isMatchingFile services types namePattern file.1 file.2)) ∧
      (matching ≠ [] ↔
        ∃ file ∈ files, isMatchingFile services types namePattern file.1 file.2 = .ok true) := by
  rcases bind_eq_ok.mp ran with ⟨kept, filtered, returned⟩
  cases returned
  obtain ⟨returns, rfl⟩ := filterM_eq_ok.mp filtered
  refine ⟨returns, ?_⟩
  rw [ne_eq, List.map_eq_nil_iff, List.filter_eq_nil_iff]
  simp only [not_forall, Bool.not_eq_true, Bool.not_eq_false, exists_prop]
  constructor
  · rintro ⟨file, member, accepted⟩
    obtain ⟨keep, here⟩ := returns file member
    rw [accepts, here] at accepted
    exact ⟨file, member, accepted ▸ here⟩
  · rintro ⟨file, member, here⟩
    exact ⟨file, member, by rw [accepts, here]⟩

theorem exists_matchingFiles (compile : PatternsCompile services)
    (found : ∃ file ∈ files, isMatchingFile services types namePattern file.1 file.2 = .ok true)
    (more : List (String × String)) :
    ∃ matching, matchingFiles services types namePattern more = .ok matching := by
  obtain ⟨file, -, found⟩ := found
  refine ⟨_, bind_eq_ok.mpr ⟨_, filterM_eq_ok.mpr ⟨?_, rfl⟩, rfl⟩⟩
  intro other _
  exact returns_isMatchingFile compile found other

theorem matchingFiles_grows (compile : PatternsCompile services) {matching : List String}
    (ran : matchingFiles services types namePattern files = .ok matching)
    (found : matching ≠ []) (sub : files ⊆ more) :
    ∃ others, matchingFiles services types namePattern more = .ok others ∧ others ≠ [] := by
  obtain ⟨file, member, here⟩ := (matchingFiles_eq_ok ran).2.mp found
  obtain ⟨others, alsoRan⟩ := exists_matchingFiles compile ⟨file, member, here⟩ more
  exact ⟨others, alsoRan, (matchingFiles_eq_ok alsoRan).2.mpr ⟨file, sub member, here⟩⟩

end

theorem exists_of_pass {outcome : Except RaisedException CriterionResult}
    (passes : ruleVerdict outcome = .pass) :
    ∃ result, outcome = .ok result ∧ result.result = .pass := by
  cases outcome with
  | error exn => cases passes
  | ok result => exact ⟨result, rfl, passes⟩

theorem existenceResult_pass_iff {expectedType : String} {namePattern : Json}
    {matching : List String} :
    (existenceResult services criterion expectedType namePattern matching).result = .pass ↔
      matching ≠ [] := by
  rw [existenceResult]
  split
  · next empty => exact iff_of_false (by simp [ruleResult]) (not_not.mpr empty)
  · next found => exact iff_of_true rfl found

def typesOf (services : RuleServices) (criterion : Criterion) : List String :=
  acceptableTypes (services.unicode.lower criterion.evidenceType)

def namePatternOf (services : RuleServices) (criterion : Criterion) : Json :=
  let named := paramOr criterion.checkParams "name_pattern" (.str "")
  if isTruthy named then named
  else .str (extractNameHint (services.unicode.lower criterion.passCondition))

def describe (file : EvidenceMetadata) : String × String := (file.fileType, file.storageKey)

def listed (file : EvidenceFile) : String × String := (file.fileType, file.storageKey)

theorem passes_of_found {described matching : List String}
    (ranDescribed : matchingFiles services (typesOf services criterion)
      (namePatternOf services criterion) (evidenceMetadata.map describe) = .ok described)
    (ranMatching : (if described = [] then matchingFiles services (typesOf services criterion)
      (namePatternOf services criterion) (evidenceFiles.map listed) else .ok described) =
        .ok matching) (found : matching ≠ []) :
    ruleVerdict (checkFileExistence services criterion evidenceMetadata evidenceFiles) =
      .pass := by
  have ran : checkFileExistence services criterion evidenceMetadata evidenceFiles =
      .ok (existenceResult services criterion (services.unicode.lower criterion.evidenceType)
        (namePatternOf services criterion) matching) :=
    bind_eq_ok.mpr ⟨described, ranDescribed, bind_eq_ok.mpr ⟨matching, ranMatching, rfl⟩⟩
  exact (congrArg ruleVerdict ran).trans (existenceResult_pass_iff.mpr found)

theorem passes_checkFileExistence (compile : PatternsCompile services)
    (metadataSub : evidenceMetadata ⊆ moreMetadata) (filesSub : evidenceFiles ⊆ moreFiles)
    (passes : ruleVerdict (checkFileExistence services criterion evidenceMetadata
      evidenceFiles) = .pass) :
    ruleVerdict (checkFileExistence services criterion moreMetadata moreFiles) = .pass := by
  obtain ⟨result, ran, pass⟩ := exists_of_pass passes
  obtain ⟨described, ranDescribed, rest⟩ := bind_eq_ok.mp ran
  obtain ⟨matching, ranMatching, returned⟩ := bind_eq_ok.mp rest
  cases returned
  have found := existenceResult_pass_iff.mp pass
  by_cases empty : described = []
  · rw [if_pos empty] at ranMatching
    obtain ⟨file, member, here⟩ := (matchingFiles_eq_ok ranMatching).2.mp found
    obtain ⟨moreDescribed, ranMore⟩ := exists_matchingFiles compile ⟨file, member, here⟩
      (moreMetadata.map describe)
    obtain ⟨others, ranOthers, nonempty⟩ := matchingFiles_grows compile ranMatching found
      (List.map_subset listed filesSub)
    by_cases covered : moreDescribed = []
    · exact passes_of_found ranMore (by rw [if_pos covered]; exact ranOthers) nonempty
    · exact passes_of_found ranMore (by rw [if_neg covered]) covered
  · obtain ⟨moreDescribed, ranMore, covered⟩ := matchingFiles_grows compile ranDescribed empty
      (List.map_subset describe metadataSub)
    exact passes_of_found ranMore (by rw [if_neg covered]) covered

theorem allColumns_subset (sub : evidenceMetadata ⊆ moreMetadata) :
    allColumns services evidenceMetadata ⊆ allColumns services moreMetadata := by
  intro column member
  obtain ⟨file, kept, inFile⟩ := List.mem_flatMap.mp member
  rw [filesWithColumns, List.mem_filter] at kept
  exact List.mem_flatMap.mpr ⟨file, List.mem_filter.mpr ⟨sub kept.1, kept.2⟩, inFile⟩

theorem schemaResult_pass_iff {required existing matching : List String} :
    (schemaResult criterion required existing matching).result = .pass ↔
      ∀ column ∈ required, isPresent existing column = true := by
  have missing : required.filter (fun column => !isPresent existing column) = [] ↔
      ∀ column ∈ required, isPresent existing column = true := by
    simp [List.filter_eq_nil_iff]
  rw [← missing, schemaResult]
  split
  · next none => exact iff_of_true rfl none
  · next some_ =>
    split
    · exact iff_of_false (by simp [ruleResult]) some_
    · exact iff_of_false (by simp [ruleResult]) some_

theorem isPresent_of_subset {existing others : List String} {column : String}
    (sub : existing ⊆ others) (present : isPresent existing column = true) :
    isPresent others column = true := by
  rw [isPresent, List.any_eq_true] at present ⊢
  obtain ⟨other, member, holds⟩ := present
  exact ⟨other, sub member, holds⟩

theorem passes_checkSchemaPresence (sub : evidenceMetadata ⊆ moreMetadata)
    (passes : ruleVerdict (checkSchemaPresence services criterion evidenceMetadata) = .pass) :
    ruleVerdict (checkSchemaPresence services criterion moreMetadata) = .pass := by
  have columns := @allColumns_subset services _ _ sub
  rw [checkSchemaPresence] at passes ⊢
  split at passes
  · cases passes
  · next required =>
    rw [if_neg required]
    split at passes
    · cases passes
    · next some_ =>
      have others : allColumns services moreMetadata ≠ [] := by
        intro none
        rw [none] at columns
        exact some_ (List.subset_nil.mp columns)
      rw [if_neg others]
      obtain ⟨result, ran, pass⟩ := exists_of_pass passes
      obtain ⟨lowered, ranLowered, returned⟩ := bind_eq_ok.mp ran
      cases returned
      rw [ranLowered]
      refine schemaResult_pass_iff.mpr fun column member => ?_
      exact isPresent_of_subset columns (schemaResult_pass_iff.mp pass column member)

def totalRows (evidenceMetadata : List EvidenceMetadata) : Int :=
  ((filesWithRows evidenceMetadata).map EvidenceMetadata.rowCount).sum

theorem totalRows_le (sub : evidenceMetadata.Sublist moreMetadata) :
    totalRows evidenceMetadata ≤ totalRows moreMetadata := by
  have kept : (filesWithRows evidenceMetadata).Sublist (filesWithRows moreMetadata) := sub.filter _
  have counted : ∀ file ∈ filesWithRows moreMetadata, 0 ≤ file.rowCount := by
    intro file member
    rw [filesWithRows, List.mem_filter, Bool.and_eq_true, decide_eq_true_eq] at member
    exact member.2.2.le
  rw [totalRows, totalRows]
  generalize filesWithRows evidenceMetadata = few at kept
  generalize filesWithRows moreMetadata = many at kept counted
  induction kept with
  | slnil => exact le_refl _
  | cons file _ ih =>
    rw [List.forall_mem_cons] at counted
    rw [List.map_cons, List.sum_cons]
    exact (ih counted.2).trans (Int.le_add_of_nonneg_left counted.1)
  | cons_cons file _ ih =>
    rw [List.forall_mem_cons] at counted
    rw [List.map_cons, List.map_cons, List.sum_cons, List.sum_cons]
    exact Int.add_le_add_left (ih counted.2) file.rowCount

theorem passes_checkRowCount (sub : evidenceMetadata.Sublist moreMetadata)
    (passes : ruleVerdict (checkRowCount services criterion evidenceMetadata) = .pass) :
    ruleVerdict (checkRowCount services criterion moreMetadata) = .pass := by
  have total := totalRows_le sub
  have kept : (filesWithRows evidenceMetadata).Sublist (filesWithRows moreMetadata) := sub.filter _
  simp only [totalRows] at total
  simp only [checkRowCount] at passes ⊢
  split at passes
  · cases passes
  · next rows =>
    have moreRows : ¬ (((filesWithRows moreMetadata).map EvidenceMetadata.rowCount).sum = 0 ∧
        (filesWithRows moreMetadata).map EvidenceMetadata.storageKey = []) := by
      rintro ⟨-, none⟩
      rw [List.map_eq_nil_iff] at none
      rw [none] at kept
      rw [List.sublist_nil.mp kept] at rows
      exact rows ⟨rfl, rfl⟩
    rw [if_neg moreRows]
    obtain ⟨result, ran, pass⟩ := exists_of_pass passes
    obtain ⟨minimum, ranMinimum, rest⟩ := bind_eq_ok.mp ran
    obtain ⟨minText, ranText, returned⟩ := bind_eq_ok.mp rest
    rw [ranMinimum, ranText]
    change ruleVerdict (if minimum ≤ _ then _ else _) = .pass
    split at returned
    · next enough =>
      rw [if_pos (enough.trans (Int.cast_le.mpr total))]
      rfl
    · cases returned
      cases pass

/-! ## Keywords -/

theorem textsOf_sublist (sub : evidenceMetadata.Sublist moreMetadata) :
    (textsOf evidenceMetadata).Sublist (textsOf moreMetadata) :=
  (sub.filter _).map _

theorem blocksOf_sublist {texts more : List String} (sub : texts.Sublist more) :
    (blocksOf services texts).Sublist (blocksOf services more) :=
  (sub.map _).map _

theorem starts_of_mem_blocksOf {texts : List String} {block : List Char}
    (member : block ∈ blocksOf services texts) : [' '] <+: block := by
  obtain ⟨text, -, rfl⟩ := List.mem_map.mp member
  exact ⟨text, rfl⟩

theorem ruleVerdict_keywords_pass_iff :
    ruleVerdict (checkKeywordPresence services criterion evidenceMetadata) = .pass ↔
      isTruthy (requiredKeywords services criterion) = true ∧
        (¬ ∀ file ∈ evidenceMetadata, Text.strip file.textContent = "") ∧
          ∃ keywords, loweredKeywords services criterion = .ok keywords ∧
            ∀ keyword ∈ keywords, hasKeyword services
              (services.unicode.lower (joinTexts (textsOf evidenceMetadata))) keyword = true := by
  by_cases blank : ∀ file ∈ evidenceMetadata, Text.strip file.textContent = ""
  · rw [ruleVerdict_blank blank]
    exact iff_of_false (by decide) fun given => given.2.1 blank
  · cases required : isTruthy (requiredKeywords services criterion) with
    | false =>
      rw [checkKeywordPresence, if_pos (by simp [required])]
      exact iff_of_false (by simp [ruleVerdict, needsJudgmentResult]) (by simp)
    | true =>
      cases lowered : loweredKeywords services criterion with
      | error exn =>
        rw [ruleVerdict_unread lowered]
        refine iff_of_false (by decide) ?_
        rintro ⟨-, -, keywords, read, -⟩
        cases read
      | ok keywords =>
        rw [ruleVerdict_searched required lowered blank, keywordVerdict]
        constructor
        · intro verdict
          refine ⟨rfl, blank, keywords, rfl, ?_⟩
          rw [← List.all_eq_true]
          by_contra missing
          rw [if_neg missing] at verdict
          split at verdict
          · cases verdict
          · cases verdict
        · rintro ⟨-, -, others, read, found⟩
          cases read
          rw [if_pos (List.all_eq_true.mpr found)]

section

variable {file : EvidenceMetadata} {rest : List EvidenceMetadata}

theorem textsOf_cons_empty
    (empty : file.textContent = "") : textsOf (file :: rest) = textsOf rest := by
  simp [textsOf, filesWithText, empty]

theorem textsOf_cons (text : file.textContent ≠ "") :
    textsOf (file :: rest) = file.textContent :: textsOf rest := by
  simp [textsOf, filesWithText, text]

end

theorem exists_letter (word : List Char) :
    ∃ letter : Char, letter.isLower ∧ word.head? ≠ some letter ∧ word.getLast? ≠ some letter := by
  by_contra none
  have ends : ∀ letter : Char, letter.isLower →
      word.head? = some letter ∨ word.getLast? = some letter := by
    intro letter small
    by_contra free
    rw [not_or] at free
    exact none ⟨letter, small, free⟩
  have a := ends 'a' (by decide)
  have b := ends 'b' (by decide)
  have c := ends 'c' (by decide)
  revert a b c
  generalize word.head? = first
  generalize word.getLast? = last
  rintro (rfl | rfl) (firstIs | lastIs) (firstIs' | lastIs')
  all_goals simp_all

def wallOf (letter : Char) (length : Nat) (file : EvidenceMetadata) : EvidenceMetadata :=
  { file with textContent := String.ofList (List.replicate length letter) }

section

variable {word : List Char} {letter : Char}

theorem exists_apart (lowers : KeepsSmallLetters services) (nonempty : word ≠ [])
    (small : letter.isLower) (starts : word.head? ≠ some letter)
    (ends : word.getLast? ≠ some letter) (evidenceMetadata : List EvidenceMetadata) :
    ∃ more, evidenceMetadata.Sublist more ∧ (word <:+: (blocksOf services (textsOf more)).flatten →
        HeldWithin ' ' word (blocksOf services (textsOf evidenceMetadata))) := by
  induction evidenceMetadata with
  | nil => exact ⟨[], List.Sublist.refl [], fun inside => nonempty (List.infix_nil.mp inside)⟩
  | cons file rest ih =>
    obtain ⟨more, sub, apart⟩ := ih
    by_cases text : file.textContent = ""
    · refine ⟨file :: more, sub.cons_cons file, ?_⟩
      rw [textsOf_cons_empty text, textsOf_cons_empty text]
      exact apart
    · cases others : textsOf rest with
      | nil =>
        -- no text follows, so nothing has to come between
        refine ⟨file :: rest, List.Sublist.refl _, fun inside => ?_⟩
        rw [textsOf_cons text, others] at inside ⊢
        rwa [blocksOf, List.map_singleton, List.map_singleton, List.flatten_singleton] at inside
      | cons next others' =>
        refine ⟨file :: wallOf letter word.length file :: more,
          (sub.cons _).cons_cons file, fun inside => ?_⟩
        have wallText : (wallOf letter word.length file).textContent ≠ "" := by
          rw [wallOf, ne_eq, ← String.toList_inj, String.toList_ofList]
          simpa using nonempty
        have lowered : (services.unicode.lower
            (wallOf letter word.length file).textContent).toList =
              List.replicate word.length letter := by
          rw [wallOf, lowers, String.toList_ofList]
          intro char member
          rw [String.toList_ofList] at member
          rw [List.eq_of_mem_replicate member]
          exact small
        have cut : (blocksOf services (textsOf (file ::
            wallOf letter word.length file :: more))).flatten =
            ((' ' :: (services.unicode.lower file.textContent).toList) ++ [' ']) ++
              (List.replicate word.length letter ++
                (blocksOf services (textsOf more)).flatten) := by
          rw [textsOf_cons text, textsOf_cons wallText, blocksOf]
          simp [lowered, blocksOf]
        rw [cut] at inside
        rw [textsOf_cons text, others]
        rcases infix_of_infix_wall nonempty le_rfl starts ends inside with here | later
        · exact Or.inl here
        · have held := apart later
          rw [others] at held
          exact Or.inr held

theorem found_always_iff (lowers : KeepsSmallLetters services) {keyword : String}
    (phrase : ' ' ∈ keyword.toList) :
    (∀ more, evidenceMetadata.Sublist more → hasKeyword services
        (services.unicode.lower (joinTexts (textsOf more))) keyword = true) ↔
      HeldWithin ' ' keyword.toList (blocksOf services (textsOf evidenceMetadata)) := by
  constructor
  · intro found
    obtain ⟨letter, small, starts, ends⟩ := exists_letter keyword.toList
    obtain ⟨more, sub, apart⟩ := exists_apart lowers (List.ne_nil_of_mem phrase) small starts
      ends evidenceMetadata
    exact apart ((hasKeyword_phrase phrase).mp (found more sub))
  · intro held more sub
    have heldMore := held.sublist (@blocksOf_sublist services _ _ (textsOf_sublist sub))
    exact (hasKeyword_phrase phrase).mpr
      (heldMore.infix_flatten fun block member => starts_of_mem_blocksOf member)

theorem found_of_word {keyword : String} {texts more : List String}
    (word : ' ' ∉ keyword.toList) (sub : texts.Sublist more)
    (found : hasKeyword services (services.unicode.lower (joinTexts texts)) keyword = true) :
    hasKeyword services (services.unicode.lower (joinTexts more)) keyword = true := by
  rw [hasKeyword_word word] at found ⊢
  obtain ⟨text, member, occurs⟩ := found
  exact ⟨text, sub.subset member, occurs⟩

end

theorem passes_checkKeywordPresence_iff (lowers : KeepsSmallLetters services)
    (passes : ruleVerdict (checkKeywordPresence services criterion evidenceMetadata) = .pass) :
    (∀ more, evidenceMetadata.Sublist more →
        ruleVerdict (checkKeywordPresence services criterion more) = .pass) ↔
      PhrasesHeld services criterion evidenceMetadata := by
  obtain ⟨required, text, keywords, read, found⟩ := ruleVerdict_keywords_pass_iff.mp passes
  constructor
  · intro stays others readOthers keyword member phrase
    rw [read] at readOthers
    cases readOthers
    refine (found_always_iff lowers phrase).mp fun more sub => ?_
    obtain ⟨-, -, keywords', read', found'⟩ := ruleVerdict_keywords_pass_iff.mp (stays more sub)
    rw [read] at read'
    cases read'
    exact found' keyword member
  · intro held more sub
    refine ruleVerdict_keywords_pass_iff.mpr ⟨required, ?_, keywords, read, ?_⟩
    · intro blank
      exact text fun file member => blank file (sub.subset member)
    · intro keyword member
      by_cases phrase : ' ' ∈ keyword.toList
      · exact (found_always_iff lowers phrase).mpr (held keywords read keyword member phrase) more
          sub
      · exact found_of_word phrase (textsOf_sublist sub) (found keyword member)

/-- A criterion that passes a rule of this kind passes it on more evidence exactly where its
rule does not look for keywords, or a single text holds each phrase among them. -/
theorem staysPassed_iff (compile : PatternsCompile services) (lowers : KeepsSmallLetters services)
    {checkType : String} (searches : checkType ∈ searchTypes)
    (resolved : checkTypeOf criterion = some checkType)
    (passes : layer1Verdict services criterion evidenceMetadata evidenceFiles = .pass) :
    StaysPassed services criterion evidenceMetadata evidenceFiles ↔
      (checkType = "keyword_presence" → PhrasesHeld services criterion evidenceMetadata) := by
  have verdict : ∀ {handler : RuleHandler}, ruleHandlers services checkType = some handler →
      ∀ metadata files, layer1Verdict services criterion metadata files =
        ruleVerdict (handler criterion metadata files) :=
    fun registered metadata files => layer1Verdict_of_handler resolved registered
  simp only [searchTypes, List.mem_cons, List.not_mem_nil, or_false] at searches
  rcases searches with rfl | rfl | rfl | rfl
  · refine iff_of_true (fun more files metadataSub filesSub => ?_) (by simp)
    rw [verdict rfl] at passes ⊢
    exact passes_checkFileExistence compile metadataSub.subset filesSub.subset passes
  · refine iff_of_true (fun more files metadataSub _ => ?_) (by simp)
    rw [verdict rfl] at passes ⊢
    exact passes_checkSchemaPresence metadataSub.subset passes
  · refine iff_of_true (fun more files metadataSub _ => ?_) (by simp)
    rw [verdict rfl] at passes ⊢
    exact passes_checkRowCount metadataSub passes
  · rw [verdict rfl] at passes
    simp only [StaysPassed, verdict rfl, true_imp_iff]
    rw [← passes_checkKeywordPresence_iff lowers passes]
    constructor
    · intro stays more sub
      exact stays more evidenceFiles sub (List.Sublist.refl _)
    · intro stays more _ sub _
      exact stays more sub

end

theorem patternsCompile_ascii : PatternsCompile asciiServices :=
  fun pattern _ other _ => ⟨Text.contains pattern other, rfl⟩

theorem lowerChar_of_isLower {char : Char} (small : char.isLower) :
    Text.lowerChar char = [char] := by
  have code : 97 ≤ char.toNat ∧ char.toNat ≤ 122 := by
    have letter : (decide ('a'.val ≤ char.val) && decide (char.val ≤ 'z'.val)) = true := small
    simpa [UInt32.le_iff_toNat_le] using letter
  have capital : ¬ (char.val ≥ 'A'.val ∧ char.val ≤ 'Z'.val) := by
    rw [ge_iff_le, UInt32.le_iff_toNat_le, UInt32.le_iff_toNat_le]
    have same : char.val.toNat = char.toNat := rfl
    have last : 'Z'.val.toNat = 90 := rfl
    omega
  have kept : char.toLower = char := dif_neg capital
  rw [Text.lowerChar, if_neg (by omega), if_neg (by omega), kept]

theorem keepsSmallLetters_ascii : KeepsSmallLetters asciiServices := by
  intro text small
  have kept : ∀ chars : List Char, (∀ char ∈ chars, char.isLower) →
      chars.flatMap Text.lowerChar = chars := by
    intro chars small
    induction chars with
    | nil => rfl
    | cons char rest ih =>
      rw [List.forall_mem_cons] at small
      rw [List.flatMap_cons, lowerChar_of_isLower small.1, ih small.2]
      rfl
  change String.ofList (text.toList.flatMap Text.lowerChar) = text
  rw [kept text.toList small, String.ofList_toList]

def phraseCriterion : Criterion where
  id := "CC6.1-4"
  category := "access"
  checkType := some "keyword_presence"
  checkParams := .obj [("keywords", .arr [.str "access control"])]

def fileWithText (storageKey text : String) : EvidenceMetadata where
  storageKey := storageKey
  fileType := "document"
  textContent := text

/-- A phrase within one text is found whatever is added. -/
theorem staysPassed_policy : StaysPassed asciiServices phraseCriterion
    [fileWithText "policy.txt" "The access control policy"] [] := by
  refine (staysPassed_iff patternsCompile_ascii keepsSmallLetters_ascii (by decide) rfl
    (by decide)).mpr fun _ keywords read keyword member _ => ?_
  have lowered : loweredKeywords asciiServices phraseCriterion = .ok ["access control"] := by rfl
  rw [lowered] at read
  cases read
  rw [List.mem_singleton] at member
  subst member
  change _ <:+: _
  decide

/-- A phrase that starts at the end of one text is lost when a file is added behind it. -/
theorem not_staysPassed_annex : layer1Verdict asciiServices phraseCriterion
        [fileWithText "scope.txt" "Scope: access", fileWithText "annex.txt" "control of doors"]
        [] = .pass ∧
      ¬ StaysPassed asciiServices phraseCriterion
        [fileWithText "scope.txt" "Scope: access", fileWithText "annex.txt" "control of doors"]
        [] := by
  constructor
  · decide
  · intro stays
    have added := stays
      [fileWithText "scope.txt" "Scope: access", fileWithText "minutes.txt" "Minutes",
        fileWithText "annex.txt" "control of doors"] []
      ((List.Sublist.refl [_]).cons _ |>.cons_cons _) (List.Sublist.refl [])
    revert added
    decide

end Onpremai.AgentEval
