import Onpremai.AgentEval.RuleRegistry
import Onpremai.Library.Blocks

/-!
# Keywords and the order of the files

The keywords are searched in the joined texts of all files.  A single word is found where
one file has it.  A phrase is also found where the end of one text and the start of the
following ones spell it, which depends on the order of the files.
-/

namespace Onpremai.AgentEval

open Onpremai.Library

section

variable {services : RuleServices} {keyword : String} {texts : List String}

def blocksOf (services : RuleServices) (texts : List String) : List (List Char) :=
  (texts.map fun text => (services.unicode.lower text).toList).map (' ' :: ·)

def HeldBy (services : RuleServices) (keyword text : String) : Prop :=
  hasKeyword services (services.unicode.lower (joinTexts [text])) keyword = true

/-- The keyword is a phrase that starts in one text and ends in a later one. -/
def CrossesBorder (services : RuleServices) (texts : List String) (keyword : String) : Prop :=
  ' ' ∈ keyword.toList ∧ Crosses keyword.toList (blocksOf services texts)

theorem lower_joinTexts :
    (services.unicode.lower (joinTexts texts)).toList = (blocksOf services texts).flatten := by
  have joined : ∀ all, (services.unicode.lower
        (texts.foldl (fun all text => all ++ " " ++ text) all)).toList =
      (services.unicode.lower all).toList ++ (blocksOf services texts).flatten := by
    induction texts with
    | nil => simp [blocksOf]
    | cons text rest ih =>
      intro all
      rw [List.foldl_cons, ih, services.unicode.lower_space]
      simp [blocksOf]
  rw [joinTexts, joined, services.unicode.lower_empty]
  rfl

theorem hasKeyword_phrase (phrase : ' ' ∈ keyword.toList) :
    hasKeyword services (services.unicode.lower (joinTexts texts)) keyword = true ↔
      keyword.toList <:+: (blocksOf services texts).flatten := by
  rw [hasKeyword, if_pos (List.contains_iff_mem.mpr phrase), Text.contains_iff, lower_joinTexts]

theorem hasKeyword_word (word : ' ' ∉ keyword.toList) :
    hasKeyword services (services.unicode.lower (joinTexts texts)) keyword = true ↔
      ∃ text ∈ texts, Regex.OccursAsWord services.unicode.isWord keyword.toList none
        (' ' :: (services.unicode.lower text).toList) := by
  rw [hasKeyword, if_neg (mt List.contains_iff_mem.mp word), Regex.searchFrom_wholeWord,
    lower_joinTexts, blocksOf, Regex.occursAsWord_flatten_iff services.unicode.isWord_space word]
  simp

theorem hasKeyword_joinTexts_iff :
    hasKeyword services (services.unicode.lower (joinTexts texts)) keyword = true ↔
      (∃ text ∈ texts, HeldBy services keyword text) ∨ CrossesBorder services texts keyword := by
  by_cases phrase : ' ' ∈ keyword.toList
  · have nonempty : keyword.toList ≠ [] := List.ne_nil_of_mem phrase
    simp [HeldBy, CrossesBorder, hasKeyword_phrase phrase, phrase, infix_flatten_iff nonempty,
      blocksOf]
  · simp [HeldBy, CrossesBorder, hasKeyword_word phrase, phrase]

def loweredKeywords (services : RuleServices) (criterion : Criterion) :
    Except RaisedException (List String) :=
  lowerItems services.unicode (requiredKeywords services criterion)

def keywordVerdict (isFound : String → Bool) (keywords : List String) : CriterionResultEnum :=
  if keywords.all isFound then .pass
  else if keywords.any isFound then .needsJudgment
  else .fail

theorem keywordResult_result {criterion : Criterion} {found missing evidenceUsed : List String} :
    (keywordResult criterion found missing evidenceUsed).result =
      if missing = [] then .pass else if found = [] then .fail else .needsJudgment := by
  simp only [keywordResult]
  split
  · rfl
  · split
    · rfl
    · rfl

theorem map_filter_zip_eq_nil {keywords : List Json} {lowered : List String}
    (same : keywords.length = lowered.length) {isFound : String → Bool} {image : Json → String}
    {keep : Bool → Bool} :
    ((keywords.zip (lowered.map isFound)).filter fun entry => keep entry.2).map
        (fun entry => image entry.1) = [] ↔
      ∀ keyword ∈ lowered, keep (isFound keyword) = false := by
  rw [List.map_eq_nil_iff, List.filter_eq_nil_iff, List.zip_map_right]
  constructor
  · intro nothing keyword member
    rw [← List.map_snd_zip same.ge, List.mem_map] at member
    rcases member with ⟨pair, inZip, rfl⟩
    simpa using nothing _ (List.mem_map_of_mem inZip)
  · intro all entry member
    rcases List.mem_map.mp member with ⟨pair, inZip, rfl⟩
    simp [all pair.2 (List.of_mem_zip inZip).2]

theorem ruleVerdict_searchKeywords {criterion : Criterion} {keywords : List String}
    (lowered : loweredKeywords services criterion = .ok keywords) (text : String)
    (evidenceUsed : List String) :
    ruleVerdict (searchKeywords services criterion text evidenceUsed) =
      keywordVerdict (hasKeyword services text) keywords := by
  rcases bind_eq_ok.mp lowered with ⟨items, walked, ran⟩
  have same : items.length = keywords.length := (length_mapM ran).symm
  have missing := @map_filter_zip_eq_nil items keywords same (hasKeyword services text)
    (textOf services) not
  have found := @map_filter_zip_eq_nil items keywords same (hasKeyword services text)
    (textOf services) id
  rw [searchKeywords, walked]
  change ruleVerdict (items.mapM (lowerOf services.unicode) >>= _) = _
  rw [ran]
  change (keywordResult _ _ _ _).result = _
  simp only [id_eq, Bool.not_eq_false'] at missing found
  simp only [keywordResult_result, keywordVerdict, missing, found, List.all_eq_true]
  split
  · rfl
  · split
    · rename_i none
      rw [if_neg (by simpa using none)]
    · rename_i some_
      rw [if_pos (by simpa using some_)]

theorem keywordVerdict_eq_iff {keywords : List String} {first second : String → Bool} :
    keywordVerdict first keywords = keywordVerdict second keywords ↔
      ((∀ keyword ∈ keywords, first keyword = true) ↔ ∀ keyword ∈ keywords, second keyword = true) ∧
        ((∃ keyword ∈ keywords, first keyword = true) ↔
          ∃ keyword ∈ keywords, second keyword = true) := by
  rw [← List.all_eq_true, ← List.all_eq_true, ← List.any_eq_true, ← List.any_eq_true,
    ← Bool.eq_iff_iff, ← Bool.eq_iff_iff]
  cases keywords with
  | nil => simp [keywordVerdict]
  | cons keyword rest =>
    have some_ : ∀ isFound : String → Bool, (keyword :: rest).all isFound = true →
        (keyword :: rest).any isFound = true := by
      intro isFound all
      rw [List.all_cons, Bool.and_eq_true] at all
      rw [List.any_cons, all.1, Bool.true_or]
    have firstSome := some_ first
    have secondSome := some_ second
    simp only [keywordVerdict]
    revert firstSome secondSome
    generalize (keyword :: rest).all first = firstAll
    generalize (keyword :: rest).all second = secondAll
    generalize (keyword :: rest).any first = firstAny
    generalize (keyword :: rest).any second = secondAny
    revert firstAll secondAll firstAny secondAny
    decide

/-- A phrase that no single text has can be found in one order of the texts only.  These
phrases complete the keywords in both orders or in neither; and where no keyword is in a
single text, they are the first to be found in both orders or in neither. -/
structure BordersAgree (services : RuleServices) (keywords texts order : List String) :
    Prop where
  completes : (∀ keyword ∈ keywords, (∀ text ∈ texts, ¬ HeldBy services keyword text) →
      CrossesBorder services order keyword) ↔
    ∀ keyword ∈ keywords, (∀ text ∈ texts, ¬ HeldBy services keyword text) →
      CrossesBorder services texts keyword
  starts : (∀ keyword ∈ keywords, ∀ text ∈ texts, ¬ HeldBy services keyword text) →
      ((∃ keyword ∈ keywords, CrossesBorder services order keyword) ↔
        ∃ keyword ∈ keywords, CrossesBorder services texts keyword)

theorem hasKeyword_order_iff {order : List String} (perm : order.Perm texts) :
    hasKeyword services (services.unicode.lower (joinTexts order)) keyword = true ↔
      ((∀ text ∈ texts, ¬ HeldBy services keyword text) →
        CrossesBorder services order keyword) := by
  rw [hasKeyword_joinTexts_iff, or_iff_not_imp_left]
  simp only [perm.mem_iff, not_exists, not_and]

theorem exists_found_iff {keywords order : List String} (perm : order.Perm texts)
    (loose : ∀ keyword ∈ keywords, ∀ text ∈ texts, ¬ HeldBy services keyword text) :
    (∃ keyword ∈ keywords, hasKeyword services (services.unicode.lower (joinTexts order))
        keyword = true) ↔
      ∃ keyword ∈ keywords, CrossesBorder services order keyword := by
  constructor
  · rintro ⟨keyword, member, found⟩
    exact ⟨keyword, member, (hasKeyword_order_iff perm).mp found (loose keyword member)⟩
  · rintro ⟨keyword, member, crosses⟩
    exact ⟨keyword, member, (hasKeyword_order_iff perm).mpr fun _ => crosses⟩

theorem keywordVerdict_joinTexts_iff {keywords order : List String} (perm : order.Perm texts) :
    keywordVerdict (hasKeyword services (services.unicode.lower (joinTexts order))) keywords =
        keywordVerdict (hasKeyword services (services.unicode.lower (joinTexts texts)))
          keywords ↔
      BordersAgree services keywords texts order := by
  have given : texts.Perm texts := List.Perm.refl texts
  rw [keywordVerdict_eq_iff]
  constructor
  · rintro ⟨all, some_⟩
    constructor
    · simpa only [hasKeyword_order_iff perm, hasKeyword_order_iff given] using all
    · intro loose
      rw [← exists_found_iff perm loose, ← exists_found_iff given loose, some_]
  · rintro ⟨completes, starts⟩
    constructor
    · simpa only [hasKeyword_order_iff perm, hasKeyword_order_iff given] using completes
    · by_cases loose : ∀ keyword ∈ keywords, ∀ text ∈ texts, ¬ HeldBy services keyword text
      · rw [exists_found_iff perm loose, exists_found_iff given loose, starts loose]
      · -- a text has one of the keywords, in whatever order
        push Not at loose
        rcases loose with ⟨keyword, member, text, inTexts, held⟩
        have found : ∀ others : List String, others.Perm texts →
            hasKeyword services (services.unicode.lower (joinTexts others)) keyword = true :=
          fun others same =>
            (hasKeyword_order_iff same).mpr fun nowhere => absurd held (nowhere text inTexts)
        exact iff_of_true ⟨keyword, member, found order perm⟩ ⟨keyword, member, found texts given⟩

theorem mem_joinTexts_iff {char : Char} : char ∈ (joinTexts texts).toList ↔
      ∃ text ∈ texts, char = ' ' ∨ char ∈ text.toList := by
  have joined : ∀ all, char ∈ (texts.foldl (fun all text => all ++ " " ++ text) all).toList ↔
      char ∈ all.toList ∨ ∃ text ∈ texts, char = ' ' ∨ char ∈ text.toList := by
    induction texts with
    | nil => simp
    | cons text rest ih =>
      intro all
      rw [List.foldl_cons, ih, List.exists_mem_cons_iff]
      simp [or_assoc]
  rw [joinTexts, joined]
  simp

theorem strip_joinTexts_iff {evidenceMetadata : List EvidenceMetadata} :
    Text.strip (joinTexts (textsOf evidenceMetadata)) = "" ↔
      ∀ file ∈ evidenceMetadata, Text.strip file.textContent = "" := by
  simp only [Text.strip_eq_empty_iff, mem_joinTexts_iff, textsOf, filesWithText]
  constructor
  · intro blank file member char inText
    refine blank char ⟨file.textContent, List.mem_map_of_mem ?_, Or.inr inText⟩
    rw [List.mem_filter, decide_eq_true_eq]
    refine ⟨member, fun empty => ?_⟩
    rw [empty] at inText
    cases inText
  · rintro blank char ⟨text, member, rfl | inText⟩
    · rfl
    · rcases List.mem_map.mp member with ⟨file, kept, rfl⟩
      exact blank file (List.mem_of_mem_filter kept) char inText

theorem items_of_not_isTruthy {value : Json} {items : List Json}
    (falsy : isTruthy value = false) (walked : itemsOf value = .ok items) : items = [] := by
  cases value with
  | null => cases walked
  | bool value => cases walked
  | num value => cases walked
  | str text =>
    cases walked
    simpa [isTruthy] using falsy
  | arr values =>
    cases walked
    simpa [isTruthy] using falsy
  | obj fields =>
    cases walked
    simpa [isTruthy] using falsy

def KeywordsAgree (services : RuleServices) (criterion : Criterion)
    (evidenceMetadata : List EvidenceMetadata) : Prop :=
  (∀ file ∈ evidenceMetadata, Text.strip file.textContent = "") ∨
    ∀ keywords, loweredKeywords services criterion = .ok keywords →
      ∀ order, order.Perm evidenceMetadata →
        BordersAgree services keywords (textsOf evidenceMetadata) (textsOf order)

section

variable {criterion : Criterion} {evidenceMetadata : List EvidenceMetadata}

theorem ruleVerdict_blank
    (blank : ∀ file ∈ evidenceMetadata, Text.strip file.textContent = "") :
    ruleVerdict (checkKeywordPresence services criterion evidenceMetadata) = .needsJudgment := by
  rw [checkKeywordPresence, if_pos (strip_joinTexts_iff.mpr blank)]
  split
  · rfl
  · rfl

theorem ruleVerdict_unread {exn : RaisedException}
    (raised : loweredKeywords services criterion = .error exn) :
    ruleVerdict (checkKeywordPresence services criterion evidenceMetadata) = .needsJudgment := by
  rw [checkKeywordPresence]
  split
  · rfl
  · split
    · rfl
    · rw [loweredKeywords, lowerItems] at raised
      rw [searchKeywords]
      cases walked : itemsOf (requiredKeywords services criterion) with
      | error other => rfl
      | ok items =>
        rw [walked] at raised
        change items.mapM (lowerOf services.unicode) = .error exn at raised
        change ruleVerdict (items.mapM (lowerOf services.unicode) >>= _) = _
        rw [raised]
        rfl

section

variable {keywords : List String}

theorem ruleVerdict_searched (required : isTruthy (requiredKeywords services criterion) = true)
    (lowered : loweredKeywords services criterion = .ok keywords)
    (text : ¬ ∀ file ∈ evidenceMetadata, Text.strip file.textContent = "") :
    ruleVerdict (checkKeywordPresence services criterion evidenceMetadata) =
      keywordVerdict (hasKeyword services
        (services.unicode.lower (joinTexts (textsOf evidenceMetadata)))) keywords := by
  rw [checkKeywordPresence, if_neg (by simp [required]), if_neg (mt strip_joinTexts_iff.mp text)]
  exact ruleVerdict_searchKeywords lowered _ _

theorem keywords_of_not_isTruthy (falsy : isTruthy (requiredKeywords services criterion) = false)
    (lowered : loweredKeywords services criterion = .ok keywords) : keywords = [] := by
  rcases bind_eq_ok.mp lowered with ⟨items, walked, ran⟩
  rw [items_of_not_isTruthy falsy walked] at ran
  cases ran
  rfl

theorem keywordsAgree_iff (text : ¬ ∀ file ∈ evidenceMetadata, Text.strip file.textContent = "")
    (lowered : loweredKeywords services criterion = .ok keywords) :
    KeywordsAgree services criterion evidenceMetadata ↔ ∀ order, order.Perm evidenceMetadata →
        BordersAgree services keywords (textsOf evidenceMetadata) (textsOf order) := by
  constructor
  · rintro (blank | agree)
    · exact absurd blank text
    · exact agree keywords lowered
  · intro agree
    right
    intro others read
    rw [lowered] at read
    cases read
    exact agree

end

theorem anyOrder_checkKeywordPresence_iff :
    AnyOrder (fun order => ruleVerdict (checkKeywordPresence services criterion order))
        evidenceMetadata ↔
      KeywordsAgree services criterion evidenceMetadata := by
  by_cases blank : ∀ file ∈ evidenceMetadata, Text.strip file.textContent = ""
  · have judged : ∀ order : List EvidenceMetadata, order.Perm evidenceMetadata →
        ruleVerdict (checkKeywordPresence services criterion order) = .needsJudgment :=
      fun order perm => ruleVerdict_blank fun file member => blank file (perm.mem_iff.mp member)
    exact iff_of_true (anyOrder_of_eq _ judged) (Or.inl blank)
  · cases lowered : loweredKeywords services criterion with
    | error exn =>
      refine iff_of_true (anyOrder_of_eq _ fun order _ => ruleVerdict_unread lowered) ?_
      right
      intro keywords read
      rw [lowered] at read
      cases read
    | ok keywords =>
      rw [keywordsAgree_iff blank lowered]
      cases required : isTruthy (requiredKeywords services criterion) with
      | false =>
        -- no keyword, so there is nothing that an order could change
        rw [keywords_of_not_isTruthy required lowered]
        refine iff_of_true (anyOrder_of_eq .needsJudgment fun order _ => ?_) fun order _ => ?_
        · rw [checkKeywordPresence, if_pos (by simp [required])]
          rfl
        · exact ⟨by simp, by simp⟩
      | true =>
        have verdicts := anyOrder_congr fun (order : List EvidenceMetadata) perm =>
          @ruleVerdict_searched services criterion order keywords required lowered
            fun all => blank fun file member => all file (perm.mem_iff.mpr member)
        rw [verdicts]
        constructor
        · intro anyOrder order perm
          exact (keywordVerdict_joinTexts_iff ((perm.filter _).map _)).mp (anyOrder order perm)
        · intro agree order perm
          exact (keywordVerdict_joinTexts_iff ((perm.filter _).map _)).mpr (agree order perm)

end

end

end Onpremai.AgentEval
