import Onpremai.AgentEval.EvidenceCache

/-!
# The bytes of the evidence hash

SHA-256 is given the key, the time and the size of every file, one after the other and with
nothing in between.  The files are sorted by key, so their order does not matter; where one file
ends and the next one begins cannot be told from the bytes.
-/

namespace Onpremai.AgentEval

open Onpremai.Library
open Onpremai.Library.Decimals (decimal)

/-- What the hash is based on. -/
structure FileTriple where
  storageKey : String
  lastModified : Timestamp
  sizeBytes : Int
  deriving DecidableEq

def EvidenceFile.triple (file : EvidenceFile) : FileTriple where
  storageKey := file.storageKey
  lastModified := file.lastModified
  sizeBytes := file.sizeBytes

def hashedBytes (files : List EvidenceFile) : ByteArray := (hashedText files).toByteArray

/-- Files with distinct keys, each modified at a time that a `datetime` can hold. -/
structure DistinctFiles (files : List EvidenceFile) : Prop where
  keys : (files.map EvidenceFile.storageKey).Nodup
  times : ∀ file ∈ files, Datetime.IsDatetime file.lastModified

/-- The lists have the same set of keys with times and sizes. -/
def SameTriples (files others : List EvidenceFile) : Prop :=
  ∀ triple, triple ∈ files.map EvidenceFile.triple ↔ triple ∈ others.map EvidenceFile.triple

def ToldApart (files others : List EvidenceFile) : Prop :=
  hashedBytes files = hashedBytes others ↔ SameTriples files others

section

/-- The time of a file without its zone. -/
def wallText (time : Timestamp) : List Char :=
  (Datetime.partsOf time).head ++ (Datetime.partsOf time).fraction

def stamp (file : EvidenceFile) : List Char :=
  wallText file.lastModified ++ '+' :: ("00:00".toList ++ decimal file.sizeBytes)

theorem isoformat_toList (time : Timestamp) :
    (Datetime.isoformat time).toList = wallText time ++ "+00:00".toList := by
  rw [Datetime.isoformat, String.toList_ofList, wallText, List.append_assoc]

theorem toList_fileText (file : EvidenceFile) :
    (fileText file).toList = file.storageKey.toList ++ stamp file := by
  rw [fileText, String.toList_append, String.toList_append, isoformat_toList, stamp]
  simp only [List.append_assoc]
  rfl

theorem plus_notMem_pad (width number : Nat) : '+' ∉ Datetime.pad width number := by
  induction width generalizing number with
  | zero => exact List.not_mem_nil
  | succ width ih =>
    rw [Datetime.pad, List.mem_append, not_or, List.mem_singleton]
    refine ⟨ih _, ?_⟩
    have digits : ∀ digit < 10, '+' ≠ Nat.digitChar digit := by decide
    exact digits _ (Nat.mod_lt _ (by decide))

theorem plus_notMem_wallText (time : Timestamp) : '+' ∉ wallText time := by
  have head : '+' ∉ (Datetime.partsOf time).head := by
    simp [Datetime.Parts.head, plus_notMem_pad]
  have fraction : '+' ∉ (Datetime.partsOf time).fraction := by
    rw [Datetime.Parts.fraction]
    split
    · exact List.not_mem_nil
    · simp [plus_notMem_pad]
  rw [wallText, List.mem_append, not_or]
  exact ⟨head, fraction⟩

theorem plus_notMem_zone (size : Int) : '+' ∉ "00:00".toList ++ decimal size := by
  rw [List.mem_append, not_or]
  exact ⟨by decide, Decimals.notMem_decimal (by decide) (by decide)⟩

theorem stamp_ne_nil (file : EvidenceFile) : stamp file ≠ [] :=
  List.append_ne_nil_of_right_ne_nil _ (List.cons_ne_nil _ _)

theorem wallText_ending {first second : Timestamp} (firstValid : Datetime.IsDatetime first)
    (secondValid : Datetime.IsDatetime second) {start other : List Char}
    (same : start ++ wallText first = other ++ wallText second) :
    first = second ∧ start = other := by
  have texts : start ++ (Datetime.isoformat first).toList =
      other ++ (Datetime.isoformat second).toList := by
    rw [isoformat_toList, isoformat_toList, ← List.append_assoc, same, List.append_assoc]
  have times := Datetime.isoformat_ending firstValid secondValid texts
  rw [times] at same
  exact ⟨times, List.append_cancel_right same⟩

theorem stamp_ending {first second : EvidenceFile}
    (firstValid : Datetime.IsDatetime first.lastModified)
    (secondValid : Datetime.IsDatetime second.lastModified) {start other : List Char}
    (same : start ++ stamp first = other ++ stamp second) :
    start = other ∧ first.lastModified = second.lastModified ∧
      first.sizeBytes = second.sizeBytes := by
  rw [stamp, stamp, ← List.append_assoc, ← List.append_assoc] at same
  rcases Decimals.append_cons_inj_of_last (plus_notMem_zone _) (plus_notMem_zone _) same with
    ⟨walls, zones⟩
  rcases wallText_ending firstValid secondValid walls with ⟨times, starts⟩
  exact ⟨starts, times, Decimals.decimal_injective (List.append_cancel_left zones)⟩

theorem triple_eq_iff {first second : EvidenceFile} :
    first.triple = second.triple ↔ first.storageKey = second.storageKey ∧
      first.lastModified = second.lastModified ∧ first.sizeBytes = second.sizeBytes := by
  simp only [EvidenceFile.triple, FileTriple.mk.injEq]

end

section

/-- The files in the order in which they are hashed. -/
def sortedFiles (files : List EvidenceFile) : List EvidenceFile :=
  files.insertionSort fun first second => first.storageKey ≤ second.storageKey

def joinedText (files : List EvidenceFile) : List Char :=
  files.flatMap fun file => file.storageKey.toList ++ stamp file

theorem toList_hashedText (files : List EvidenceFile) :
    (hashedText files).toList = joinedText (sortedFiles files) := by
  rw [hashedText, String.join_eq, String.toList_ofList, joinedText, sortedFiles, List.flatMap,
    List.map_map]
  simp only [Function.comp_def, toList_fileText]

theorem hashedBytes_eq_iff {files others : List EvidenceFile} :
    hashedBytes files = hashedBytes others ↔
      joinedText (sortedFiles files) = joinedText (sortedFiles others) := by
  rw [hashedBytes, hashedBytes, String.toByteArray_inj, ← String.toList_inj, toList_hashedText,
    toList_hashedText]

section

variable {files : List EvidenceFile}

theorem mem_sortedFiles {file : EvidenceFile} :
    file ∈ sortedFiles files ↔ file ∈ files := List.mem_insertionSort _

theorem mem_triples_sortedFiles {triple : FileTriple} :
    triple ∈ (sortedFiles files).map EvidenceFile.triple ↔
      triple ∈ files.map EvidenceFile.triple := by
  simp only [List.mem_map, mem_sortedFiles]

theorem pairwise_sortedFiles (distinct : DistinctFiles files) :
    (sortedFiles files).Pairwise fun first second => first.storageKey < second.storageKey := by
  have : Std.Total fun first second : EvidenceFile => first.storageKey ≤ second.storageKey :=
    ⟨fun _ _ => le_total _ _⟩
  have : IsTrans EvidenceFile fun first second => first.storageKey ≤ second.storageKey :=
    ⟨fun _ _ _ => le_trans⟩
  have sorted : (sortedFiles files).Pairwise fun first second =>
      first.storageKey ≤ second.storageKey := List.pairwise_insertionSort _ _
  have keys : ((sortedFiles files).map EvidenceFile.storageKey).Nodup :=
    ((List.perm_insertionSort _ files).map _).nodup_iff.mpr distinct.keys
  rw [List.Nodup, List.pairwise_map] at keys
  exact (sorted.and keys).imp fun both => lt_of_le_of_ne both.1 both.2

theorem sortedFiles_of_pairwise
    (sorted : files.Pairwise fun first second => first.storageKey < second.storageKey) :
    sortedFiles files = files := by
  apply List.Pairwise.insertionSort_eq
  exact sorted.imp fun less => le_of_lt less

end

section

variable {files others : List EvidenceFile}

theorem joinedText_congr (same : files.map EvidenceFile.triple = others.map EvidenceFile.triple) :
    joinedText files = joinedText others := by
  have text : ∀ list : List EvidenceFile, joinedText list =
      (list.map EvidenceFile.triple).flatMap fun triple => triple.storageKey.toList ++
        (wallText triple.lastModified ++
          '+' :: ("00:00".toList ++ decimal triple.sizeBytes)) := by
    intro list
    rw [joinedText, List.flatMap_map]
    rfl
  rw [text, text, same]

theorem sortedFiles_of_sameTriples
    (distinct : DistinctFiles files) (othersDistinct : DistinctFiles others)
    (same : SameTriples files others) : (sortedFiles files).map EvidenceFile.triple =
      (sortedFiles others).map EvidenceFile.triple := by
  have ordered : ∀ list, DistinctFiles list → ((sortedFiles list).map
      EvidenceFile.triple).Pairwise fun first second => first.storageKey < second.storageKey :=
    fun list distinct => List.pairwise_map.mpr (pairwise_sortedFiles distinct)
  apply List.Perm.eq_of_pairwise _ (ordered files distinct) (ordered others othersDistinct)
  · rw [List.perm_ext_iff_of_nodup]
    · intro triple
      rw [mem_triples_sortedFiles, mem_triples_sortedFiles]
      exact same triple
    · exact (ordered files distinct).imp fun less => ne_of_apply_ne _ less.ne
    · exact (ordered others othersDistinct).imp fun less => ne_of_apply_ne _ less.ne
  · intro first second _ _ less greater
    exact absurd less (lt_asymm greater)

theorem hashedBytes_of_sameTriples
    (distinct : DistinctFiles files) (othersDistinct : DistinctFiles others)
    (same : SameTriples files others) : hashedBytes files = hashedBytes others :=
  hashedBytes_eq_iff.mpr
    (joinedText_congr (sortedFiles_of_sameTriples distinct othersDistinct same))

theorem sameTriples_of_sorted (same : (sortedFiles files).map EvidenceFile.triple =
      (sortedFiles others).map EvidenceFile.triple) : SameTriples files others := by
  intro triple
  rw [← mem_triples_sortedFiles, same, mem_triples_sortedFiles]

end

theorem joinedText_append (files others : List EvidenceFile) :
    joinedText (files ++ others) = joinedText files ++ joinedText others :=
  List.flatMap_append

theorem joinedText_singleton (file : EvidenceFile) :
    joinedText [file] = file.storageKey.toList ++ stamp file := by
  rw [joinedText, List.flatMap_singleton]

theorem joinedText_cons (file : EvidenceFile) (rest : List EvidenceFile) :
    joinedText (file :: rest) = file.storageKey.toList ++ (stamp file ++ joinedText rest) := by
  rw [joinedText, List.flatMap_cons, List.append_assoc]
  rfl

theorem joinedText_eq_nil_iff {files : List EvidenceFile} :
    joinedText files = [] ↔ files = [] := by
  constructor
  · intro empty
    cases files with
    | nil => rfl
    | cons file rest =>
      rw [joinedText_cons] at empty
      exact absurd (List.append_eq_nil_iff.mp (List.append_eq_nil_iff.mp empty).2).1
        (stamp_ne_nil file)
  · rintro rfl
    rfl

end

/-! ## Lists that are told apart from all others -/

def HoldsFile (key : String) : Prop :=
  ∃ (file : EvidenceFile) (later : String), Datetime.IsDatetime file.lastModified ∧
    key = fileText file ++ later ∧ file.storageKey < later

def Unambiguous (files : List EvidenceFile) : Prop :=
  files = [] ∨ ∃ file, files = [file] ∧ ¬ HoldsFile file.storageKey

section

variable {files others : List EvidenceFile}

theorem distinctFiles_singleton {file : EvidenceFile}
    (valid : Datetime.IsDatetime file.lastModified) : DistinctFiles [file] where
  keys := List.nodup_singleton _
  times := fun _ inside => List.mem_singleton.mp inside ▸ valid

theorem lt_append_of_lt {first second later : String} (less : first < second) :
    first < second ++ later := by
  rw [String.lt_iff_toList_lt, String.toList_append]
  exact List.Lex.append_right _ _ (String.lt_iff_toList_lt.mp less)

theorem exists_merged (distinct : DistinctFiles files) {first second : EvidenceFile}
    (members : first ∈ files ∧ second ∈ files) (apart : first.storageKey ≠ second.storageKey) :
    ∃ others, DistinctFiles others ∧ ¬ ToldApart files others := by
  rcases List.eq_nil_or_concat (sortedFiles files) with none | ⟨earlier, last, split⟩
  · have inside := mem_sortedFiles.mpr members.1
    rw [none] at inside
    cases inside
  rw [List.concat_eq_append] at split
  have lastIn : last ∈ files := by
    rw [← mem_sortedFiles, split]
    exact List.mem_append_right _ (List.mem_singleton_self last)
  let merged : EvidenceFile :=
    { last with storageKey := String.ofList (joinedText earlier ++ last.storageKey.toList) }
  refine ⟨[merged], distinctFiles_singleton (distinct.times last lastIn), fun told => ?_⟩
  have sorted : sortedFiles [merged] = [merged] :=
    sortedFiles_of_pairwise (List.pairwise_singleton _ _)
  have same : hashedBytes files = hashedBytes [merged] := by
    rw [hashedBytes_eq_iff, sorted, split, joinedText_append, joinedText_singleton,
      joinedText_singleton, ← List.append_assoc]
    congr 1
    rw [String.toList_ofList]
  -- all files would have the one key
  have one : ∀ file ∈ files, file.storageKey = merged.storageKey := by
    intro file inside
    have found := (told.mp same file.triple).mp (List.mem_map_of_mem inside)
    exact congrArg FileTriple.storageKey (List.mem_singleton.mp found)
  exact apart ((one first members.1).trans (one second members.2).symm)

theorem exists_split {file : EvidenceFile} (valid : Datetime.IsDatetime file.lastModified)
    (holds : HoldsFile file.storageKey) :
    ∃ others, DistinctFiles others ∧ ¬ ToldApart [file] others := by
  rcases holds with ⟨earlier, later, earlierValid, key, less⟩
  let last : EvidenceFile := { file with storageKey := later }
  have pair : [earlier, last].Pairwise fun first second =>
      first.storageKey < second.storageKey := List.pairwise_pair.mpr less
  refine ⟨[earlier, last], ⟨?_, ?_⟩, fun told => ?_⟩
  · exact (List.pairwise_map.mpr pair).imp fun less => ne_of_lt less
  · intro other inside
    rcases List.mem_pair.mp inside with rfl | rfl
    · exact earlierValid
    · exact valid
  · have same : hashedBytes [file] = hashedBytes [earlier, last] := by
      rw [hashedBytes_eq_iff, sortedFiles_of_pairwise (List.pairwise_singleton _ _),
        sortedFiles_of_pairwise pair, joinedText_singleton, joinedText_cons,
        joinedText_singleton, key, String.toList_append, toList_fileText]
      simp only [List.append_assoc]
      rfl
    have one : ∀ other ∈ [earlier, last], other.storageKey = file.storageKey := by
      intro other inside
      have found := (told.mp same other.triple).mpr (List.mem_map_of_mem inside)
      exact congrArg FileTriple.storageKey (List.mem_singleton.mp found)
    have equal := (one earlier List.mem_cons_self).trans
      (one last (List.mem_cons_of_mem _ (List.mem_singleton_self last))).symm
    exact absurd less (by rw [equal]; exact lt_irrefl _)

theorem single_or_holds {file : EvidenceFile} (valid : Datetime.IsDatetime file.lastModified)
    (distinct : DistinctFiles others)
    (same : joinedText [file] = joinedText (sortedFiles others)) :
    [file].map EvidenceFile.triple = (sortedFiles others).map EvidenceFile.triple ∨
      HoldsFile file.storageKey := by
  have sorted := pairwise_sortedFiles distinct
  have times : ∀ other ∈ sortedFiles others, Datetime.IsDatetime other.lastModified :=
    fun other inside => distinct.times other (mem_sortedFiles.mp inside)
  rcases List.eq_nil_or_concat (sortedFiles others) with none | ⟨earlier, last, split⟩
  · rw [none] at same
    exact absurd (joinedText_eq_nil_iff.mp same) (List.cons_ne_nil _ _)
  rw [List.concat_eq_append] at split
  rw [split] at same sorted times ⊢
  rw [joinedText_append, joinedText_singleton, joinedText_singleton, ← List.append_assoc] at same
  rcases stamp_ending valid (times last (by simp)) same with ⟨keys, time, size⟩
  cases earlier with
  | nil =>
    left
    simp only [List.nil_append, List.map_cons, List.map_nil, List.cons.injEq, and_true,
      triple_eq_iff]
    exact ⟨String.toList_inj.mp keys, time, size⟩
  | cons first between =>
    right
    refine ⟨first, String.ofList (joinedText between ++ last.storageKey.toList),
      times first (by simp), ?_, ?_⟩
    · rw [← String.toList_inj, keys, String.toList_append, toList_fileText,
        String.toList_ofList, joinedText_cons]
      simp only [List.append_assoc]
    · rw [List.cons_append, List.pairwise_cons] at sorted
      cases between with
      | nil =>
        have less := sorted.1 last (by simp)
        simpa [joinedText] using less
      | cons next rest =>
        have less : first.storageKey < next.storageKey ++ String.ofList
            (stamp next ++ joinedText rest ++ last.storageKey.toList) :=
          lt_append_of_lt (sorted.1 next (by simp))
        have text : next.storageKey ++ String.ofList
            (stamp next ++ joinedText rest ++ last.storageKey.toList) =
              String.ofList (joinedText (next :: rest) ++ last.storageKey.toList) := by
          rw [← String.toList_inj, String.toList_append, String.toList_ofList,
            String.toList_ofList, joinedText_cons]
          simp only [List.append_assoc]
        rwa [text] at less

theorem toldApart_always_iff (distinct : DistinctFiles files) :
    (∀ others, DistinctFiles others → ToldApart files others) ↔ Unambiguous files := by
  constructor
  · intro told
    match shape : files with
    | [] => exact .inl rfl
    | [file] =>
      refine .inr ⟨file, rfl, fun holds => ?_⟩
      have valid := distinct.times file (List.mem_singleton_self file)
      obtain ⟨others, othersDistinct, apart⟩ := exists_split valid holds
      exact apart (told others othersDistinct)
    | first :: second :: rest =>
      have different : first.storageKey ≠ second.storageKey := by
        have keys := distinct.keys
        simp only [List.map_cons, List.nodup_cons, List.mem_cons, not_or] at keys
        exact keys.1.1
      have members : first ∈ first :: second :: rest ∧ second ∈ first :: second :: rest := by
        simp
      obtain ⟨others, othersDistinct, apart⟩ := exists_merged distinct members different
      exact absurd (told others othersDistinct) apart
  · intro unambiguous others othersDistinct
    refine ⟨fun same => ?_, hashedBytes_of_sameTriples distinct othersDistinct⟩
    rw [hashedBytes_eq_iff] at same
    apply sameTriples_of_sorted
    rcases unambiguous with rfl | ⟨file, rfl, single⟩
    · have empty := joinedText_eq_nil_iff.mp same.symm
      rw [empty]
      rfl
    · have sorted : sortedFiles [file] = [file] :=
        sortedFiles_of_pairwise (List.pairwise_singleton _ _)
      rw [sorted] at same ⊢
      have valid := distinct.times file (List.mem_singleton_self file)
      exact (single_or_holds valid othersDistinct same).resolve_right single

/-- A key without a plus, that begins with something else than a digit. -/
structure PlainKey (key : String) : Prop where
  noPlus : '+' ∉ key.toList
  start : ∃ first rest, key.toList = first :: rest ∧ first.isDigit = false

theorem triples_of_joinedText (valid : ∀ file ∈ files, Datetime.IsDatetime file.lastModified)
    (othersValid : ∀ file ∈ others, Datetime.IsDatetime file.lastModified)
    (plain : ∀ file ∈ files, PlainKey file.storageKey)
    (othersPlain : ∀ file ∈ others, PlainKey file.storageKey)
    (same : joinedText files = joinedText others) :
    files.map EvidenceFile.triple = others.map EvidenceFile.triple := by
  have noDigit : ∀ list : List EvidenceFile, (∀ file ∈ list, PlainKey file.storageKey) →
      Decimals.NoDigitAhead (joinedText list) := by
    intro list plain char ahead
    cases list with
    | nil => cases ahead
    | cons file rest =>
      obtain ⟨first, more, starts, digit⟩ := (plain file List.mem_cons_self).start
      rw [joinedText_cons, starts] at ahead
      cases ahead
      exact digit
  induction files generalizing others with
  | nil => rw [joinedText_eq_nil_iff.mp same.symm]
  | cons file rest ih =>
    cases others with
    | nil => exact absurd (joinedText_eq_nil_iff.mp same) (List.cons_ne_nil _ _)
    | cons other ending =>
      rw [List.forall_mem_cons] at valid othersValid plain othersPlain
      have free : ∀ file : EvidenceFile, PlainKey file.storageKey →
          '+' ∉ file.storageKey.toList ++ wallText file.lastModified := by
        intro file plain
        rw [List.mem_append, not_or]
        exact ⟨plain.noPlus, plus_notMem_wallText _⟩
      have regroup : ∀ (file : EvidenceFile) (rest : List EvidenceFile), joinedText (file :: rest) =
            (file.storageKey.toList ++ wallText file.lastModified) ++
              '+' :: ("00:00".toList ++ (decimal file.sizeBytes ++ joinedText rest)) := by
        intro file rest
        rw [joinedText_cons, stamp]
        simp only [List.append_assoc, List.cons_append]
      rw [regroup, regroup] at same
      -- the first plus belongs to the first time
      rcases Decimals.append_cons_inj_of_first (free file plain.1) (free other othersPlain.1)
        same with ⟨starts, endings⟩
      rcases wallText_ending valid.1 othersValid.1 starts with ⟨times, keys⟩
      rcases Decimals.decimal_append_inj (noDigit rest plain.2) (noDigit ending othersPlain.2)
        (List.append_cancel_left endings) with ⟨sizes, rests⟩
      rw [List.map_cons, List.map_cons, ih valid.2 othersValid.2 plain.2 othersPlain.2 rests,
        triple_eq_iff.mpr ⟨String.toList_inj.mp keys, times, sizes⟩]

theorem toldApart_of_plain (distinct : DistinctFiles files) (othersDistinct : DistinctFiles others)
    (plain : ∀ file ∈ files, PlainKey file.storageKey)
    (othersPlain : ∀ file ∈ others, PlainKey file.storageKey) : ToldApart files others := by
  refine ⟨fun same => ?_, hashedBytes_of_sameTriples distinct othersDistinct⟩
  rw [hashedBytes_eq_iff] at same
  apply sameTriples_of_sorted
  have times : ∀ {list}, DistinctFiles list → ∀ file ∈ sortedFiles list,
      Datetime.IsDatetime file.lastModified :=
    fun distinct file inside => distinct.times file (mem_sortedFiles.mp inside)
  have keys : ∀ {list : List EvidenceFile}, (∀ file ∈ list, PlainKey file.storageKey) →
      ∀ file ∈ sortedFiles list, PlainKey file.storageKey :=
    fun plain file inside => plain file (mem_sortedFiles.mp inside)
  exact triples_of_joinedText (times distinct) (times othersDistinct) (keys plain)
    (keys othersPlain) same

theorem toldApart_iff (files : List EvidenceFile) (distinct : DistinctFiles files) :
    ((∀ others, DistinctFiles others → ToldApart files others) ↔ Unambiguous files) ∧
      ∀ others, DistinctFiles others → (∀ file ∈ files ++ others, PlainKey file.storageKey) →
        ToldApart files others := by
  refine ⟨toldApart_always_iff distinct, fun others othersDistinct plain => ?_⟩
  rw [List.forall_mem_append] at plain
  exact toldApart_of_plain distinct othersDistinct plain.1 plain.2

end

section

def marchFile (storageKey : String) (sizeBytes : Int) : EvidenceFile where
  storageKey := storageKey
  filename := storageKey
  sizeBytes := sizeBytes
  lastModified := 1772355600000000

def policyFiles : List EvidenceFile := [marchFile "a.txt" 1, marchFile "b.txt" 2]

/-- One file with the text of both. -/
def policyMerged : List EvidenceFile :=
  [marchFile ("a.txt" ++ Datetime.isoformat 1772355600000000 ++ "1b.txt") 2]

theorem distinctFiles_policy : DistinctFiles policyFiles where
  keys := by decide
  times := by decide

theorem toldApart_iff_policy : DistinctFiles policyFiles ∧
    ∀ others, DistinctFiles others → (∀ file ∈ policyFiles ++ others, PlainKey file.storageKey) →
      ToldApart policyFiles others :=
  ⟨distinctFiles_policy, (toldApart_iff policyFiles distinctFiles_policy).2⟩

theorem merged_policies_hashed_alike : DistinctFiles policyFiles ∧ DistinctFiles policyMerged ∧
    hashedBytes policyFiles = hashedBytes policyMerged ∧
      ¬ SameTriples policyFiles policyMerged := by
  refine ⟨distinctFiles_policy, distinctFiles_singleton (by decide), ?_, fun same => ?_⟩
  · rw [hashedBytes, hashedBytes]
    have texts : hashedText policyFiles = hashedText policyMerged := by decide
    rw [texts]
  · have found := (same (marchFile "a.txt" 1).triple).mp (by decide)
    exact absurd found (by decide)

end

end Onpremai.AgentEval
