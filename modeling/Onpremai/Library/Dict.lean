import Mathlib.Data.List.Nodup
import Mathlib.Data.List.Perm.Basic

/-!
# Insertion-ordered dictionaries

A finite map that keeps its entries in insertion order.  Overwriting a key keeps the position of
the key, and a new key is appended, so iteration visits keys in the order of their first
insertion.
-/

namespace Onpremai.Library

universe u v w

variable {κ : Type u} {ν : Type v} {μ : Type w} [DecidableEq κ]

/-- Entries in insertion order, at most one for each key. -/
structure Dict (κ : Type u) (ν : Type v) where
  entries : List (κ × ν)
  nodupKeys : (entries.map Prod.fst).Nodup

namespace Dict

/-- Overwrite the entry of a key in place, or append a new one. -/
def setEntry (key : κ) (value : ν) : List (κ × ν) → List (κ × ν)
  | [] => [(key, value)]
  | entry :: rest =>
    if entry.1 = key then (key, value) :: rest
    else entry :: setEntry key value rest

def findEntry (key : κ) : List (κ × ν) → Option ν
  | [] => none
  | entry :: rest => if entry.1 = key then some entry.2 else findEntry key rest

theorem map_fst_setEntry (key : κ) (value : ν) (entries : List (κ × ν)) :
    (setEntry key value entries).map Prod.fst =
      if key ∈ entries.map Prod.fst then entries.map Prod.fst
      else entries.map Prod.fst ++ [key] := by
  induction entries with
  | nil => simp [setEntry]
  | cons entry rest ih =>
    by_cases same : entry.1 = key
    · simp [setEntry, same]
    · simp only [setEntry, same, if_false, List.map_cons, ih, List.mem_cons, Ne.symm same, false_or]
      split <;> simp

theorem findEntry_setEntry (key query : κ) (value : ν) (entries : List (κ × ν)) :
    findEntry query (setEntry key value entries) =
      if key = query then some value else findEntry query entries := by
  induction entries with
  | nil => simp [setEntry, findEntry]
  | cons entry rest ih =>
    by_cases same : entry.1 = key
    · subst same
      by_cases hit : entry.1 = query <;> simp [setEntry, findEntry, hit]
    · simp only [setEntry, same, if_false, findEntry, ih]
      by_cases hit : entry.1 = query
      · subst hit
        simp [Ne.symm same]
      · simp [hit]

theorem findEntry_eq_some_of_mem {entries : List (κ × ν)}
    (nodup : (entries.map Prod.fst).Nodup) {key : κ} {value : ν}
    (member : (key, value) ∈ entries) : findEntry key entries = some value := by
  induction entries with
  | nil => simp at member
  | cons entry rest ih =>
    obtain ⟨fresh, restNodup⟩ := List.nodup_cons.mp nodup
    rcases List.mem_cons.mp member with here | there
    · simp [findEntry, ← here]
    · have apart : entry.1 ≠ key := by
        rintro rfl
        exact fresh (List.mem_map.mpr ⟨_, there, rfl⟩)
      simp [findEntry, apart, ih restNodup there]

theorem map_snd_setEntry {key : κ} (value : ν) {entries : List (κ × ν)}
    (nodup : (entries.map Prod.fst).Nodup) (member : key ∈ entries.map Prod.fst) :
    (setEntry key value entries).map Prod.snd =
      entries.map fun entry => if entry.1 = key then value else entry.2 := by
  induction entries with
  | nil => simp at member
  | cons entry rest ih =>
    obtain ⟨fresh, restNodup⟩ := List.nodup_cons.mp nodup
    by_cases same : entry.1 = key
    · -- no later entry has the key
      have others : rest.map Prod.snd =
          rest.map fun other => if other.1 = key then value else other.2 := by
        apply List.map_congr_left
        intro other inside
        have differs : other.1 ≠ key := by
          rintro rfl
          exact fresh (same ▸ List.mem_map.mpr ⟨other, inside, rfl⟩)
        simp [differs]
      simp [setEntry, same, others]
    · have later : key ∈ rest.map Prod.fst := by
        simpa [Ne.symm same] using member
      simp [setEntry, same, ih restNodup later]

theorem mem_of_findEntry_eq_some {entries : List (κ × ν)} {key : κ} {value : ν}
    (found : findEntry key entries = some value) : (key, value) ∈ entries := by
  induction entries with
  | nil => simp [findEntry] at found
  | cons entry rest ih =>
    by_cases same : entry.1 = key
    · simp only [findEntry, same, if_true, Option.some.injEq] at found
      simp [← same, ← found]
    · simp only [findEntry, same, if_false] at found
      exact List.mem_cons_of_mem _ (ih found)

/-- The dictionary without entries. -/
def empty : Dict κ ν := ⟨[], by simp⟩

instance : Inhabited (Dict κ ν) := ⟨empty⟩

def get? (dict : Dict κ ν) (key : κ) : Option ν := findEntry key dict.entries

def keys (dict : Dict κ ν) : List κ := dict.entries.map Prod.fst

def values (dict : Dict κ ν) : List ν := dict.entries.map Prod.snd

def size (dict : Dict κ ν) : Nat := dict.entries.length

/-- `dict[key] = value`. -/
def set (dict : Dict κ ν) (key : κ) (value : ν) : Dict κ ν where
  entries := setEntry key value dict.entries
  nodupKeys := by
    rw [map_fst_setEntry]
    split
    · exact dict.nodupKeys
    · next fresh =>
      rw [List.nodup_append]
      refine ⟨dict.nodupKeys, by simp, ?_⟩
      rintro left member right rfl' rfl
      simp only [List.mem_singleton] at rfl'
      exact fresh (rfl' ▸ member)

def setAll (dict : Dict κ ν) (entries : List (κ × ν)) : Dict κ ν :=
  entries.foldl (fun acc entry => acc.set entry.1 entry.2) dict

/-- `dict.update(other)`: the entries of `other` win. -/
def update (dict other : Dict κ ν) : Dict κ ν := dict.setAll other.entries

/-- A dictionary literal or comprehension: later entries of one key win. -/
def ofList (entries : List (κ × ν)) : Dict κ ν := empty.setAll entries

@[simp] theorem get?_empty (key : κ) : (empty : Dict κ ν).get? key = none := rfl

omit [DecidableEq κ] in
@[simp] theorem keys_empty : (empty : Dict κ ν).keys = [] := rfl

omit [DecidableEq κ] in
@[simp] theorem size_empty : (empty : Dict κ ν).size = 0 := rfl

section

variable (dict : Dict κ ν)

@[simp] theorem get?_set (key query : κ) (value : ν) : (dict.set key value).get? query =
      if key = query then some value else dict.get? query :=
  findEntry_setEntry key query value dict.entries

theorem keys_set (key : κ) (value : ν) : (dict.set key value).keys =
      if key ∈ dict.keys then dict.keys else dict.keys ++ [key] :=
  map_fst_setEntry key value dict.entries

theorem keys_set_of_notMem {key : κ} (fresh : key ∉ dict.keys)
    (value : ν) : (dict.set key value).keys = dict.keys ++ [key] := by
  rw [keys_set, if_neg fresh]

@[simp] theorem mem_keys_set (key query : κ) (value : ν) :
    query ∈ (dict.set key value).keys ↔ query = key ∨ query ∈ dict.keys := by
  rw [keys_set]
  split
  · next present =>
    constructor
    · exact Or.inr
    · rintro (rfl | inside)
      · exact present
      · exact inside
  · rw [List.mem_append, List.mem_singleton, or_comm]

end

omit [DecidableEq κ] in
theorem size_eq_length_keys (dict : Dict κ ν) : dict.size = dict.keys.length := by
  simp [size, keys]

section

variable (dict : Dict κ ν)

theorem mem_entries_iff (key : κ) (value : ν) :
    (key, value) ∈ dict.entries ↔ dict.get? key = some value :=
  ⟨findEntry_eq_some_of_mem dict.nodupKeys, mem_of_findEntry_eq_some⟩

theorem mem_keys_iff (key : κ) : key ∈ dict.keys ↔ (dict.get? key).isSome := by
  constructor
  · intro member
    obtain ⟨entry, inside, rfl⟩ := List.mem_map.mp member
    rw [(dict.mem_entries_iff entry.1 entry.2).mp inside]
    rfl
  · intro present
    obtain ⟨value, found⟩ := Option.isSome_iff_exists.mp present
    exact List.mem_map.mpr ⟨_, (dict.mem_entries_iff key value).mpr found, rfl⟩

theorem mem_values_iff (value : ν) : value ∈ dict.values ↔ ∃ key, dict.get? key = some value := by
  constructor
  · intro member
    obtain ⟨entry, inside, rfl⟩ := List.mem_map.mp member
    exact ⟨entry.1, (dict.mem_entries_iff entry.1 entry.2).mp inside⟩
  · rintro ⟨key, found⟩
    exact List.mem_map.mpr ⟨_, (dict.mem_entries_iff key value).mpr found, rfl⟩

theorem values_set_of_get? {key : κ} {old : ν} (found : dict.get? key = some old) (value : ν) :
    (dict.set key value).values =
      dict.entries.map fun entry => if entry.1 = key then value else entry.2 := by
  have member : key ∈ dict.entries.map Prod.fst := by
    rw [← mem_entries_iff] at found
    exact List.mem_map.mpr ⟨(key, old), found, rfl⟩
  exact map_snd_setEntry value dict.nodupKeys member

theorem get?_setAll_of_notMem {entries : List (κ × ν)} {key : κ}
    (absent : key ∉ entries.map Prod.fst) : (dict.setAll entries).get? key = dict.get? key := by
  induction entries generalizing dict with
  | nil => rfl
  | cons entry rest ih =>
    simp only [List.map_cons, List.mem_cons, not_or] at absent
    change ((dict.set entry.1 entry.2).setAll rest).get? key = _
    rw [ih (dict.set entry.1 entry.2) absent.2, get?_set, if_neg (Ne.symm absent.1)]

theorem get?_setAll_of_mem {entries : List (κ × ν)}
    (nodup : (entries.map Prod.fst).Nodup) {key : κ} {value : ν} (member : (key, value) ∈ entries) :
    (dict.setAll entries).get? key = some value := by
  induction entries generalizing dict with
  | nil => simp at member
  | cons entry rest ih =>
    obtain ⟨fresh, restNodup⟩ := List.nodup_cons.mp nodup
    change ((dict.set entry.1 entry.2).setAll rest).get? key = _
    rcases List.mem_cons.mp member with here | there
    · rw [← here] at fresh ⊢
      rw [get?_setAll_of_notMem _ fresh, get?_set, if_pos rfl]
    · exact ih _ restNodup there

theorem get?_setAll_of_agree {entries : List (κ × ν)} {key : κ} {value : ν}
    (agree : ∀ entry ∈ entries, entry.1 = key → entry.2 = value)
    (written : key ∈ entries.map Prod.fst) : (dict.setAll entries).get? key = some value := by
  induction entries generalizing dict with
  | nil => simp at written
  | cons entry rest ih =>
    rw [List.forall_mem_cons] at agree
    change ((dict.set entry.1 entry.2).setAll rest).get? key = _
    by_cases later : key ∈ rest.map Prod.fst
    · exact ih _ agree.2 later
    · have here : entry.1 = key := by
        rcases List.mem_cons.mp written with first | inside
        · exact first.symm
        · exact absurd inside later
      rw [get?_setAll_of_notMem _ later, get?_set, if_pos here, agree.1 here]

theorem get?_setAll_cases {entries : List (κ × ν)} {key : κ} {value : ν}
    (found : (dict.setAll entries).get? key = some value) :
    (key, value) ∈ entries ∨ dict.get? key = some value := by
  induction entries generalizing dict with
  | nil => exact .inr found
  | cons entry rest ih =>
    rcases ih (dict.set entry.1 entry.2) found with later | before
    · exact .inl (List.mem_cons_of_mem _ later)
    · rw [get?_set] at before
      split at before
      · next same =>
        left
        rw [← same, ← Option.some.inj before]
        exact List.mem_cons_self
      · exact .inr before

theorem keys_setAll_of_fresh {entries : List (κ × ν)} (nodup : (entries.map Prod.fst).Nodup)
    (fresh : ∀ key ∈ entries.map Prod.fst, key ∉ dict.keys) :
    (dict.setAll entries).keys = dict.keys ++ entries.map Prod.fst := by
  induction entries generalizing dict with
  | nil => simp [setAll]
  | cons entry rest ih =>
    simp only [List.map_cons, List.nodup_cons, List.mem_cons, forall_eq_or_imp] at nodup fresh
    have headKeys := dict.keys_set_of_notMem fresh.1 entry.2
    change ((dict.set entry.1 entry.2).setAll rest).keys = _
    rw [ih _ nodup.2, headKeys]
    · simp
    · intro key member inside
      rw [headKeys, List.mem_append, List.mem_singleton] at inside
      rcases inside with old | rfl
      · exact fresh.2 key member old
      · exact nodup.1 member

theorem keys_setAll_of_mem {entries : List (κ × ν)}
    (present : ∀ key ∈ entries.map Prod.fst, key ∈ dict.keys) :
    (dict.setAll entries).keys = dict.keys := by
  induction entries generalizing dict with
  | nil => rfl
  | cons entry rest ih =>
    simp only [List.map_cons, List.mem_cons, forall_eq_or_imp] at present
    have headKeys : (dict.set entry.1 entry.2).keys = dict.keys := by
      rw [keys_set, if_pos present.1]
    change ((dict.set entry.1 entry.2).setAll rest).keys = _
    rw [ih _ (by rw [headKeys]; exact present.2), headKeys]

end

theorem get?_update (dict other : Dict κ ν) (key : κ) :
    (dict.update other).get? key = (other.get? key <|> dict.get? key) := by
  cases found : other.get? key with
  | none =>
    have absent : key ∉ other.entries.map Prod.fst := by
      intro member
      have := (other.mem_keys_iff key).mp member
      simp [found] at this
    exact get?_setAll_of_notMem dict absent
  | some value =>
    exact get?_setAll_of_mem dict other.nodupKeys
      ((other.mem_entries_iff key value).mpr found)

@[simp] theorem get?_empty_update (other : Dict κ ν) (key : κ) :
    (empty.update other).get? key = other.get? key := by
  rw [get?_update]
  cases other.get? key <;> rfl

@[simp] theorem mem_keys_setAll (dict : Dict κ ν) (entries : List (κ × ν)) (key : κ) :
    key ∈ (dict.setAll entries).keys ↔ key ∈ dict.keys ∨ key ∈ entries.map Prod.fst := by
  induction entries generalizing dict with
  | nil => simp [setAll]
  | cons entry rest ih =>
    change key ∈ ((dict.set entry.1 entry.2).setAll rest).keys ↔ _
    rw [ih, mem_keys_set, List.map_cons, List.mem_cons, or_assoc, or_left_comm]

@[simp] theorem mem_keys_ofList (entries : List (κ × ν)) (key : κ) :
    key ∈ (ofList entries).keys ↔ key ∈ entries.map Prod.fst := by
  rw [ofList, mem_keys_setAll, keys_empty]
  simp

section

variable {entries : List (κ × ν)}

theorem keys_ofList (nodup : (entries.map Prod.fst).Nodup) :
    (ofList entries).keys = entries.map Prod.fst := by
  rw [ofList, keys_setAll_of_fresh _ nodup] <;> simp

theorem get?_ofList_of_mem (nodup : (entries.map Prod.fst).Nodup) {key : κ} {value : ν}
    (member : (key, value) ∈ entries) : (ofList entries).get? key = some value :=
  get?_setAll_of_mem empty nodup member

theorem mem_of_get?_ofList {key : κ} {value : ν}
    (found : (ofList entries).get? key = some value) : (key, value) ∈ entries := by
  rcases get?_setAll_cases empty found with member | absurdity
  · exact member
  · cases absurdity

end

/-- Change every value in place. -/
def mapEntries (change : κ → ν → μ) (dict : Dict κ ν) : Dict κ μ where
  entries := dict.entries.map fun entry => (entry.1, change entry.1 entry.2)
  nodupKeys := by
    rw [List.map_map]
    exact dict.nodupKeys

omit [DecidableEq κ] in
@[simp] theorem keys_mapEntries (change : κ → ν → μ) (dict : Dict κ ν) :
    (dict.mapEntries change).keys = dict.keys := by
  simp [keys, mapEntries, Function.comp_def]

theorem findEntry_map (change : κ → ν → μ) (query : κ) (entries : List (κ × ν)) :
    findEntry query (entries.map fun entry => (entry.1, change entry.1 entry.2)) =
      (findEntry query entries).map (change query) := by
  induction entries with
  | nil => rfl
  | cons entry rest ih =>
    rw [List.map_cons, findEntry, findEntry]
    split
    · next same => rw [same, Option.map_some]
    · exact ih

@[simp] theorem get?_mapEntries (change : κ → ν → μ) (dict : Dict κ ν) (query : κ) :
    (dict.mapEntries change).get? query = (dict.get? query).map (change query) :=
  findEntry_map change query dict.entries

def restrict (keep : κ → Bool) (dict : Dict κ ν) : Dict κ ν where
  entries := dict.entries.filter fun entry => keep entry.1
  nodupKeys := (List.filter_sublist.map Prod.fst).nodup dict.nodupKeys

theorem findEntry_filter (keep : κ → Bool) (query : κ) (entries : List (κ × ν)) :
    findEntry query (entries.filter fun entry => keep entry.1) =
      if keep query = true then findEntry query entries else none := by
  induction entries with
  | nil => simp [findEntry]
  | cons entry rest ih =>
    rw [List.filter_cons]
    cases kept : keep entry.1 with
    | true =>
      rw [if_pos rfl, findEntry, findEntry, ih]
      split
      · next same => rw [← same, if_pos kept]
      · rfl
    | false =>
      rw [if_neg Bool.noConfusion, ih, findEntry]
      split
      · next stays =>
        have other : entry.1 ≠ query := by
          intro same
          rw [same, stays] at kept
          cases kept
        rw [if_neg other]
      · rfl

@[simp] theorem get?_restrict (keep : κ → Bool) (dict : Dict κ ν) (query : κ) :
    (dict.restrict keep).get? query = if keep query = true then dict.get? query else none :=
  findEntry_filter keep query dict.entries

/-- `del dict[key]`. -/
def erase (dict : Dict κ ν) (key : κ) : Dict κ ν := dict.restrict fun other => decide (other ≠ key)

@[simp] theorem get?_erase (dict : Dict κ ν) (key query : κ) :
    (dict.erase key).get? query = if query = key then none else dict.get? query := by
  rw [erase, get?_restrict]
  simp only [decide_eq_true_eq, ite_not]

def ofFields (entries : List (κ × ν)) : Dict κ ν :=
  entries.foldl (fun acc entry =>
    if entry.1 ∈ acc.keys then acc else acc.set entry.1 entry.2) empty

@[simp] theorem get?_ofFields (entries : List (κ × ν)) (query : κ) :
    (ofFields entries).get? query = findEntry query entries := by
  have general : ∀ start : Dict κ ν, (entries.foldl (fun acc entry =>
      if entry.1 ∈ acc.keys then acc else acc.set entry.1 entry.2) start).get? query =
        (start.get? query <|> findEntry query entries) := by
    induction entries with
    | nil => simp [findEntry]
    | cons entry rest ih =>
      intro start
      rw [List.foldl_cons, ih, findEntry]
      split
      · next present =>
        -- the key has a value already, so the entry is passed over
        rcases Option.isSome_iff_exists.mp ((start.mem_keys_iff entry.1).mp present) with
          ⟨value, found⟩
        split
        · next same => simp [← same, found]
        · rfl
      · next fresh =>
        rw [get?_set]
        split
        · next same =>
          have absent : start.get? query = none := by
            rw [← same, ← Option.not_isSome_iff_eq_none, ← mem_keys_iff]
            exact fresh
          simp [absent]
        · rfl
  rw [ofFields, general, get?_empty]
  rfl

theorem findEntry_of_notMem {key : κ} {entries : List (κ × ν)}
    (absent : key ∉ entries.map Prod.fst) : findEntry key entries = none := by
  induction entries with
  | nil => rfl
  | cons entry rest ih =>
    rw [List.map_cons, List.mem_cons, not_or] at absent
    rw [findEntry, if_neg (Ne.symm absent.1), ih absent.2]

theorem findEntry_foldl_setEntry {values : List (κ × ν)} (nodup : (values.map Prod.fst).Nodup)
    (entries : List (κ × ν)) (query : κ) :
    findEntry query (values.foldl (fun acc entry => setEntry entry.1 entry.2 acc) entries) =
      (findEntry query values <|> findEntry query entries) := by
  induction values generalizing entries with
  | nil => rfl
  | cons entry rest ih =>
    rw [List.map_cons, List.nodup_cons] at nodup
    rw [List.foldl_cons, ih nodup.2, findEntry_setEntry, findEntry]
    split
    · next same =>
      rw [← same, findEntry_of_notMem nodup.1]
      rfl
    · rfl

theorem mem_setEntry {key : κ} {value : ν} {entries : List (κ × ν)} {entry : κ × ν}
    (member : entry ∈ setEntry key value entries) : entry = (key, value) ∨ entry ∈ entries := by
  induction entries with
  | nil => exact .inl (List.mem_singleton.mp member)
  | cons first rest ih =>
    rw [setEntry] at member
    split at member
    · rcases List.mem_cons.mp member with new | old
      · exact .inl new
      · exact .inr (List.mem_cons_of_mem _ old)
    · rcases List.mem_cons.mp member with same | later
      · exact .inr (List.mem_cons.mpr (.inl same))
      · rcases ih later with new | old
        · exact .inl new
        · exact .inr (List.mem_cons_of_mem _ old)

theorem mem_foldl_setEntry {values entries : List (κ × ν)} {entry : κ × ν}
    (member : entry ∈ values.foldl (fun acc entry => setEntry entry.1 entry.2 acc) entries) :
    entry ∈ values ∨ entry ∈ entries := by
  induction values generalizing entries with
  | nil => exact .inr member
  | cons first rest ih =>
    rcases ih member with later | before
    · exact .inl (List.mem_cons_of_mem _ later)
    · rcases mem_setEntry before with new | old
      · exact .inl (List.mem_cons.mpr (.inl new))
      · exact .inr old

/-- A dictionary has just the entries of another one whose values are of a kind. -/
def IsPart (kind : ν → Prop) (whole part : Dict κ ν) : Prop :=
  ∀ key value, part.get? key = some value ↔ whole.get? key = some value ∧ kind value

namespace IsPart

variable {kind : ν → Prop} {whole part : Dict κ ν}

protected theorem empty : IsPart kind (Dict.empty : Dict κ ν) Dict.empty := fun _ _ =>
  (and_iff_left_of_imp fun none => absurd none (Option.some_ne_none _).symm).symm

theorem set (isPart : IsPart kind whole part) (key : κ) {value : ν} (own : kind value) :
    IsPart kind (whole.set key value) (part.set key value) := by
  intro query other
  rw [get?_set, get?_set]
  split
  · constructor
    · intro same
      cases same
      exact ⟨rfl, own⟩
    · exact And.left
  · exact isPart query other

theorem set_other (isPart : IsPart kind whole part) {key : κ} {value : ν}
    (other : ¬ kind value) (free : part.get? key = none) :
    IsPart kind (whole.set key value) part := by
  intro query found
  rw [get?_set]
  split
  · next same =>
    rw [← same, free]
    apply iff_of_false
    · exact (Option.some_ne_none found).symm
    · intro written
      cases written.1
      exact other written.2
  · exact isPart query found

theorem get?_eq (isPart : IsPart kind whole part) {key : κ}
    (own : ∀ value, whole.get? key = some value → kind value) :
    part.get? key = whole.get? key := by
  apply Option.ext
  intro value
  rw [isPart key value, and_iff_left_of_imp (own value)]

theorem get?_eq_none (isPart : IsPart kind whole part) {key : κ}
    (others : ∀ value, whole.get? key = some value → ¬ kind value) : part.get? key = none := by
  apply Option.eq_none_iff_forall_ne_some.mpr
  intro value found
  have both := (isPart key value).mp found
  exact others value both.1 both.2

end IsPart

def Every (kind : κ → ν → Prop) (dict : Dict κ ν) : Prop :=
  ∀ key value, dict.get? key = some value → kind key value

namespace Every

variable {kind other : κ → ν → Prop} {dict : Dict κ ν}

theorem empty (kind : κ → ν → Prop) : Every kind (Dict.empty : Dict κ ν) := by
  intro key value found
  rw [get?_empty] at found
  cases found

theorem imp (every : Every kind dict) (weaker : ∀ key value, kind key value → other key value) :
    Every other dict :=
  fun key value found => weaker key value (every key value found)

theorem set (every : Every kind dict) {key : κ} {value : ν} (new : kind key value) :
    Every kind (dict.set key value) := by
  intro query found held
  rw [get?_set] at held
  split at held
  · next same => rw [← same, ← Option.some.inj held]; exact new
  · exact every query found held

theorem erase (every : Every kind dict) (key : κ) :
    Every (fun query value => query ≠ key ∧ kind query value) (dict.erase key) := by
  intro query value held
  rw [get?_erase] at held
  split at held
  · cases held
  · next differ => exact ⟨differ, every query value held⟩

end Every

end Dict

end Onpremai.Library
