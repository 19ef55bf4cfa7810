import Mathlib.Algebra.GroupWithZero.Nat
import Onpremai.SandboxService.Assembly

/-!
# Local files of a request

The downloader writes each object under the last component of its key, and the preamble loads
each variable from there.  Both derive the same name, but a name is not a key: objects in
different folders can have one name, and then the last download is what all of them load.
-/

namespace Onpremai.SandboxService

open Library

/-- The storage has every object of the request, and they fit. -/
structure Available (settings : DownloadSettings) (files : List FileReference) : Prop where
  answered : ∀ file ∈ files, settings.fetch file.storageKey = .answered 200 (settings.content file)
  fits : (files.map fun file => (settings.content file).length).sum ≤
    settings.maxTotalFileSizeMb * 1024 * 1024

/-- Each variable of the program loads the local file of its own object, and no other object
has that file. -/
structure ReadsOwnObjects (names : List Char → Option Nat) (settings : DownloadSettings)
    (request : ExecutionRequest) (directory : DataDirectory) (program : String) : Prop where
  reading : readProgram names request.files.length program =
    some (request.files.map FileReference.assignment, request.code.toList)
  copies : ∀ file ∈ request.files, ∃ content,
    settings.fetch file.storageKey = .answered 200 content ∧
      directory.get? file.filename = some content
  apart : ∀ file ∈ request.files, ∀ other ∈ request.files,
    file.filename = other.filename → file.storageKey = other.storageKey

/-- The last components of the keys serve as names: the file system takes them, they are plain
text in the program, and different keys have different ones. -/
structure Separable (settings : DownloadSettings) (request : ExecutionRequest) : Prop where
  taken : ∀ file ∈ request.files, settings.takesName file.filename = true
  plain : ∀ file ∈ request.files, PythonString.isPlain file.filename.toList
  assignable : ∀ file ∈ request.files, isAssignable file.loadAs
  distinct : request.files.Pairwise fun file other =>
    file.storageKey ≠ other.storageKey → file.filename ≠ other.filename

variable {settings : DownloadSettings}

theorem downloadLoop_of_available {files : List FileReference} {totalBytes : Nat}
    {directory : DataDirectory}
    (answered : ∀ file ∈ files,
      settings.fetch file.storageKey = .answered 200 (settings.content file))
    (fits : totalBytes + (files.map fun file => (settings.content file).length).sum ≤
      settings.maxTotalFileSizeMb * 1024 * 1024) :
    (∃ result, downloadLoop settings files totalBytes directory = .ok result) ↔
      ∀ file ∈ files, settings.takesName file.filename = true := by
  induction files generalizing totalBytes directory with
  | nil => exact iff_of_true ⟨directory, rfl⟩ fun _ member => absurd member List.not_mem_nil
  | cons file files ih =>
    rw [List.forall_mem_cons] at answered ⊢
    rw [List.map_cons, List.sum_cons] at fits
    have small : ¬ settings.maxTotalFileSizeMb * 1024 * 1024 <
        totalBytes + (settings.content file).length := by omega
    rw [downloadLoop, answered.1]
    simp only [Nat.reduceEqDiff, ne_eq, not_true_eq_false, if_false, if_neg small]
    by_cases taken : settings.takesName file.filename = true
    · rw [if_pos taken, ih answered.2 (by omega), and_iff_right taken]
    · rw [if_neg taken]
      refine iff_of_false (fun succeeds => ?_) fun both => taken both.1
      obtain ⟨_, failed⟩ := succeeds
      cases failed

theorem pairwise_apart_iff {files : List FileReference} :
    (files.Pairwise fun file other =>
        file.storageKey ≠ other.storageKey → file.filename ≠ other.filename) ↔
      ∀ file ∈ files, ∀ other ∈ files,
        file.filename = other.filename → file.storageKey = other.storageKey := by
  constructor
  · intro distinct
    have related : files.Pairwise fun file other =>
        file.filename = other.filename → file.storageKey = other.storageKey :=
      distinct.imp fun apart sameName => not_not.mp fun different => apart different sameName
    have flipped := related.imp fun {first second} same =>
      (fun sameName => (same sameName.symm).symm :
        second.filename = first.filename → second.storageKey = first.storageKey)
    intro file member other otherMember
    exact related.forall_of_forall_of_flip (fun _ _ _ => rfl) flipped member otherMember
  · intro apart
    rw [List.pairwise_iff_forall_sublist]
    intro file other sublist different sameName
    have members := sublist.subset
    exact different (apart file (members List.mem_cons_self) other
      (members (List.mem_cons_of_mem _ List.mem_cons_self)) sameName)

/-- The evidence for a control, under a variable of its own. -/
def evidence (storageKey loadAs : String) (keyNonempty : storageKey ≠ "")
    (noTraversal : Text.contains ".." storageKey = false)
    (notAbsolute : Text.startsWith "/" storageKey = false)
    (noNull : Char.ofNat 0 ∉ storageKey.toList) (identifier : isIdentifier loadAs = true)
    (nameLength : loadAs.length ≤ 64) : FileReference where
  storageKey
  loadAs
  type := .csv
  keyNonempty
  noTraversal
  notAbsolute
  noNull
  identifier
  nameLength

def firstEvidence : FileReference :=
  evidence "acme/cc6.1/users.csv" "cc6" (by decide) (by decide) (by decide) (by decide) (by decide)
    (by decide)

def secondEvidence : FileReference :=
  evidence "acme/cc7.2/users.csv" "cc7" (by decide) (by decide) (by decide) (by decide) (by decide)
    (by decide)

def compareUsers : ExecutionRequest where
  code := "print(len(cc6), len(cc7))"
  files := [firstEvidence, secondEvidence]
  codeNonempty := by decide
  codeLength := by decide
  distinct := by decide

/-- A storage whose objects differ. -/
def keyedStorage : DownloadSettings where
  fetch := fun key => .answered 200 (if key = "acme/cc6.1/users.csv" then [49] else [50])
  takesName := fun name => name != "" && name != "."
  maxTotalFileSizeMb := 100

end Onpremai.SandboxService
