import Onpremai.SandboxService.Preamble
import Onpremai.Library.PythonString
import Onpremai.Library.Except

/-!
# What the assembled program says

The program is read as Python reads it: the standard imports, then for each file one
assignment of a reader call on a string literal or of a string literal, then the rest.
Anything else in place of such an assignment makes the reading fail.
-/

namespace Onpremai.SandboxService

open Library Library.PythonString

/-- Reserved words of Python. -/
def keywords : List String :=
  ["False", "None", "True", "and", "as", "assert", "async", "await", "break", "class",
   "continue", "def", "del", "elif", "else", "except", "finally", "for", "from", "global",
   "if", "import", "in", "is", "lambda", "nonlocal", "not", "or", "pass", "raise", "return",
   "try", "while", "with", "yield"]

/-- Python assigns to every identifier but its reserved words and `__debug__`. -/
def isAssignable (name : String) : Bool :=
  isIdentifier name && !keywords.contains name && name != "__debug__"

/-- `target = pd.reader(path)`, or `target = path` without a reader.  The path is given
by its code points. -/
structure Assignment where
  target : String
  reader : Option String
  path : List Nat
  deriving DecidableEq

def expect (word : String) (text : List Char) : Option (List Char) :=
  if word.toList.isPrefixOf text then some (text.drop word.toList.length) else none

section

variable (names : List Char → Option Nat)

def readValue (text : List Char) : Option ((Option String × List Nat) × List Char) :=
  match expect "'" text with
  | some inside => do
    let (path, rest) ← readLiteral names .text inside
    return ((none, path), rest)
  | none => do
    let afterPandas ← expect "pd." text
    let reader := afterPandas.takeWhile isIdentChar
    let inside ← expect "('" (afterPandas.dropWhile isIdentChar)
    let (path, rest) ← readLiteral names .text inside
    let rest ← expect ")" rest
    return ((some (String.ofList reader), path), rest)

/-- One assignment on a line of its own, and the text after the line. -/
def readAssignment (text : List Char) : Option (Assignment × List Char) := do
  let target := String.ofList (text.takeWhile isIdentChar)
  if isAssignable target then
    let text ← expect " = " (text.dropWhile isIdentChar)
    let ((reader, path), rest) ← readValue names text
    let rest ← expect "\n" rest
    return (⟨target, reader, path⟩, rest)
  else none

def readAssignments : Nat → List Char → Option (List Assignment × List Char)
  | 0, text => some ([], text)
  | count + 1, text => do
    let (assignment, rest) ← readAssignment names text
    let (more, rest) ← readAssignments count rest
    return (assignment :: more, rest)

def readProgram (count : Nat) (program : String) :
    Option (List Assignment × List Char) := do
  let rest ← expect (standardImports ++ "\n") program.toList
  readAssignments names count rest

end

def readerName : FileType → Option String
  | .csv => some "read_csv"
  | .excel => some "read_excel"
  | .parquet => some "read_parquet"
  | .json => some "read_json"
  | .pdf => none

def FileReference.assignment (file : FileReference) : Assignment where
  target := file.loadAs
  reader := readerName file.type
  path := file.dataPath.toList.map Char.toNat

/-- The names that the preamble relies on: the libraries, and the import hook with the
names that it is made of. -/
def reliedOn : List String :=
  ["pd", "np", "json", "_builtins", "_original_import", "_BLOCKED_MODULES", "_safe_import",
   "ImportError"]

/-- The program for a request is as promised: it reads as the standard imports, one
assignment per file of the copy of that file, and the user's code as it is, and no
assignment takes a name that the preamble relies on. -/
structure AsPromised (names : List Char → Option Nat) (settings : DownloadSettings)
    (request : ExecutionRequest) (directory : DataDirectory) (program : String) : Prop where
  reading : readProgram names request.files.length program =
    some (request.files.map FileReference.assignment, request.code.toList)
  copies : ∀ file ∈ request.files, ∃ content,
    settings.fetch file.storageKey = .answered 200 content ∧
      directory.get? file.filename = some content
  unshadowed : ∀ file ∈ request.files, file.loadAs ∉ reliedOn

/-- The request can be substituted into the program: file names are plain text, names
are assignable and not relied on, and no two files with different content share a
file name. -/
structure Substitutable (settings : DownloadSettings) (request : ExecutionRequest) :
    Prop where
  plain : ∀ file ∈ request.files, isPlain file.filename.toList
  assignable : ∀ file ∈ request.files, isAssignable file.loadAs
  unshadowed : ∀ file ∈ request.files, file.loadAs ∉ reliedOn
  ownName : ∀ file ∈ request.files, ∀ other ∈ request.files, file.filename = other.filename →
      settings.fetch file.storageKey = settings.fetch other.storageKey

/-! ## Reading a load statement -/

@[simp] theorem expect_append (word : String) (text : List Char) :
    expect word (word.toList ++ text) = some text := by
  rw [expect, if_pos (by simp), List.drop_left]

variable {names : List Char → Option Nat}

/-- The right-hand side of a load statement. -/
def loadValue (file : FileReference) : String :=
  match readerName file.type with
  | none => "'" ++ file.dataPath ++ "'"
  | some reader => "pd." ++ reader ++ "('" ++ file.dataPath ++ "')"

theorem loadStatement_eq (file : FileReference) :
    loadStatement file = file.loadAs ++ " = " ++ loadValue file := by
  have opening : " = '" = " = " ++ "'" := rfl
  rw [loadStatement, loadValue]
  cases file.type with
  | pdf =>
    dsimp only [readerMap, readerName]
    rw [opening]
    simp only [String.append_assoc]
  | csv | excel | parquet | json => simp [readerMap, readerName, ← String.append_assoc]

theorem takeWhile_identifier {name : String} (identifier : isIdentifier name = true)
    {stop : Char} (stops : isIdentChar stop = false) (rest : List Char) :
    (name.toList ++ stop :: rest).takeWhile isIdentChar = name.toList ∧
      (name.toList ++ stop :: rest).dropWhile isIdentChar = stop :: rest := by
  have every : ∀ char ∈ name.toList, isIdentChar char := by
    rw [isIdentifier] at identifier
    split at identifier
    · cases identifier
    · next first later shape =>
      rw [shape]
      simp only [Bool.and_eq_true, List.all_eq_true] at identifier
      rw [List.forall_mem_cons]
      exact ⟨by rw [isIdentChar, identifier.1]; rfl, identifier.2⟩
  constructor
  · rw [List.takeWhile_append_of_pos every, List.takeWhile_cons_of_neg (by simp [stops]),
      List.append_nil]
  · rw [List.dropWhile_append_of_pos every, List.dropWhile_cons_of_neg (by simp [stops])]

theorem readValue_literal (path rest : List Char) :
    readValue names ("'".toList ++ (path ++ quote :: rest)) =
      (readLiteral names .text (path ++ quote :: rest)).map fun read =>
        ((none, read.1), read.2) := by
  rw [readValue, expect_append]
  dsimp only [Option.bind_eq_bind]
  cases readLiteral names .text (path ++ quote :: rest) <;> rfl

theorem readValue_call {reader : String} (identifier : isIdentifier reader = true)
    (path rest : List Char) :
    readValue names ("pd.".toList ++ (reader.toList ++ ("('".toList ++ (path ++ quote :: rest)))) =
        (readLiteral names .text (path ++ quote :: rest)).bind fun read =>
          (expect ")" read.2).map fun after => ((some reader, read.1), after) := by
  have noLiteral : ∀ text, expect "'" ("pd.".toList ++ text) = none := fun text => rfl
  have ends := @takeWhile_identifier _ identifier (Char.ofNat 40) rfl
    (quote :: (path ++ quote :: rest))
  have opening : "('".toList ++ (path ++ quote :: rest) =
      Char.ofNat 40 :: quote :: (path ++ quote :: rest) := rfl
  rw [readValue, noLiteral]
  simp only [expect_append, Option.bind_eq_bind, Option.bind_some]
  rw [opening, ends.1, ends.2, ← opening, expect_append, String.ofList_toList, Option.bind_some]
  cases readLiteral names .text (path ++ quote :: rest) with
  | none => rfl
  | some read =>
    simp only [Option.bind_some]
    cases expect ")" read.2 <;> rfl

section

variable (file : FileReference) (rest after : List Char)

theorem readValue_loadValue_iff :
    (∃ line, readValue names ((loadValue file).toList ++ '\n' :: rest) =
      some ((readerName file.type, file.dataPath.toList.map Char.toNat), line) ∧
        expect "\n" line = some after) ↔ isPlain file.dataPath.toList ∧ after = rest := by
  have newline : ∀ text, expect "\n" ('\n' :: text) = some text := expect_append "\n"
  rw [loadValue]
  cases reader : readerName file.type with
  | none =>
    have shape : ("'" ++ file.dataPath ++ "'").toList ++ '\n' :: rest =
        "'".toList ++ (file.dataPath.toList ++ quote :: '\n' :: rest) := by
      simp only [String.toList_append, List.append_assoc]
      rfl
    have unclosed : readLiteral names .text ('\n' :: rest) = none := rfl
    dsimp only
    rw [shape, readValue_literal]
    constructor
    · rintro ⟨line, read, next⟩
      rcases Option.map_eq_some_iff.mp read with ⟨⟨codes, text⟩, literal, same⟩
      simp only [Prod.mk.injEq, true_and] at same
      rw [same.1, readLiteral_eq_iff unclosed] at literal
      rw [← same.2, literal.2, newline, Option.some.injEq] at next
      exact ⟨literal.1, next.symm⟩
    · rintro ⟨plain, rfl⟩
      refine ⟨'\n' :: after, ?_, newline after⟩
      rw [(readLiteral_eq_iff unclosed).mpr ⟨plain, rfl⟩, Option.map_some]
  | some name =>
    have identifier : isIdentifier name = true := by
      cases type : file.type <;> rw [type, readerName] at reader <;> cases reader <;> rfl
    have shape : ("pd." ++ name ++ "('" ++ file.dataPath ++ "')").toList ++ '\n' :: rest =
        "pd.".toList ++ (name.toList ++ ("('".toList ++
          (file.dataPath.toList ++ quote :: Char.ofNat 41 :: '\n' :: rest))) := by
      simp only [String.toList_append, List.append_assoc]
      rfl
    have unclosed : readLiteral names .text (Char.ofNat 41 :: '\n' :: rest) = none := rfl
    have closing : ∀ text, expect ")" (Char.ofNat 41 :: text) = some text := expect_append ")"
    dsimp only
    rw [shape, readValue_call identifier]
    constructor
    · rintro ⟨line, read, next⟩
      rcases Option.bind_eq_some_iff.mp read with ⟨⟨codes, text⟩, literal, call⟩
      rcases Option.map_eq_some_iff.mp call with ⟨closed, close, same⟩
      simp only [Prod.mk.injEq, true_and] at same
      rw [same.1, readLiteral_eq_iff unclosed] at literal
      rw [literal.2, closing, Option.some.injEq] at close
      rw [← same.2, ← close, newline, Option.some.injEq] at next
      exact ⟨literal.1, next.symm⟩
    · rintro ⟨plain, rfl⟩
      refine ⟨'\n' :: after, ?_, newline after⟩
      rw [(readLiteral_eq_iff unclosed).mpr ⟨plain, rfl⟩, Option.bind_some, closing,
        Option.map_some]

theorem readAssignment_loadStatement_iff :
    readAssignment names ((loadStatement file).toList ++ '\n' :: rest) =
      some (file.assignment, after) ↔
        isAssignable file.loadAs ∧ isPlain file.dataPath.toList ∧ after = rest := by
  have ends := @takeWhile_identifier _ file.identifier ' ' rfl
    ('=' :: ' ' :: ((loadValue file).toList ++ '\n' :: rest))
  have shape : (loadStatement file).toList ++ '\n' :: rest =
      file.loadAs.toList ++ ' ' :: '=' :: ' ' :: ((loadValue file).toList ++ '\n' :: rest) := by
    rw [loadStatement_eq]
    simp only [String.toList_append, List.append_assoc]
    rfl
  have equals : ∀ text, expect " = " (' ' :: '=' :: ' ' :: text) = some text := expect_append " = "
  rw [← @readValue_loadValue_iff names, shape, readAssignment, ends.1, ends.2,
    String.ofList_toList, equals]
  by_cases assignable : isAssignable file.loadAs
  · simp only [assignable, if_true, true_and, Option.bind_eq_bind, Option.bind_some,
      FileReference.assignment]
    constructor
    · intro read
      rcases Option.bind_eq_some_iff.mp read with ⟨⟨⟨reader, path⟩, line⟩, value, next⟩
      rcases Option.bind_eq_some_iff.mp next with ⟨closed, newline, same⟩
      simp only [Option.pure_def, Option.some.injEq, Prod.mk.injEq, Assignment.mk.injEq] at same
      rcases same with ⟨⟨-, readerIs, pathIs⟩, afterIs⟩
      rw [readerIs, pathIs] at value
      rw [afterIs] at newline
      exact ⟨line, value, newline⟩
    · rintro ⟨line, value, newline⟩
      rw [value, Option.bind_some]
      dsimp only
      rw [newline, Option.bind_some]
      rfl
  · simp [assignable]

end

theorem readAssignments_loadStatements_iff (files : List FileReference)
    (rest after : List Char) :
    readAssignments names files.length
      ((files.flatMap fun file => (loadStatement file).toList ++ ['\n']) ++ rest) =
        some (files.map FileReference.assignment, after) ↔
          (∀ file ∈ files, isAssignable file.loadAs ∧ isPlain file.dataPath.toList) ∧
            after = rest := by
  induction files with
  | nil =>
    have nothing : readAssignments names 0 rest = some ([], rest) := rfl
    simp only [List.length_nil, List.flatMap_nil, List.nil_append, List.map_nil, nothing,
      Option.some.injEq, Prod.mk.injEq, true_and, List.not_mem_nil, false_implies,
      implies_true]
    exact eq_comm
  | cons file files ih =>
    have shape : (((file :: files).flatMap fun file => (loadStatement file).toList ++ ['\n'])
        ++ rest) = (loadStatement file).toList ++ '\n' ::
          ((files.flatMap fun file => (loadStatement file).toList ++ ['\n']) ++ rest) := by
      simp
    have first := @readAssignment_loadStatement_iff names file
      ((files.flatMap fun file => (loadStatement file).toList ++ ['\n']) ++ rest)
    rw [shape, List.length_cons, readAssignments, List.forall_mem_cons, List.map_cons]
    constructor
    · intro read
      rcases Option.bind_eq_some_iff.mp read with ⟨⟨assignment, line⟩, here, next⟩
      rcases Option.bind_eq_some_iff.mp next with ⟨⟨more, last⟩, later, same⟩
      simp only [Option.pure_def, Option.some.injEq, Prod.mk.injEq, List.cons.injEq] at same
      rcases same with ⟨⟨rfl, rfl⟩, rfl⟩
      rcases (first line).mp here with ⟨assignable, plain, rfl⟩
      rcases ih.mp later with ⟨others, rfl⟩
      exact ⟨⟨⟨assignable, plain⟩, others⟩, rfl⟩
    · rintro ⟨⟨⟨assignable, plain⟩, others⟩, rfl⟩
      rw [(first _).mpr ⟨assignable, plain, rfl⟩]
      simp only [Option.bind_eq_bind, Option.bind_some]
      rw [ih.mpr ⟨others, rfl⟩]
      rfl

theorem isPlain_dataPath (file : FileReference) :
    isPlain file.dataPath.toList = isPlain file.filename.toList := by
  rw [FileReference.dataPath, String.toList_append]
  apply isPlain_append
  simp [backslash, quote, isNewline]

def DownloadSettings.content (settings : DownloadSettings) (file : FileReference) : List UInt8 :=
  match settings.fetch file.storageKey with
  | .unreachable _ => []
  | .answered _ content => content

section

variable {settings : DownloadSettings} {files : List FileReference}

theorem downloadLoop_ok {totalBytes : Nat} {directory result : DataDirectory}
    (downloaded : downloadLoop settings files totalBytes directory = .ok result) : (∀ file ∈ files,
      settings.fetch file.storageKey = .answered 200 (settings.content file)) ∧
        result = directory.setAll
          (files.map fun file => (file.filename, settings.content file)) := by
  induction files generalizing totalBytes directory with
  | nil =>
    rw [downloadLoop, Except.ok.injEq] at downloaded
    exact ⟨fun _ member => absurd member List.not_mem_nil, downloaded.symm⟩
  | cons file files ih =>
    rw [downloadLoop] at downloaded
    split at downloaded
    · cases downloaded
    · next status content answered =>
      split at downloaded
      · cases downloaded
      · split at downloaded
        · cases downloaded
        · next ok =>
          have is200 : status = 200 := not_not.mp ok
          have same : settings.content file = content := by
            rw [DownloadSettings.content, answered]
          split at downloaded
          · cases downloaded
          · split at downloaded
            · rcases ih downloaded with ⟨others, written⟩
              constructor
              · rw [List.forall_mem_cons]
                exact ⟨by rw [answered, is200, same], others⟩
              · rw [written, List.map_cons, same]
                rfl
            · cases downloaded

theorem downloadFiles_copies_iff
    {directory : DataDirectory} (downloaded : downloadFiles settings files = .ok directory) :
    (∀ file ∈ files, ∃ content, settings.fetch file.storageKey = .answered 200 content ∧
      directory.get? file.filename = some content) ↔
        ∀ file ∈ files, ∀ other ∈ files, file.filename = other.filename →
          settings.fetch file.storageKey = settings.fetch other.storageKey := by
  rcases downloadLoop_ok downloaded with ⟨answered, written⟩
  constructor
  · intro copies file member other otherMember same
    rcases copies file member with ⟨content, fetched, stored⟩
    rcases copies other otherMember with ⟨otherContent, otherFetched, otherStored⟩
    rw [same, otherStored, Option.some.injEq] at stored
    rw [fetched, otherFetched, stored]
  · intro ownName file member
    refine ⟨settings.content file, answered file member, ?_⟩
    rw [written]
    apply Dict.get?_setAll_of_agree
    · intro entry inside same
      rcases List.mem_map.mp inside with ⟨other, otherMember, rfl⟩
      have fetched := ownName other otherMember file member same
      rw [answered other otherMember, answered file member] at fetched
      exact (Fetched.answered.inj fetched).2
    · rw [List.map_map]
      exact List.mem_map.mpr ⟨file, member, rfl⟩

end

theorem readProgram_iff (request : ExecutionRequest) : readProgram names request.files.length
      (generatePreamble request.files ++ request.code) =
        some (request.files.map FileReference.assignment, request.code.toList) ↔
          ∀ file ∈ request.files,
            isAssignable file.loadAs ∧ isPlain file.filename.toList := by
  have imports : (standardImports ++ "\n").toList = standardImports.toList ++ ['\n'] := by
    rw [String.toList_append]
    rfl
  rw [readProgram, program_toList, ← imports, expect_append]
  simp only [Option.bind_eq_bind, Option.bind_some, readAssignments_loadStatements_iff,
    isPlain_dataPath, and_true]

/-- For a request whose files were downloaded, the assembled program is as promised
exactly when the request can be substituted. -/
theorem asPromised_iff (names : List Char → Option Nat) (settings : DownloadSettings)
    (request : ExecutionRequest) (directory : DataDirectory) (program : String)
    (assembled : assemble settings request = .ok (directory, program)) :
    AsPromised names settings request directory program ↔
      Substitutable settings request := by
  rcases bind_eq_ok.mp assembled with ⟨files, downloaded, same⟩
  cases same
  have reads := @readProgram_iff names request
  have copies := downloadFiles_copies_iff downloaded
  constructor
  · intro promised
    have each := reads.mp promised.reading
    exact ⟨fun file member => (each file member).2, fun file member => (each file member).1,
      promised.unshadowed, copies.mp promised.copies⟩
  · intro substitutable
    constructor
    · apply reads.mpr
      intro file member
      exact ⟨substitutable.assignable file member, substitutable.plain file member⟩
    · exact copies.mpr substitutable.ownName
    · exact substitutable.unshadowed

def oneByteStorage : DownloadSettings where
  fetch := fun _ => .answered 200 [97]
  takesName := fun name => name != "" && name != "."
  maxTotalFileSizeMb := 100

def accessLogs : FileReference where
  storageKey := "acme/soc2/access_logs.csv"
  loadAs := "df1"
  type := .csv
  keyNonempty := by decide
  noTraversal := by decide
  notAbsolute := by decide
  noNull := by decide
  identifier := by decide
  nameLength := by decide

def countRows (file : FileReference) : ExecutionRequest where
  code := "print(len(df1))"
  files := [file]
  codeNonempty := by decide
  codeLength := by decide
  distinct := List.nodup_singleton _

theorem asPromised_accessLogs : AsPromised (fun _ => none) oneByteStorage (countRows accessLogs)
      (Dict.empty.set "access_logs.csv" [97])
      (generatePreamble [accessLogs] ++ "print(len(df1))") := by
  apply (asPromised_iff (fun _ => none) oneByteStorage (countRows accessLogs) _ _ rfl).mpr
  constructor
  · simp only [countRows, List.forall_mem_singleton]
    decide
  · simp only [countRows, List.forall_mem_singleton]
    decide
  · simp only [countRows, List.forall_mem_singleton]
    decide
  · exact fun _ _ _ _ _ => rfl

def closingKey : FileReference where
  storageKey := "acme/a');print('b.csv"
  loadAs := "df1"
  type := .csv
  keyNonempty := by decide
  noTraversal := by decide
  notAbsolute := by decide
  noNull := by decide
  identifier := by decide
  nameLength := by decide

/-- The rest of such a key is code of its own. -/
theorem closingKey_not_asPromised : assemble oneByteStorage (countRows closingKey) =
      .ok (Dict.empty.set "a');print('b.csv" [97],
        generatePreamble [closingKey] ++ "print(len(df1))") ∧
      loadStatement closingKey = "df1 = pd.read_csv('/tmp/data/a');print('b.csv')" ∧
      ¬ AsPromised (fun _ => none) oneByteStorage (countRows closingKey)
        (Dict.empty.set "a');print('b.csv" [97])
        (generatePreamble [closingKey] ++ "print(len(df1))") := by
  constructor
  · rfl
  constructor
  · rfl
  · intro promised
    have plain := (readProgram_iff (countRows closingKey)).mp promised.reading closingKey
      (List.mem_singleton_self _)
    exact absurd plain.2 (by decide)

end Onpremai.SandboxService
