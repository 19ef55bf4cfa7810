import Onpremai.Library.Dict
import Onpremai.Library.Text

/-!
# The assembled program

Execution requests as the validators let them through, the download of their files,
and the text of the program that is run for them.
-/

namespace Onpremai.SandboxService

open Library

inductive FileType where
  | csv
  | excel
  | parquet
  | json
  | pdf
  deriving DecidableEq

def isIdentStart (char : Char) : Bool :=
  ('a' ≤ char && char ≤ 'z') || ('A' ≤ char && char ≤ 'Z') || char == '_'

def isIdentChar (char : Char) : Bool := isIdentStart char || ('0' ≤ char && char ≤ '9')

/-- The pattern `^[a-zA-Z_][a-zA-Z0-9_]*$`. -/
def isIdentifier (text : String) : Bool :=
  match text.toList with
  | [] => false
  | first :: rest => isIdentStart first && rest.all isIdentChar

/-- A file reference that passed its validators. -/
structure FileReference where
  storageKey : String
  loadAs : String
  type : FileType
  keyNonempty : storageKey ≠ ""
  noTraversal : Text.contains ".." storageKey = false
  notAbsolute : Text.startsWith "/" storageKey = false
  noNull : Char.ofNat 0 ∉ storageKey.toList
  identifier : isIdentifier loadAs = true
  nameLength : loadAs.length ≤ 64

/-- An execution request that passed its validators. -/
structure ExecutionRequest where
  code : String
  files : List FileReference
  codeNonempty : 1 ≤ code.length
  codeLength : code.length ≤ 1000000
  distinct : (files.map FileReference.loadAs).Nodup

def FileReference.filename (file : FileReference) : String := Text.afterLastSlash file.storageKey

/-- What a request to the storage comes back with. -/
inductive Fetched where
  | unreachable (exc : String)
  | answered (status : Nat) (content : List UInt8)
  deriving DecidableEq

inductive DownloadError where
  | storageDownloadError (message storageKey : String) (statusCode : Nat)
  /-- The file system refuses the file name. -/
  | osError
  deriving DecidableEq

/-- The storage, the file system of the data directory and the size limit. -/
structure DownloadSettings where
  fetch : String → Fetched
  takesName : String → Bool
  maxTotalFileSizeMb : Nat

abbrev DataDirectory := Dict String (List UInt8)

def downloadLoop (settings : DownloadSettings) :
    List FileReference → Nat → DataDirectory → Except DownloadError DataDirectory
  | [], _, directory => .ok directory
  | file :: rest, totalBytes, directory =>
    match settings.fetch file.storageKey with
    | .unreachable exc =>
      .error (.storageDownloadError ("Storage unreachable: " ++ exc) file.storageKey 502)
    | .answered status content =>
      if status = 404 then
        .error (.storageDownloadError ("File not found in storage: " ++ file.storageKey)
          file.storageKey 404)
      else if status ≠ 200 then
        .error (.storageDownloadError ("Storage returned " ++ toString status ++ " for " ++
          file.storageKey) file.storageKey status)
      else if settings.maxTotalFileSizeMb * 1024 * 1024 < totalBytes + content.length then
        .error (.storageDownloadError ("Total file size exceeds limit of " ++
          toString settings.maxTotalFileSizeMb ++ "MB") file.storageKey 413)
      else if settings.takesName file.filename then
        downloadLoop settings rest (totalBytes + content.length)
          (directory.set file.filename content)
      else .error .osError

def downloadFiles (settings : DownloadSettings) (files : List FileReference) :
    Except DownloadError DataDirectory :=
  downloadLoop settings files 0 Dict.empty

/-- `_STANDARD_IMPORTS`; the braces are written by their codes. -/
def standardImportLines : List String := ["import builtins as _builtins",
   "_original_import = _builtins.__import__",
   "_BLOCKED_MODULES = frozenset(\x7b",
   "    'os', 'subprocess', 'shutil', 'socket', 'http', 'urllib',",
   "    'requests', 'httpx', 'sqlite3', 'psycopg2', 'pymongo',",
   "    'pickle', 'shelve', 'ctypes', 'cffi', 'importlib',",
   "    'multiprocessing', 'threading', 'signal', 'pty', 'pipes',",
   "    'webbrowser', 'antigravity', 'turtle',",
   "\x7d)",
   "",
   "def _safe_import(name, *args, **kwargs):",
   "    top_level = name.split('.')[0]",
   "    if top_level in _BLOCKED_MODULES:",
   "        raise ImportError(f\"Module '\x7bname\x7d' is not available in sandbox\")",
   "    return _original_import(name, *args, **kwargs)",
   "",
   "_builtins.__import__ = _safe_import",
   "del _original_import",
   "",
   "import pandas as pd",
   "import numpy as np",
   "import json",
   "import re",
   "import hashlib",
   "from datetime import datetime, timedelta",
   "from collections import Counter, defaultdict",
   "from pathlib import Path",
   "import warnings",
   "warnings.filterwarnings('ignore')",
   ""]

def standardImports : String := Text.joinLines standardImportLines

/-- `_READER_MAP`: the text of a reader call before and after its `{path}`. -/
def readerMap : FileType → Option (String × String)
  | .csv => some ("pd.read_csv('", "')")
  | .excel => some ("pd.read_excel('", "')")
  | .parquet => some ("pd.read_parquet('", "')")
  | .json => some ("pd.read_json('", "')")
  | .pdf => none

def FileReference.dataPath (file : FileReference) : String := "/tmp/data/" ++ file.filename

def loadStatement (file : FileReference) : String :=
  match readerMap file.type with
  | none => file.loadAs ++ " = '" ++ file.dataPath ++ "'"
  | some (before, after) => file.loadAs ++ " = " ++ (before ++ file.dataPath ++ after)

def generatePreamble (files : List FileReference) : String :=
  Text.joinLines (standardImports :: files.map loadStatement ++ [""])

/-- What `execute` mounts into the container: the data directory and the program. -/
def assemble (settings : DownloadSettings) (request : ExecutionRequest) :
    Except DownloadError (DataDirectory × String) := do
  let directory ← downloadFiles settings request.files
  return (directory, generatePreamble request.files ++ request.code)

theorem intercalate_newline_nil (first : List Char) (rest : List (List Char)) :
    List.intercalate ['\n'] (first :: rest ++ [[]]) =
      first ++ '\n' :: rest.flatMap fun line => line ++ ['\n'] := by
  induction rest generalizing first with
  | nil => simp [List.intercalate]
  | cons line rest ih =>
    have step : List.intercalate ['\n'] (first :: line :: rest ++ [[]]) =
        first ++ ['\n'] ++ List.intercalate ['\n'] (line :: rest ++ [[]]) := by
      simp [List.intercalate]
    rw [step, ih]
    simp

theorem program_toList (request : ExecutionRequest) :
    (generatePreamble request.files ++ request.code).toList = (standardImports.toList ++ ['\n']) ++
        ((request.files.flatMap fun file => (loadStatement file).toList ++ ['\n']) ++
          request.code.toList) := by
  rw [String.toList_append, generatePreamble, Text.joinLines, String.toList_ofList]
  have mapped : (standardImports :: request.files.map loadStatement ++ [""]).map String.toList =
      standardImports.toList :: (request.files.map fun file => (loadStatement file).toList) ++
        [[]] := by
    simp
  rw [mapped, intercalate_newline_nil, List.flatMap_map]
  simp

end Onpremai.SandboxService
