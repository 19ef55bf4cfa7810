import Onpremai.Library.Dict

/-!
# Static import check

User code is parsed and its syntax tree is walked before any container is created.
The model starts from the outcome of the parser: the nodes of the tree, as far as the
check tells them apart, or its syntax error.
-/

namespace Onpremai.SandboxService

/-- `name.split(".")[0]`. -/
def topLevel (name : String) : String :=
  String.ofList (name.toList.takeWhile fun char => char != '.')

/-- `BLOCKED_MODULES` of the static check. -/
def blockedModules : List String :=
  [ -- Shell / process execution
   "os", "subprocess", "shutil", "pty", "pipes", "multiprocessing", "threading", "signal",
   -- Network
   "socket", "http", "urllib", "requests", "httpx", "ftplib", "smtplib", "telnetlib",
   "xmlrpc", "webbrowser",
   -- Databases
   "sqlite3", "psycopg2", "pymongo", "mysql",
   -- Deserialization
   "pickle", "shelve", "marshal",
   -- Native code / FFI
   "ctypes", "cffi",
   -- Dynamic imports
   "importlib",
   -- System internals
   "sys", "code", "codeop", "compile", "compileall", "py_compile", "inspect",
   -- Misc dangerous
   "antigravity", "turtle"]

def blockedAttributes : List (String × String) :=
  [("os", "system"), ("os", "popen"), ("os", "exec"), ("os", "execv"), ("os", "execve"),
   ("os", "spawn"), ("os", "spawnl"), ("os", "fork"), ("os", "kill"), ("os", "unlink"),
   ("os", "remove"), ("os", "rmdir"), ("shutil", "rmtree"), ("shutil", "move")]

/-- A node of the syntax tree. -/
inductive AstNode where
  /-- `import a, b as c`: the names of its aliases. -/
  | importNames (names : List String)
  /-- `from m import ...`; a relative import may lack the module. -/
  | importFrom (module : Option String)
  /-- A call of a plain name. -/
  | callName (id : String)
  /-- A call of an attribute of a plain name. -/
  | callAttribute (value attr : String)
  | other

structure SyntaxError where
  msg : String
  lineno : Nat

def blockedImport (what topModule : String) : String :=
  "Blocked import: '" ++ what ++ "' (module '" ++ topModule ++ "' is not available in sandbox)"

def violationsOf : AstNode → List String
  | .importNames names =>
    names.filterMap fun name =>
      if topLevel name ∈ blockedModules then some (blockedImport name (topLevel name))
      else none
  | .importFrom none => []
  | .importFrom (some module) =>
    if module ≠ "" ∧ topLevel module ∈ blockedModules then
      [blockedImport ("from " ++ module ++ " import ...") (topLevel module)]
    else []
  | .callName id =>
    if id ∈ ["eval", "exec", "compile", "__import__"] then
      ["Blocked call: '" ++ id ++ "()' is not allowed in sandbox"]
    else []
  | .callAttribute value attr =>
    if (value, attr) ∈ blockedAttributes then
      ["Blocked call: '" ++ value ++ "." ++ attr ++ "()' is not allowed in sandbox"]
    else []
  | .other => []

def checkCodeSafety : Except SyntaxError (List AstNode) → List String
  | .error error => ["SyntaxError: " ++ error.msg ++ " (line " ++ toString error.lineno ++ ")"]
  | .ok nodes => nodes.flatMap violationsOf

theorem checkCodeSafety_eq_nil {nodes : List AstNode} :
    checkCodeSafety (.ok nodes) = [] ↔ ∀ node ∈ nodes, violationsOf node = [] := by
  rw [checkCodeSafety, List.flatMap_eq_nil_iff]

/-- Does the check let `import name` pass? -/
def PassesCheck (name : String) : Prop := checkCodeSafety (.ok [.importNames [name]]) = []

theorem passesCheck_iff (name : String) :
    PassesCheck name ↔ topLevel name ∉ blockedModules := by
  rw [PassesCheck, checkCodeSafety_eq_nil, List.forall_mem_singleton, violationsOf]
  simp

end Onpremai.SandboxService

/-!
## Runtime import hook

The preamble replaces `__import__` by a function that checks the module first.  The
function finds the names it uses among the globals of the program when it is called,
not when it is defined, so what the preamble does to these globals afterwards
matters.
-/

namespace Onpremai.SandboxService

open Library

/-- The other arguments of an import that this program passes on. -/
structure ImportArgs where
  fromlist : List String := []
  level : Nat := 0

inductive Raised where
  | importError (message : String)
  | nameError (name : String)
  | typeError
  | recursionError
  | other (kind message : String)
  deriving DecidableEq

/-- What the names of the program are bound to. -/
inductive Value where
  | module (name : String)
  | member (module name : String)
  | names (names : List String)
  | originalImport
  | safeImport

abbrev Importer := String → ImportArgs → Except Raised Value

/-- The globals of the program, and the `__import__` that `import` statements call. -/
structure Interpreter where
  globals : Dict String Value
  builtinsImport : Value

/-- `_BLOCKED_MODULES` of the preamble. -/
def hookBlockedModules : List String := ["os", "subprocess", "shutil", "socket", "http", "urllib",
   "requests", "httpx", "sqlite3", "psycopg2", "pymongo",
   "pickle", "shelve", "ctypes", "cffi", "importlib",
   "multiprocessing", "threading", "signal", "pty", "pipes",
   "webbrowser", "antigravity", "turtle"]

section

variable (original : Importer)

/-- `_safe_import`, with the globals as they are when it is called. -/
def safeImport (globals : Dict String Value) : Importer := fun name args =>
  match globals.get? "_BLOCKED_MODULES" with
  | none => .error (.nameError "_BLOCKED_MODULES")
  | some (.names blocked) =>
    if topLevel name ∈ blocked then
      .error (.importError ("Module '" ++ name ++ "' is not available in sandbox"))
    else match globals.get? "_original_import" with
      | none => .error (.nameError "_original_import")
      | some .originalImport => original name args
      | some .safeImport => .error .recursionError
      | some _ => .error .typeError
  | some _ => .error .typeError

/-- An `import` statement calls whatever `builtins.__import__` is. -/
def importModule (state : Interpreter) : Importer := fun name args =>
  match state.builtinsImport with
  | .originalImport => original name args
  | .safeImport => safeImport original state.globals name args
  | _ => .error .typeError

end

/-- The statements of the standard imports. -/
inductive Statement where
  /-- `import builtins as target`; the module is always loaded. -/
  | importBuiltins (target : String)
  /-- `target = source.__import__`, where `source` is `builtins`. -/
  | takeImport (target source : String)
  /-- `target = frozenset({...})`. -/
  | assignNames (target : String) (names : List String)
  /-- `def _safe_import(name, *args, **kwargs): ...`. -/
  | defSafeImport
  /-- `target.__import__ = source`, where `target` is `builtins`. -/
  | putImport (target source : String)
  | del (name : String)
  /-- `import module as target`. -/
  | importAs (module target : String)
  | importFrom (module : String) (names : List String)
  /-- `warnings.filterwarnings('ignore')`. -/
  | filterWarnings

namespace Interpreter

def lookup (state : Interpreter) (name : String) : Except Raised Value :=
  match state.globals.get? name with
  | none => .error (.nameError name)
  | some value => .ok value

def bind (state : Interpreter) (name : String) (value : Value) : Interpreter :=
  { state with globals := state.globals.set name value }

def unbind (state : Interpreter) (name : String) : Interpreter :=
  { state with globals := Dict.ofList (state.globals.entries.filter fun entry =>
      entry.1 != name) }

end Interpreter

def exec (original : Importer) (state : Interpreter) : Statement → Except Raised Interpreter
  | .importBuiltins target => return state.bind target (.module "builtins")
  | .takeImport target source => do
    let _ ← state.lookup source
    return state.bind target state.builtinsImport
  | .assignNames target names => return state.bind target (.names names)
  | .defSafeImport => return state.bind "_safe_import" .safeImport
  | .putImport target source => do
    let value ← state.lookup source
    let _ ← state.lookup target
    return { state with builtinsImport := value }
  | .del name => do
    let _ ← state.lookup name
    return state.unbind name
  | .importAs module target => do
    let value ← importModule original state module {}
    return state.bind target value
  | .importFrom module names => do
    let _ ← importModule original state module { fromlist := names }
    return names.foldl (fun acc name => acc.bind name (.member module name)) state
  | .filterWarnings => do
    let _ ← state.lookup "warnings"
    return state

/-- The first part of the standard imports. -/
def hookInstallation : List Statement := [.importBuiltins "_builtins",
   .takeImport "_original_import" "_builtins",
   .assignNames "_BLOCKED_MODULES" hookBlockedModules,
   .defSafeImport,
   .putImport "_builtins" "_safe_import",
   .del "_original_import"]

/-- The second part of the standard imports. -/
def libraryImports : List Statement := [.importAs "pandas" "pd", .importAs "numpy" "np",
   .importAs "json" "json",
   .importAs "re" "re",
   .importAs "hashlib" "hashlib",
   .importFrom "datetime" ["datetime", "timedelta"],
   .importFrom "collections" ["Counter", "defaultdict"],
   .importFrom "pathlib" ["Path"],
   .importAs "warnings" "warnings",
   .filterWarnings]

def startOfProgram : Interpreter := ⟨Dict.empty, .originalImport⟩

def hookedImport (original : Importer) (name : String) (args : ImportArgs) :
    Except Raised Value := do
  let state ← hookInstallation.foldlM (exec original) startOfProgram
  importModule original state name args

def hooked : Interpreter where
  globals := Dict.ofList [("_builtins", .module "builtins"),
    ("_BLOCKED_MODULES", .names hookBlockedModules), ("_safe_import", .safeImport)]
  builtinsImport := .safeImport

section

variable (original : Importer)

theorem hookInstallation_run :
    hookInstallation.foldlM (exec original) startOfProgram = .ok hooked := rfl

theorem importModule_hooked (name : String) (args : ImportArgs) :
    importModule original hooked name args = if topLevel name ∈ hookBlockedModules then
        .error (.importError ("Module '" ++ name ++ "' is not available in sandbox"))
      else .error (.nameError "_original_import") := rfl

theorem hookedImport_eq (name : String) (args : ImportArgs) : hookedImport original name args =
      if topLevel name ∈ hookBlockedModules then
        .error (.importError ("Module '" ++ name ++ "' is not available in sandbox"))
      else .error (.nameError "_original_import") := by
  rw [hookedImport, hookInstallation_run]
  exact importModule_hooked original name args

end

theorem hookBlockedModules_subset {name : String} (inHook : name ∈ hookBlockedModules) :
    name ∈ blockedModules := by
  revert name
  decide

/-- The hook and the static check agree on a module: what the check blocks raises
`ImportError`, and everything else is imported as without the hook. -/
structure HookAgrees (original : Importer) (name : String) : Prop where
  blocked : ¬ PassesCheck name → ∀ args, ∃ message,
    hookedImport original name args = .error (.importError message)
  passed : PassesCheck name → ∀ args, hookedImport original name args = original name args

/-- The agreement holds for exactly the modules of the hook's own list, apart from
those whose original import raises the hook's `NameError` by itself. -/
theorem hookAgrees_iff (original : Importer) (name : String) : HookAgrees original name ↔
      topLevel name ∈ hookBlockedModules ∨ (PassesCheck name ∧
          ∀ args, original name args = .error (.nameError "_original_import")) := by
  constructor
  · intro agrees
    by_cases inHook : topLevel name ∈ hookBlockedModules
    · exact Or.inl inHook
    · right
      have always : ∀ args, hookedImport original name args =
          .error (.nameError "_original_import") := by
        intro args
        rw [hookedImport_eq, if_neg inHook]
      by_cases passes : PassesCheck name
      · constructor
        · exact passes
        · intro args
          rw [← agrees.passed passes args]
          exact always args
      · rcases agrees.blocked passes {} with ⟨message, raised⟩
        rw [always] at raised
        cases raised
  · rintro (inHook | ⟨passes, same⟩)
    · constructor
      · intro _ args
        exact ⟨_, by rw [hookedImport_eq, if_pos inHook]⟩
      · intro passes
        exact absurd (hookBlockedModules_subset inHook) ((passesCheck_iff name).mp passes)
    · constructor
      · intro fails
        exact absurd passes fails
      · intro _ args
        have outside : topLevel name ∉ hookBlockedModules := fun inHook =>
          (passesCheck_iff name).mp passes (hookBlockedModules_subset inHook)
        rw [hookedImport_eq, if_neg outside, same args]

/-- `pandas` passes the static check and cannot be imported, `sys` does not pass and
does not raise `ImportError` either. -/
theorem pandas_and_sys_disagree : ¬ HookAgrees (fun name _ => .ok (.module name)) "pandas" ∧
      ¬ HookAgrees (fun name _ => .ok (.module name)) "sys" := by
  constructor
  · intro agrees
    have passes : PassesCheck "pandas" := by
      rw [passesCheck_iff]
      decide
    cases agrees.passed passes {}
  · intro agrees
    have fails : ¬ PassesCheck "sys" := by
      rw [passesCheck_iff]
      decide
    rcases agrees.blocked fails {} with ⟨message, raised⟩
    cases raised

end Onpremai.SandboxService
