import Mathlib.Data.List.DropRight
import Mathlib.Data.List.SplitOn

/-!
# Routing

A router tries its routes in order.  A path that only fits routes of other methods is told apart
from a path that fits none, and from one that fits after a slash at its end is added or removed.
-/

namespace Onpremai.Library.Routing

universe u

inductive Method where
  | get
  | put
  | post
  | delete
  deriving DecidableEq, Repr

/-- A segment of a path template: itself, or any text that is not empty. -/
inductive Part where
  | literal (text : String)
  | parameter
  deriving DecidableEq, Repr

structure Route (ε : Type u) where
  method : Method
  path : List Part
  endpoint : ε

instance : Coe String Part := ⟨.literal⟩

def segments (path : String) : List String := ((path.toList.splitOn '/').map String.ofList).tail

/-- Does the path have the form of the template? -/
def fits : List Part → List String → Bool
  | [], [] => true
  | .literal text :: parts, segment :: rest => decide (text = segment) && fits parts rest
  | .parameter :: parts, segment :: rest => decide (segment ≠ "") && fits parts rest
  | _, _ => false

def toggleSlash (path : List String) : List String :=
  if path.getLast? = some "" then path.rdropWhile fun segment => decide (segment = "")
  else path ++ [""]

/-- What a router makes of a request. -/
inductive Resolution (ε : Type u) where
  | endpoint (endpoint : ε)
  | methodNotAllowed
  | redirect
  | notFound
  deriving DecidableEq, Repr

section

variable {ε : Type u} (routes : List (Route ε)) (method : Method) (path : List String)

def resolve : Resolution ε :=
  match routes.find? fun route => decide (route.method = method) && fits route.path path with
  | some route => .endpoint route.endpoint
  | none =>
    if routes.any fun route => fits route.path path then .methodNotAllowed
    else if path ≠ [""] ∧ routes.any (fun route => fits route.path (toggleSlash path)) = true
    then .redirect
    else .notFound

variable {routes method path}

theorem exists_route_of_resolve {endpoint : ε} (found : resolve routes method path =
    .endpoint endpoint) : ∃ route ∈ routes, route.method = method ∧ route.endpoint = endpoint := by
  rw [resolve] at found
  split at found
  · next route first =>
    cases found
    have fitting := List.find?_some first
    rw [Bool.and_eq_true, decide_eq_true_iff] at fitting
    exact ⟨route, List.mem_of_find?_eq_some first, fitting.1, rfl⟩
  · split_ifs at found

end

end Onpremai.Library.Routing
