import PlanCompiler.Api.Message
import PlanCompiler.Text.Run

/-!
# Routes

Which handler a method and a path lead to. The routes are tried in their order; a parameter stands
for one segment that is not empty. A path that some route has, but not for this method, is told
apart from a path that no route has, and so is a path that some route has without the slashes at its
end.

* `routes`: the table of routes;
* `dispatch`: the first route that fits.
-/

namespace PlanCompiler.Api

/-- What a request asks for. -/
inductive Target
  /-- The description of the service, as data or as a page. -/
  | manual
  | health
  | ready
  | listStrategies
  | organized
  | exportStrategies
  | importStrategies
  | byCategory
  | bySection
  | bySubsection
  | getStrategy
  | addStrategy
  | updateStrategy
  | deleteStrategy
  | listCustom
  | addCustom
  | updateCustom
  | deleteCustom
  | getConfigs
  | saveConfigs
  | generateReport
  | listReports
  | getReport
  | exportReport
  deriving DecidableEq, Repr

/-- A segment of a route's path. -/
inductive Segment
  | fixed (name : String)
  | parameter
  deriving DecidableEq, Repr

/-- A route. -/
structure Route where
  method : Method
  path : List Segment
  target : Target
  deriving DecidableEq, Repr

/-- The path of a route below the given names. -/
def under (names : List String) (rest : List Segment := []) : List Segment :=
  names.map .fixed ++ rest

/-- The routes, in the order in which they are tried. -/
def routes : List Route := [
  ⟨.get, under ["openapi.json"], .manual⟩,
  ⟨.head, under ["openapi.json"], .manual⟩,
  ⟨.get, under ["docs"], .manual⟩,
  ⟨.head, under ["docs"], .manual⟩,
  ⟨.get, under ["docs", "oauth2-redirect"], .manual⟩,
  ⟨.head, under ["docs", "oauth2-redirect"], .manual⟩,
  ⟨.get, under ["redoc"], .manual⟩,
  ⟨.head, under ["redoc"], .manual⟩,
  ⟨.get, under ["health"], .health⟩,
  ⟨.get, under ["ready"], .ready⟩,
  ⟨.get, under ["api", "strategies"], .listStrategies⟩,
  ⟨.get, under ["api", "strategies", "organized"], .organized⟩,
  ⟨.get, under ["api", "strategies", "export"], .exportStrategies⟩,
  ⟨.post, under ["api", "strategies", "import"], .importStrategies⟩,
  ⟨.get, under ["api", "strategies", "category"] [.parameter], .byCategory⟩,
  ⟨.get, under ["api", "strategies", "section"] [.parameter], .bySection⟩,
  ⟨.get, under ["api", "strategies", "subsection"] [.parameter], .bySubsection⟩,
  ⟨.get, under ["api", "strategies"] [.parameter], .getStrategy⟩,
  ⟨.post, under ["api", "strategies"], .addStrategy⟩,
  ⟨.put, under ["api", "strategies"] [.parameter], .updateStrategy⟩,
  ⟨.delete, under ["api", "strategies"] [.parameter], .deleteStrategy⟩,
  ⟨.get, under ["api", "custom-strategies"], .listCustom⟩,
  ⟨.post, under ["api", "custom-strategies"], .addCustom⟩,
  ⟨.put, under ["api", "custom-strategies"] [.parameter], .updateCustom⟩,
  ⟨.delete, under ["api", "custom-strategies"] [.parameter], .deleteCustom⟩,
  ⟨.get, under ["api", "client-strategy-configs"] [.parameter], .getConfigs⟩,
  ⟨.post, under ["api", "client-strategy-configs"] [.parameter], .saveConfigs⟩,
  ⟨.post, under ["api", "reports", "generate"], .generateReport⟩,
  ⟨.get, under ["api", "reports"], .listReports⟩,
  ⟨.get, under ["api", "reports"] [.parameter], .getReport⟩,
  ⟨.get, under ["api", "reports"] [.parameter, .fixed "export"], .exportReport⟩]

/-- The segments of a path that begins with a slash. -/
def segments? (path : List Char) : Option (List String) :=
  match Text.parts '/' path with
  | [] :: parts => some (parts.map String.ofList)
  | _ => none

/-- The value of the parameter when the segments fit the path of a route, empty for a route without
one. A line feed at the very end is overlooked after a fixed segment. -/
def fit? (path : List Segment) (segments : List String) : Option String :=
  match path, segments with
  | [], [] => some ""
  | [.fixed name], [last] => if last = name ∨ last = name ++ "\n" then some "" else none
  | .fixed name :: path, s :: segments => if s = name then fit? path segments else none
  | .parameter :: path, s :: segments =>
    if s.isEmpty then none else (fit? path segments).map fun _ => s
  | _, _ => none

/-- What a method and a path lead to. -/
inductive Dispatch
  | found (target : Target) (parameter : String)
  | wrongMethod
  /-- Some route has the path without the slashes at its end. -/
  | moved
  | unknown
  deriving DecidableEq, Repr

/-- The routes that fit a path, each with the value of its parameter. -/
def fitting (path : List Char) : List (Route × String) :=
  match segments? path with
  | none => []
  | some segments => routes.filterMap fun r => (fit? r.path segments).map fun value => (r, value)

/-- A path without the slashes at its end. -/
def withoutEndSlashes (path : List Char) : List Char :=
  (path.reverse.dropWhile (· = '/')).reverse

/-- The first route that fits path and method. -/
def dispatch (method : Method) (path : String) : Dispatch :=
  let candidates := fitting path.toList
  match candidates.find? fun entry => entry.1.method = method with
  | some (route, value) => .found route.target value
  | none =>
    if !candidates.isEmpty then .wrongMethod
    else if path.toList.getLast? = some '/' && !(fitting (withoutEndSlashes path.toList)).isEmpty
      then .moved
    else .unknown

end PlanCompiler.Api
