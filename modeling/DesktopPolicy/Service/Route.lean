-- Routes: which paths and methods lead to which part of the service.
import DesktopPolicy.Service.Address

namespace DesktopPolicy

inductive Endpoint where
  | grants
  | check
  | roles
  | role
  | roleAudit
  | health
  /-- A description of the service for programs. -/
  | description
  /-- A description of the service to look at. -/
  | page
  deriving DecidableEq, Repr

inductive Segment where
  | fixed (word : String)
  /-- Any text without slashes, given a name. -/
  | parameter (name : String)
  deriving DecidableEq, Repr

/-- A path, and the methods with which it can be asked for. -/
structure Route where
  endpoint : Endpoint
  methods : List String
  segments : List Segment
  deriving DecidableEq, Repr

namespace Route

/-- The parameters that a path gives to steps. Behind a last fixed step a line may end. -/
def bind : List Segment → List String → Option (List (String × String))
  | [], [] => some []
  | [.fixed word], [part] => if part == word || part == word ++ "\n" then some [] else none
  | .fixed word :: segments, part :: parts => if part == word then bind segments parts else none
  | .parameter name :: segments, part :: parts =>
    if part.isEmpty then none else (bind segments parts).map ((name, part) :: ·)
  | _, _ => none

/-- The steps of a path. A path starts with a slash. -/
def steps (path : String) : Option (List String) :=
  match path.toList.splitOn '/' with
  | [] :: parts => some (parts.map String.ofList)
  | _ => none

def parameters? (route : Route) (path : String) : Option (List (String × String)) :=
  (steps path).bind (bind route.segments)

def allows (route : Route) (method : String) : Bool := route.methods.contains method

/-! ## The routes of the service -/

/-- The parameter of a path that names a role. -/
def roleParameter : String := "name"

def pages : List Route := [
  ⟨.page, ["GET", "HEAD"], [.fixed "docs"]⟩,
  ⟨.page, ["GET", "HEAD"], [.fixed "docs", .fixed "oauth2-redirect"]⟩,
  ⟨.page, ["GET", "HEAD"], [.fixed "redoc"]⟩]

/-- The routes of the service. Descriptions for people are there only while it is tried out. -/
def all (debug : Bool) : List Route :=
  ⟨.description, ["GET", "HEAD"], [.fixed "openapi.json"]⟩ :: (if debug then pages else []) ++ [
    ⟨.grants, ["GET"], [.fixed "api", .fixed "access", .fixed "grants"]⟩,
    ⟨.check, ["POST"], [.fixed "api", .fixed "access", .fixed "check"]⟩,
    ⟨.roles, ["GET"], [.fixed "api", .fixed "roles"]⟩,
    ⟨.role, ["GET"], [.fixed "api", .fixed "roles", .parameter roleParameter]⟩,
    ⟨.roleAudit, ["GET"],
      [.fixed "api", .fixed "roles", .parameter roleParameter, .fixed "validate"]⟩,
    ⟨.health, ["GET"], [.fixed "health"]⟩]

inductive Destination where
  | endpoint (endpoint : Endpoint) (parameters : List (String × String))
  | otherMethod
  | withoutSlashes (address : Address)
  | nowhere
  deriving DecidableEq, Repr

def reaches (routes : List Route) (path : String) : Bool :=
  routes.any fun route => (route.parameters? path).isSome

/-- The endpoint of the first route along the path that allows the method. -/
def endpoint? (routes : List Route) (method path : String) :
    Option (Endpoint × List (String × String)) :=
  routes.findSome? fun route =>
    if route.allows method then (route.parameters? path).map (route.endpoint, ·) else none

/-- Where a method and an address lead. -/
def destination (routes : List Route) (method : String) (address : Address) : Destination :=
  match endpoint? routes method address.path with
  | some (endpoint, parameters) => .endpoint endpoint parameters
  | none =>
    let shorter := address.withoutSlashes
    if reaches routes address.path then .otherMethod
    else if shorter.path != address.path && reaches routes shorter.path then .withoutSlashes shorter
    else .nowhere

end Route

end DesktopPolicy
