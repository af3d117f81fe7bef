-- The service. It answers for a roster of roles: what grants someone has, whether they may do
-- something, and which roles there are, as far as they may read them. Whether a role exists is told
-- only to those who may read a role of its name.
import DesktopPolicy.Audit
import DesktopPolicy.Configuration
import DesktopPolicy.Log.Book
import DesktopPolicy.Service.Document
import DesktopPolicy.Service.Message
import DesktopPolicy.Service.Route
import DesktopPolicy.Settings

namespace DesktopPolicy

variable [Dialect]

/-- A service that has been started. -/
structure Service where
  roster : Roster
  settings : Settings
  level : Log.Level

namespace Service

def version : String := "0.1.0"

/-- The name under which the service is asked. -/
def host : String := "testserver"

/-! ## Starting -/

/-- Where a service is started. -/
structure Place where
  environment : Environment := []
  files : String → Configuration.File := fun _ => none
  /-- Puts the items of a set in the order in which they are gone through. -/
  order : List Value → List Value := id
  book : Log.Book := {}
  /-- The log file that is asked for, or why it cannot be started. -/
  logFile : Log.Book.Order → Except Log.Book.Fault Log.LogFile := Log.Book.orderedFile

inductive StartFault where
  | log (fault : Log.Book.Fault)
  | configuration (fault : Configuration.Fault)
  /-- A pattern was refused while the roles were audited. -/
  | refused (refusal : Pattern.Refusal)
  | untitled
  deriving DecidableEq, Repr

def logger : String := Log.qualified "api"

def pathParts (path : String) : List String :=
  ((path.toList.splitOn '/').map String.ofList).filter fun part => part != "" && part != "."

/-- The file at a path, if it is the one file that is there. Its path is not told from a root. -/
def fileAt (name : String) (file : Configuration.File) (path : String) : Configuration.File :=
  if path.toList.head? != some '/' && pathParts path == [name] then file else none

/-- The roles to serve: those that are given, or those of the file in the settings, or the built-in
ones. -/
def definitions (given : Option (List Role)) (settings : Settings) (place : Place) :
    Noted Log.Record StartFault (List Role) :=
  match given, settings.rolesFile with
  | some roles, _ => .answer roles
  | none, some path =>
    if path.isEmpty then .answer (Role.builtins.map Prod.snd)
    else
      (Configuration.loadRoles place.environment place.order path (place.files path)).retell id
        .configuration
  | none, none => .answer (Role.builtins.map Prod.snd)

def auditRecords (roles : List Role) : Except Pattern.Refusal (List Log.Record) :=
  roles.foldlM (fun before role => role.audit.map fun mistakes =>
    before ++ mistakes.map fun mistake => ⟨.warning, logger, mistake⟩) []

/-- How the log book is to be set up. -/
def logOrder (settings : Settings) : Log.Book.Order where
  level := .text settings.logLevel
  directory := .text settings.logDirectory
  toFile := .bool settings.logToFile

/-- The log book as the settings ask for it. -/
def logBook (settings : Settings) (place : Place) : Except Log.Book.Fault Log.Book :=
  let order := logOrder settings
  let setUp := place.book.configureWith (place.logFile order) order
  setUp.1.map fun _ => setUp.2

/-- `create_app`: starts the service. Mistakes in roles are noted, and the roles are served all the
same. -/
def start (given : Option (List Role)) (settings : Settings) (place : Place := {}) :
    Noted Log.Record StartFault Service :=
  match logBook settings place with
  | .error fault => .fail (.log fault)
  | .ok book =>
    let level := book.level.getD .warning
    let started := (definitions given settings place).next fun roles =>
      match auditRecords roles with
      | .error refusal => .fail (.refused refusal)
      | .ok records =>
        if settings.title.isEmpty then ⟨records, .error .untitled⟩
        else ⟨records, .ok ⟨Roster.ofRoles roles, settings, level⟩⟩
    { started with notes := Log.atLeast level started.notes }

/-! ## Endpoints -/

/-- Who asks, and what they are allowed. -/
def asked (service : Service) (request : Request) : Passage (Principal × Permissions) :=
  (Gate.authenticate request.credential).next fun principal =>
    (Gate.permissionsOf service.roster service.settings.skipEmptyRules principal).next
      fun permissions => .answer (principal, permissions)

def textList (texts : List String) : Value := .list (texts.map Value.text)

def fields (entries : List (String × Value)) : Value :=
  .map (entries.map fun (name, v) => (.text name, v))

/-- `get_my_grants`: the grants of who asks. -/
def grants (service : Service) (request : Request) : Passage Response :=
  (service.asked request).next fun (principal, permissions) =>
    .answer (.found (fields [
      ("user", .text principal.name), ("grants", textList permissions.grants.names)]))

/-- The decision about an action, once the body is known. -/
def decide (service : Service) (request : Request) (body : Body) : Passage Response :=
  (service.asked request).next fun (_, permissions) =>
    match body.fields.bind Action.ofDocumentFields with
    | .error issues => .answer (body.refusal issues)
    | .ok action =>
      (Gate.tried (permissions.isAllowed action)).next fun allowed =>
        .answer (.found (fields [("allowed", .bool allowed)]))

/-- `check_access`: a decision about the action in the body. A body that cannot be read is refused
before anything is asked about the principal. -/
def check (service : Service) (request : Request) : Passage Response :=
  match Body.ofRequest request with
  | .error response => .answer response
  | .ok body => service.decide request body

def rolesResponse (roles : List Role) : Response :=
  match roles.mapM Role.document with
  | .ok documents => .found (.list documents)
  | .error _ => .failure

/-- `list_roles`: the roles that who asks may read. -/
def listRoles (service : Service) (request : Request) : Passage Response :=
  (Gate.pass service.roster service.settings.skipEmptyRules
    (.grants (Grants.single .readRoles)) [] request.credential).next fun permissions =>
    let listed := service.roster.listed
    (Gate.tried (permissions.filterAllowed .read .roles (listed.map Role.name) none)).next
      fun readable => .answer (rolesResponse (listed.filter fun role => readable.contains role.name))

/-- The answer about the role in the path, for those who may read a role of its name. -/
def aboutRole (service : Service) (request : Request) (parameters : List (String × String))
    (answer : Role → Response) : Passage Response :=
  (Gate.pass service.roster service.settings.skipEmptyRules
    (.action .read .roles (some Route.roleParameter) none) parameters request.credential).next
    fun _ =>
      match (parameters.lookup Route.roleParameter).bind service.roster.get? with
      | some role => .answer (answer role)
      | none => .answer (.detail 404 "Role not found")

/-- `get_role`: a role as a document. -/
def roleResponse (role : Role) : Response :=
  match role.document with
  | .ok document => .found document
  | .error _ => .failure

/-- `validate_role_definition`: the mistakes in a role. -/
def auditResponse (role : Role) : Response :=
  match role.audit with
  | .error _ => .failure
  | .ok problems =>
    .found (fields [("name", .text role.name), ("valid", .bool problems.isEmpty),
      ("problems", textList problems)])

def health : Response :=
  .found (fields [("status", .text "healthy"), ("version", .text version)])

/-- The answer of an endpoint. -/
def ask (service : Service) (endpoint : Endpoint) (parameters : List (String × String))
    (request : Request) : Passage Response :=
  match endpoint with
  | .grants => service.grants request
  | .check => service.check request
  | .roles => service.listRoles request
  | .role => service.aboutRole request parameters roleResponse
  | .roleAudit => service.aboutRole request parameters auditResponse
  | .health => .answer health
  | .description => .answer ⟨200, .nothing, none⟩
  | .page => .answer ⟨200, .nothing, none⟩

/-! ## Requests -/

structure Answer where
  records : List Log.Record
  response : Response

/-- The response at the end of a way. -/
def settle (way : Passage Response) : Response :=
  match way.outcome with
  | .ok response => response
  | .error halt => .ofHalt halt

/-- The answer to a request. -/
def answer (service : Service) (request : Request) : Answer :=
  let routes := Route.all service.settings.debug
  match Route.destination routes request.method (Address.ofText request.address) with
  | .endpoint endpoint parameters =>
    let way := service.ask endpoint parameters request
    ⟨Log.atLeast service.level way.notes, settle way⟩
  | .otherMethod => ⟨[], .detail 405 "Method Not Allowed"⟩
  | .withoutSlashes address => ⟨[], { status := 307, location := some (address.located host) }⟩
  | .nowhere => ⟨[], .detail 404 "Not Found"⟩

end Service

end DesktopPolicy
