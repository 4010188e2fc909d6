import DocumentGateway.Net.SocketAddress
import DocumentGateway.Settings.Basic

/-!
# Faults in settings

Settings that can be read may still make no sense. All faults are reported, in the order of the
settings; for a list, item by item.
-/

namespace DocumentGateway.Settings

/-- A fault in a setting. -/
structure Fault where
  /-- The name of the setting. -/
  field : String
  /-- What is wrong with it. -/
  message : String
  deriving DecidableEq, Repr

/-- What is said about a fault. -/
def Fault.describe (f : Fault) : String := f.field ++ ": " ++ f.message

/-- The fault that is there under a condition. -/
def faultIf (condition : Bool) (field message : String) : List Fault :=
  if condition then [⟨field, message⟩] else []

/-- The methods that a permission may name. -/
def knownMethods : List String := ["GET", "PUT", "POST", "PATCH", "DELETE", "OPTIONS"]

/-- Whether a text is no socket address. -/
def isBadAddress (s : String) : Bool := (Net.SocketAddress.ofText? s).isNone

/-- The fault of a setting that is no socket address. -/
def addressFault (field address : String) : List Fault :=
  faultIf (isBadAddress address) field s!"'{address}' is not a socket address"

/-- The faults of a user, given the users before it in any order. -/
def userFaults (index : Nat) (earlier : List Access.User) (user : Access.User) : List Fault :=
  let field := s!"security.users[{index}].userid"
  faultIf user.userid.isEmpty field "must not be empty"
    ++ faultIf (earlier.any fun u => u.userid = user.userid) field
      s!"duplicate user '{user.userid}'"

/-- The faults of the users from an index on, given those before it, last first. -/
def usersFaults (index : Nat) (earlier : List Access.User) : List Access.User → List Fault
  | [] => []
  | user :: rest =>
    userFaults index earlier user ++ usersFaults (index + 1) (user :: earlier) rest

/-- Whether a role is held by nobody. -/
def isUnknownRole (users : List Access.User) (role : String) : Bool :=
  role != Access.anonymousRole && !users.any fun u => u.roles.contains role

/-- The faults of a permission. -/
def permissionFaults (users : List Access.User) (index : Nat) (p : Access.Permission) :
    List Fault :=
  let field := fun name => s!"security.permissions[{index}]." ++ name
  faultIf (isUnknownRole users p.role) (field "role") s!"role '{p.role}' is not granted to any user"
    ++ faultIf (p.pathPrefix.toList.head? != some '/') (field "path_prefix") "must start with '/'"
    ++ (p.methods.filter fun m => !knownMethods.contains (Text.upper m)).map fun m =>
      ⟨field "methods", s!"unknown method '{m}'"⟩

/-- The faults of the permissions from an index on. -/
def permissionsFaults (users : List Access.User) (index : Nat) : List Access.Permission → List Fault
  | [] => []
  | p :: rest => permissionFaults users index p ++ permissionsFaults users (index + 1) rest

/-- The faults of settings, in order. -/
def faults (s : Settings) : List Fault :=
  addressFault "listener.bind_address" s.listener.bindAddress
    ++ faultIf (s.timeouts.requestSecs = 0) "timeouts.request_secs" "must be greater than 0"
    ++ faultIf (s.security.maxBodySize = 0) "security.max_body_size" "must be greater than 0"
    ++ faultIf (s.cache.enabled && s.cache.ttlSecs = 0) "cache.ttl_secs"
      "must be greater than 0 when the cache is enabled"
    ++ usersFaults 0 [] s.security.rules.users
    ++ permissionsFaults s.security.rules.users 0 s.security.rules.permissions
    ++ (if s.observability.metricsEnabled then
        addressFault "observability.metrics_address" s.observability.metricsAddress
      else [])

end DocumentGateway.Settings
