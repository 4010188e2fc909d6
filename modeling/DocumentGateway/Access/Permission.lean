import DocumentGateway.Access.Identity
import DocumentGateway.Http.Method
import DocumentGateway.Text.Upper

/-!
# Permissions

A permission grants a role some methods below a path. A path is below a prefix if it is the prefix
or goes on with a slash after it, slashes at the end of the prefix not counting. A request without
an account holds one role of its own. What no permission grants is denied.
-/

namespace DocumentGateway.Access

/-- The role of a request without an account. -/
def anonymousRole : String := "$unauthenticated"

/-- Grants a role the use of some methods below a path. -/
structure Permission where
  /-- The role. -/
  role : String
  /-- The prefix of the paths covered. -/
  pathPrefix : String
  /-- The names of the methods, in any case; none means all methods. -/
  methods : List String
  deriving DecidableEq, Repr

namespace Permission

/-- The methods listed whose upper-case names are tokens. -/
def knownMethods (p : Permission) : List Http.Method :=
  p.methods.filterMap fun m => Http.Method.ofText? (Text.upper m)

/-- Whether a path lies below the permission's prefix. -/
def coversPath (p : Permission) (path : String) : Bool :=
  let start := Text.trimEnd (· = '/') p.pathPrefix.toList
  start.isEmpty ||
    match Text.dropStart? start path.toList with
    | some [] => true
    | some (c :: _) => c = '/'
    | none => false

/-- Whether a method is among those granted. -/
def coversMethod (p : Permission) (method : Http.Method) : Bool :=
  p.knownMethods.isEmpty || p.knownMethods.contains method

end Permission

/-- The roles of a caller. -/
def rolesOf : Option Account → List String
  | some account => account.roles
  | none => [anonymousRole]

/-- Whether some permission grants a caller a method on a path. -/
def isAllowed (permissions : List Permission) (caller : Option Account) (method : Http.Method)
    (path : String) : Bool :=
  permissions.any fun p =>
    (rolesOf caller).contains p.role && p.coversPath path && p.coversMethod method

end DocumentGateway.Access
