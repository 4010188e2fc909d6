import DocumentGateway.Access.Permission

/-!
# Admission

Who may go on with a request. Credentials that are offered have to verify, whatever an anonymous
caller may do. A caller without an account who is denied is asked for one; a caller with an account
is told no.
-/

namespace DocumentGateway.Access

/-- Who is known and who may do what. -/
structure Rules where
  /-- The realm that callers are asked to log in to. -/
  realm : String
  /-- The users. -/
  users : List User
  /-- The permissions. -/
  permissions : List Permission
  deriving DecidableEq, Repr

/-- Whether a request may go on. -/
inductive Verdict where
  /-- The request may go on for its caller. -/
  | admitted (caller : Option Account)
  /-- The caller has not proved to be someone who may make the request. -/
  | unauthenticated
  /-- The caller is known and may not make the request. -/
  | forbidden
  deriving DecidableEq, Repr

namespace Rules

/-- The verdict on the request of a known or anonymous caller. -/
def judgeCaller (r : Rules) (caller : Option Account) (method : Http.Method) (path : String) :
    Verdict :=
  if isAllowed r.permissions caller method path then .admitted caller
  else if caller.isSome then .forbidden
  else .unauthenticated

/-- The verdict on a request. -/
def judge (r : Rules) (headers : Http.Headers) (method : Http.Method) (path : String) : Verdict :=
  match Credentials.ofHeaders headers with
  | .error _ => .unauthenticated
  | .ok none => r.judgeCaller none method path
  | .ok (some credentials) =>
    match verify r.users credentials with
    | none => .unauthenticated
    | some account => r.judgeCaller (some account) method path

/-- The value of the header that asks for credentials, without a realm that may not stand in it. -/
def challenge (r : Rules) : Http.HeaderValue :=
  (Http.HeaderValue.ofText? s!"Basic realm=\"{r.realm}\"").getD
    { bytes := Text.Utf8.encode "Basic" }

/-- A request that is admitted is one that a permission grants to its caller. -/
theorem isAllowed_of_judge {r : Rules} {headers : Http.Headers} {method : Http.Method}
    {path : String} {caller : Option Account}
    (h : r.judge headers method path = .admitted caller) :
    isAllowed r.permissions caller method path = true := by
  have key : ∀ c, r.judgeCaller c method path = .admitted caller →
      isAllowed r.permissions caller method path = true := by
    intro c hc
    unfold judgeCaller at hc
    split at hc
    · rename_i ha
      cases hc
      exact ha
    · split at hc <;> cases hc
  unfold judge at h
  split at h
  · cases h
  · exact key _ h
  · split at h
    · cases h
    · exact key _ h

end Rules

end DocumentGateway.Access
