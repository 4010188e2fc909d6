import DocumentGateway.Access.Admission
import DocumentGateway.Flow.Program

/-!
# Admitting requests

A request goes on if the rules admit it. Otherwise it is answered at once: with 401 and a challenge
that makes interactive clients ask for credentials, or, if the request asks for silence, without the
challenge; or with 403.
-/

namespace DocumentGateway.Flow

/-- The header that asks for refusals without a challenge. -/
def silentHeader : String := "no-auth-challenge"

/-- The query parameter that asks for refusals without a challenge. -/
def silentParam : String := "noauthchallenge"

/-- Whether a request asks for refusals without a challenge. -/
def isSilent (x : Http.Exchange) : Bool :=
  x.request.headers.has silentHeader || x.hasParam silentParam

/-- The verdict on a request. -/
def verdict (rules : Access.Rules) (p : Passage) : Access.Verdict :=
  rules.judge p.exchange.request.headers p.exchange.request.method p.context.path

/-- The exchange with a challenge, unless the request asks for silence. -/
def challenged (rules : Access.Rules) (x : Http.Exchange) : Http.Exchange :=
  if isSilent x then x else x.setHeader "www-authenticate" rules.challenge

/-- Let admitted requests go on. -/
def admission (rules : Access.Rules) (next : Stage) : Stage := fun p =>
  match verdict rules p with
  | .admitted caller => next { p with context := { p.context with account := caller } }
  | .unauthenticated =>
    Passage.refuse { p with exchange := challenged rules p.exchange } .unauthorized "Unauthorized"
  | .forbidden => p.refuse .forbidden "Forbidden"

end DocumentGateway.Flow
