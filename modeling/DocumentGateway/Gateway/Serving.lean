import DocumentGateway.Flow.Chain
import DocumentGateway.Gateway.State
import DocumentGateway.Settings.Basic

/-!
# Serving requests

A request whose target has a path opens an exchange, which the chain of stages handles and which
then gives the response. A failure becomes a response that tells nothing about it. Every response
carries the identifier of its request, and the response to a HEAD request has no body.
-/

namespace DocumentGateway.Gateway

/-- The header of a request's identifier. -/
def requestIdHeader : String := "x-request-id"

/-- The identifier of a request as it is logged. -/
def loggedRequestId (headers : Http.Headers) : String :=
  ((headers.first? requestIdHeader).bind Http.HeaderValue.text?).getD "unknown"

/-- What a gateway is set up with: its settings, and what tells the media types of files. -/
structure Setup extends Settings where
  /-- What tells the media types of files. -/
  sniff : Upload.Sniffer
  deriving Inhabited

/-- How bodies are read under a setup. -/
def bodyReading (s : Setup) : Flow.BodyReading where
  body := s.security.maxBodySize
  form := s.security.maxBodySize
  sniff := s.sniff

/-- The passage that a request begins. -/
def passageOf (s : Setup) (r : Http.Request) : Flow.Passage :=
  let x := Http.Exchange.ofRequest r
  ⟨x, .ofExchange x s.etagCheck.db⟩

/-- The response that a result gives. -/
def responseOf (r : Flow.Result) : Http.Response :=
  match r.outcome with
  | .ok _ => r.passage.exchange.response
  | .error _ =>
    (r.passage.exchange.conclude .internalServerError "internal server error").response

/-- Answer a request that addresses something. -/
def respond (s : Setup) (r : Http.Request) : Flow.Program Http.Response :=
  (Flow.chain s.security.rules (bodyReading s) (passageOf s r)).bind fun result =>
    .done (responseOf result)

/-- Whether a target has a path. -/
def hasPath (u : Http.Uri) : Bool := u.path.toList.head? == some '/'

/-- The response to a target that addresses nothing. -/
def unaddressed : Http.Response := ⟨.notFound, [], none⟩

/-- A response as it leaves: with the request's identifier, and for HEAD without a body. -/
def dressed (r : Http.Request) (fresh : Http.HeaderValue) (response : Http.Response) :
    Http.Response where
  status := response.status
  headers := response.headers.insert requestIdHeader
    ((Http.Headers.first? r.head.headers requestIdHeader).getD fresh)
  body := if r.head.method = .head then none else response.body

/-- Answer any request; `fresh` identifies it if it does not identify itself. -/
def serve (s : Setup) (fresh : Http.HeaderValue) (r : Http.Request) :
    Flow.Program Http.Response :=
  (if hasPath r.head.uri then respond s r else .done unaddressed).bind fun response =>
    .done (dressed r fresh response)

/-- Answer a request by itself, from one state to the next. -/
def State.serve (settings : Setup) (o : Occasion) (fresh : Http.HeaderValue) (r : Http.Request)
    (s : State) : Http.Response × State :=
  (Gateway.serve settings fresh r).run (State.answer o) s

/-- The state in which the gateway begins. -/
def State.ofSettings (s : Setup) : State := .initial s.cache.enabled s.cache.ttlSecs

end DocumentGateway.Gateway
