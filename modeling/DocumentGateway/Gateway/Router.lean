import DocumentGateway.Gateway.Serving

/-!
# The router

On its way to the stages a request passes the layers of the router, which may attach something to
it. The exchange that it opens keeps what is attached, and gives it back with the request if the
whole request is taken from it. JSON documents and simple forms are read by the gateway itself,
through the limit of its settings. A multipart form is read by an extractor, which takes the whole
request and goes by the limit that is attached to it, or by a limit of its own.
-/

namespace DocumentGateway.Gateway

/-- What is attached to a request. -/
structure Extensions where
  /-- How many bytes an extractor may read of the body. -/
  bodyLimit : Option Nat

/-- A request with what is attached to it. -/
structure RoutedRequest where
  /-- The request. -/
  request : Http.Request
  /-- What is attached to it. -/
  extensions : Extensions

/-- The layer that limits the bodies which extractors read. -/
def limitLayer (limit : Nat) (r : RoutedRequest) : RoutedRequest :=
  { r with extensions := { r.extensions with bodyLimit := some limit } }

/-- How many bytes an extractor reads of a body if nothing else is attached to its request. -/
def extractorLimit : Nat := 2 * 1024 * 1024

/-- How many bytes an extractor reads of the body of a request. -/
def RoutedRequest.limit (r : RoutedRequest) : Nat := r.extensions.bodyLimit.getD extractorLimit

/-- An exchange with what is attached to its request. -/
structure RoutedExchange where
  /-- The exchange. -/
  exchange : Http.Exchange
  /-- What is attached to its request. -/
  extensions : Extensions

namespace RoutedExchange

/-- The exchange that a request opens. -/
def ofRequest (r : RoutedRequest) : RoutedExchange := ⟨.ofRequest r.request, r.extensions⟩

/-- Take the whole request, with what is attached to it; the second exchange has no body left. -/
def takeRequest (x : RoutedExchange) : Option RoutedRequest × RoutedExchange :=
  (x.exchange.takeRequest.1.map fun r => ⟨r, x.extensions⟩,
    { x with exchange := x.exchange.takeRequest.2 })

/-- The limits that the body of an exchange meets: the given one where the gateway reads it, and
that of the request that is taken where an extractor does. -/
def limits (x : RoutedExchange) (maxBodySize : Nat) : Flow.BodyLimits where
  body := maxBodySize
  form := (x.takeRequest.1.map RoutedRequest.limit).getD extractorLimit

end RoutedExchange

/-- The exchange that a request opens behind the layers of the router. -/
def routed (s : Setup) (r : RoutedRequest) : RoutedExchange :=
  .ofRequest (limitLayer s.security.maxBodySize r)

/-- The limits that the body of a request meets behind the router. -/
def routedLimits (s : Setup) (r : RoutedRequest) : Flow.BodyLimits :=
  (routed s r).limits s.security.maxBodySize

/-- How the body of a request is read behind the router. -/
def routedReading (s : Setup) (r : RoutedRequest) : Flow.BodyReading :=
  ⟨routedLimits s r, s.sniff⟩

/-- Answer a request that comes through the router. -/
def route (s : Setup) (fresh : Http.HeaderValue) (r : RoutedRequest) :
    Flow.Program Http.Response :=
  (if hasPath r.request.head.uri then
    (Flow.chain s.security.rules (routedReading s r) (passageOf s r.request)).bind fun result =>
      .done (responseOf result)
  else .done unaddressed).bind fun response => .done (dressed r.request fresh response)

/-- The limit that the layer attaches reaches the extractor, so there is one limit for all. -/
theorem routedReading_eq (s : Setup) (r : RoutedRequest) : routedReading s r = bodyReading s := rfl

/-- Through the router a request is answered as without it. -/
theorem route_eq_serve (s : Setup) (fresh : Http.HeaderValue) (r : RoutedRequest) :
    route s fresh r = serve s fresh r.request := by
  rw [route, routedReading_eq]
  rfl

end DocumentGateway.Gateway
