import DocumentGateway.Gateway.Router
import DocumentGateway.Proofs.Flow.Upload
import DocumentGateway.Proofs.Gateway.History

/-!
# One limit for all bodies

JSON documents and forms are read in three ways, of which two go by the limit of the settings and
one by the limit that the router has attached to the request. A body that is longer than the limits
ends the request at once, by whichever way it is read and wherever it is cut into chunks. To a body
that keeps to them they make no difference: the request is handled as it is under any other limits
that its body keeps to, and none of the three ways reports what it reports of a body that is too
long.
-/

namespace DocumentGateway.Http.Body

/-- A body keeps to all limits that are as large as it is, and is read alike through them. -/
theorem read?_congr {b : Body} {limit limit' : Nat} (h : b.bytes.length ≤ limit)
    (h' : b.bytes.length ≤ limit') : b.read? limit = b.read? limit' := by
  ext bytes
  rw [read?_eq_some_iff, read?_eq_some_iff]
  simp [h, h']

end DocumentGateway.Http.Body

namespace DocumentGateway.Flow

/-- The status of the answer to a body that is too long: the media type of a form is looked at
before the form is read, that of a JSON document is not. -/
def oversizeStatus (p : Passage) : Http.Status :=
  if bringsFile p.context then
    if hasMediaType p.exchange.contentTypes [multipartType, simpleFormType] then .notAcceptable
    else .unsupportedMediaType
  else .payloadTooLarge

/-- A body is longer than it may be, by whichever way it is read. -/
def BodyLimits.Exceeded (limits : BodyLimits) (body : Http.Body) : Prop :=
  limits.body < body.bytes.length ∧ limits.form < body.bytes.length

/-- A body is no longer than it may be, by whichever way it is read. -/
def BodyLimits.Kept (limits : BodyLimits) (body : Http.Body) : Prop :=
  body.bytes.length ≤ limits.body ∧ body.bytes.length ≤ limits.form

variable {reading reading' : BodyReading} {body : Http.Body} {x : Http.Exchange} {p : Passage}

/-- A form that is too long is not read. -/
theorem readUpload_of_exceeded (hbody : x.body = some body) (h : reading.Exceeded body) :
    ∃ e : BodyError, readUpload reading x = .done (.error e) ∧ (∀ reason, e ≠ .storage reason) ∧
      e.status = if hasMediaType x.contentTypes [multipartType, simpleFormType] then .notAcceptable
        else .unsupportedMediaType := by
  have hform : body.read? reading.form = none := Http.Body.read?_eq_none_iff.mpr (.inr h.2)
  have hsimple : body.read? reading.body = none := Http.Body.read?_eq_none_iff.mpr (.inr h.1)
  rw [readUpload, hasMediaType_pair]
  by_cases hmultipart : hasMediaType x.contentTypes [multipartType] = true
  · rw [if_pos hmultipart, hbody]
    simp only [multipartForm]
    cases formBoundary? x.request.headers with
    | none =>
      exact ⟨.noFormParser, rfl, fun _ => BodyError.noConfusion,
        by simp [hmultipart, BodyError.status]⟩
    | some boundary =>
      refine ⟨.unreadableForm, ?_, fun _ => BodyError.noConfusion,
        by simp [hmultipart, BodyError.status]⟩
      simp [hform]
  · rw [if_neg hmultipart]
    by_cases hsimpleForm : hasMediaType x.contentTypes [simpleFormType] = true
    · rw [if_pos hsimpleForm, hbody]
      refine ⟨.unreadableForm, ?_, fun _ => BodyError.noConfusion,
        by simp [hsimpleForm, BodyError.status]⟩
      simp [simpleFormFault, hsimple]
    · rw [if_neg hsimpleForm]
      exact ⟨.unsupportedFormContentType, rfl, fun _ => BodyError.noConfusion,
        by simp [hmultipart, hsimpleForm, BodyError.status]⟩

/-- Content that is too long is not read. -/
theorem readContent_of_exceeded (hbody : p.exchange.body = some body) (h : reading.Exceeded body) :
    ∃ e : BodyError, readContent reading p = .done (.error e, p.context) ∧
      (∀ reason, e ≠ .storage reason) ∧ e.status = oversizeStatus p := by
  rw [readContent, oversizeStatus]
  by_cases hfile : bringsFile p.context = true
  · rw [if_pos hfile, if_pos hfile]
    obtain ⟨e, hread, hstored, hstatus⟩ := readUpload_of_exceeded hbody h
    rw [hread]
    exact ⟨e, rfl, hstored, hstatus⟩
  · rw [if_neg hfile, if_neg hfile, hbody]
    have hread : body.read? reading.body = none := Http.Body.read?_eq_none_iff.mpr (.inr h.1)
    refine ⟨.unreadableBody, ?_, fun _ => BodyError.noConfusion, rfl⟩
    simp [jsonContent, hread]

/-- A request with content that is too long ends where the content is taken in. -/
theorem intake_of_exceeded (hbody : p.exchange.body = some body) (h : reading.Exceeded body)
    (hverb : p.context.verb ≠ .get ∧ p.context.verb ≠ .options ∧ p.context.verb ≠ .delete) :
    ∃ message, ∀ next, intake reading next p =
      Passage.refuse ⟨afterReading p, p.context⟩ (oversizeStatus p) message := by
  obtain ⟨e, hread, hstored, hstatus⟩ := readContent_of_exceeded hbody h
  refine ⟨e.message, fun next => ?_⟩
  have hproceed : proceed next ⟨afterReading p, p.context⟩ (.error e) =
      Passage.refuse ⟨afterReading p, p.context⟩ e.status e.message := by
    cases e with
    | storage reason => exact absurd rfl (hstored reason)
    | _ => rfl
  rw [intake_of_verb reading next hverb, hread, ← hstatus]
  exact hproceed

/-- Content that keeps to the limits is read as it is through any others that it keeps to. -/
theorem readContent_congr (hbody : p.exchange.body = some body)
    (hsniff : reading.sniff = reading'.sniff) (h : reading.Kept body) (h' : reading'.Kept body) :
    readContent reading p = readContent reading' p := by
  have hform : body.read? reading.form = body.read? reading'.form := Http.Body.read?_congr h.2 h'.2
  have hsimple : body.read? reading.body = body.read? reading'.body :=
    Http.Body.read?_congr h.1 h'.1
  simp only [readContent, readUpload, multipartForm, simpleFormFault, jsonContent, hbody, hform,
    hsimple, hsniff, Option.bind_some]

theorem intake_congr (hbody : p.exchange.body = some body) (hsniff : reading.sniff = reading'.sniff)
    (h : reading.Kept body) (h' : reading'.Kept body) (next : Stage) :
    intake reading next p = intake reading' next p := by
  unfold intake
  rw [readContent_congr hbody hsniff h h']

/-- The text of a document may be at fault, but it is there. -/
theorem contentOfJson_ne_unreadable (text : Bytes) :
    contentOfJson text ≠ .error .unreadableBody := by
  unfold contentOfJson
  split
  · nofun
  · split <;> nofun
  · nofun

theorem parseProperties_ne_unreadable (text : Option String) :
    Upload.parseProperties text ≠ .error .unreadableForm := by
  unfold Upload.parseProperties
  split
  · nofun
  · split <;> nofun

/-- No way to read a body that arrives and keeps to the limits reports that it could not be read. -/
theorem read_of_kept (hwhole : body.fails = false) (h : reading.Kept body)
    (contentTypes : List String) (headers : Http.Headers) :
    jsonContent reading.body contentTypes body ≠ .error .unreadableBody ∧
      simpleFormFault reading.body (some body) ≠ .unreadableForm ∧
      multipartForm reading.form headers (some body) ≠ .error .unreadableForm := by
  have hform : body.read? reading.form = some body.bytes :=
    Http.Body.read?_eq_some_iff.mpr ⟨hwhole, h.2, rfl⟩
  have hsimple : body.read? reading.body = some body.bytes :=
    Http.Body.read?_eq_some_iff.mpr ⟨hwhole, h.1, rfl⟩
  refine ⟨?_, ?_, ?_⟩
  · unfold jsonContent
    rw [hsimple]
    split
    · rename_i hnone
      cases hnone
    · simp
    · split
      · simp
      · split
        · simp
        · exact contentOfJson_ne_unreadable _
  · have hproperties := parseProperties_ne_unreadable
      (Http.Form.value? body.bytes Upload.propertiesField)
    simp only [simpleFormFault, Option.bind_some, hsimple]
    split
    · rename_i e he
      rintro rfl
      exact hproperties he
    · simp
  · simp only [multipartForm]
    cases formBoundary? headers with
    | none => simp
    | some boundary => simp [hform]

end DocumentGateway.Flow

namespace DocumentGateway.Gateway

open DocumentGateway.Flow (BodyLimits BodyReading Passage Stage)

/-- Settings that differ in the limit of bodies. -/
def withMaxBodySize (s : Setup) (limit : Nat) : Setup :=
  { s with security := { s.security with maxBodySize := limit } }

variable {settings : Setup} {r : RoutedRequest}

/-- The chain answers a body alike through all limits that it keeps to. -/
theorem chain_congr {reading reading' : BodyReading} (rules : Access.Rules) {p : Passage}
    {body : Http.Body} (hbody : p.exchange.body = some body)
    (hsniff : reading.sniff = reading'.sniff) (h : reading.Kept body) (h' : reading'.Kept body) :
    Flow.chain rules reading p = Flow.chain rules reading' p := by
  rw [Flow.chain, Flow.chain, Flow.admission, Flow.admission]
  cases Flow.verdict rules p with
  | admitted caller =>
    let known : Passage := { p with context := { p.context with account := caller } }
    have hknown : known.exchange.body = some body := hbody
    exact Flow.intake_congr hknown hsniff h h' _
  | unauthenticated => rfl
  | forbidden => rfl

/-- One limit holds for all bodies, whatever they bring and however they are cut into chunks. An
admitted request with a body that is longer than the limit of the settings goes nowhere past the
intake of its content: it is answered with 413 for a JSON document, and for a form with 406, or 415
if its media type is none of a form. To a request whose body keeps to the limit, the limit makes no
difference, and none of the ways to read the body reports that it could not be read. -/
theorem body_limit (settings : Setup) (fresh : Http.HeaderValue) (r : RoutedRequest)
    {caller : Option Access.Account} (hpath : hasPath r.request.head.uri = true)
    (hadmitted : Flow.verdict settings.security.rules (passageOf settings r.request) =
      .admitted caller)
    (hverb : r.request.head.method.verb ≠ .get ∧ r.request.head.method.verb ≠ .options ∧
      r.request.head.method.verb ≠ .delete) :
    let limit := settings.security.maxBodySize
    let begun := passageOf settings r.request
    let body := r.request.body
    (limit < body.bytes.length → ∃ refused : Passage,
      (∀ next, Flow.admission settings.security.rules
        (Flow.intake (routedReading settings r) next) begun = .done ⟨.ok (), refused⟩) ∧
      refused.exchange.response.status = Flow.oversizeStatus begun ∧
      route settings fresh r =
        .done (dressed r.request fresh refused.exchange.response)) ∧
    (body.bytes.length ≤ limit →
      (∀ larger, body.bytes.length ≤ larger →
        route (withMaxBodySize settings larger) fresh r = route settings fresh r) ∧
      (body.fails = false →
        Flow.jsonContent (routedReading settings r).body begun.exchange.contentTypes body ≠
          .error .unreadableBody ∧
        Flow.simpleFormFault (routedReading settings r).body (some body) ≠ .unreadableForm ∧
        Flow.multipartForm (routedReading settings r).form begun.exchange.request.headers
          (some body) ≠ .error .unreadableForm)) := by
  intro limit begun body
  constructor
  · intro hlong
    have hexceeded : (routedReading settings r).Exceeded body := ⟨hlong, hlong⟩
    let known : Passage := { begun with context := { begun.context with account := caller } }
    have hbody : known.exchange.body = some body := rfl
    obtain ⟨message, hintake⟩ := Flow.intake_of_exceeded hbody hexceeded hverb
    have hended : (Flow.afterReading known).ended = false := by
      rw [Flow.afterReading]
      split <;> rfl
    have hrefused : ∀ next, Flow.admission settings.security.rules
        (Flow.intake (routedReading settings r) next) begun =
          Passage.refuse ⟨Flow.afterReading known, known.context⟩ (Flow.oversizeStatus begun)
            message := by
      intro next
      rw [Flow.admission, hadmitted]
      exact hintake next
    refine ⟨_, hrefused, Http.Exchange.status_conclude hended _ message, ?_⟩
    rw [route, if_pos hpath, Flow.chain, Flow.afterAdmission, hrefused]
    rfl
  · intro hfits
    have hkept : (routedReading settings r).Kept body := ⟨hfits, hfits⟩
    refine ⟨fun larger hlarger => ?_, fun hwhole => Flow.read_of_kept hwhole hkept _ _⟩
    have hkept' : (routedReading (withMaxBodySize settings larger) r).Kept body :=
      ⟨hlarger, hlarger⟩
    have hbody : begun.exchange.body = some body := rfl
    have hsniff : (routedReading (withMaxBodySize settings larger) r).sniff =
        (routedReading settings r).sniff := rfl
    have hchain := chain_congr settings.security.rules hbody hsniff hkept' hkept
    rw [route, route, ← hchain]
    rfl

/-- A request with a document of seven bytes in two chunks, neither of which is long. -/
def twoChunks : RoutedRequest :=
  ⟨⟨(putRequest "/shop" []).head, ⟨[[0x7B, 0x22, 0x61, 0x22], [0x3A, 0x31, 0x7D]], false⟩⟩, ⟨none⟩⟩

/-- An upload of a form, one byte after the other. -/
def bytewiseForm : RoutedRequest :=
  ⟨(Http.Request.ofJson .put "/shop/pics.files/a" ⟨Flow.sentForm.map fun b => [b], false⟩).labelled
    Flow.sentFormType, ⟨none⟩⟩

/-- Two short chunks are too long together, and so are the single bytes of a form. -/
theorem body_limit_chunks :
    (∃ response, route (withMaxBodySize permissiveSettings 6) firstVersion twoChunks =
      .done response ∧ response.status = .payloadTooLarge) ∧
    ∃ response, route (withMaxBodySize permissiveSettings 6) firstVersion bytewiseForm =
      .done response ∧ response.status = .notAcceptable := by
  have hrefused : ∀ r : RoutedRequest, hasPath r.request.head.uri = true →
      Flow.verdict (withMaxBodySize permissiveSettings 6).security.rules
        (passageOf (withMaxBodySize permissiveSettings 6) r.request) = .admitted none →
      r.request.head.method.verb = .put → 6 < r.request.body.bytes.length →
      ∃ response, route (withMaxBodySize permissiveSettings 6) firstVersion r = .done response ∧
        response.status = Flow.oversizeStatus
          (passageOf (withMaxBodySize permissiveSettings 6) r.request) := by
    intro r hpath hadmitted hverb hlong
    have hwrites : r.request.head.method.verb ≠ .get ∧ r.request.head.method.verb ≠ .options ∧
        r.request.head.method.verb ≠ .delete := by
      simp [hverb]
    obtain ⟨hexceeded, -⟩ := body_limit (withMaxBodySize permissiveSettings 6) firstVersion r
      hpath hadmitted hwrites
    obtain ⟨refused, -, hstatus, hroute⟩ := hexceeded hlong
    exact ⟨_, hroute, hstatus⟩
  constructor
  · exact hrefused twoChunks rfl (by decide +kernel) (by decide) (by decide)
  · obtain ⟨response, hroute, hstatus⟩ :=
      hrefused bytewiseForm (by decide) (by decide +kernel) (by decide) (by decide +kernel)
    refine ⟨response, hroute, hstatus.trans ?_⟩
    decide +kernel

end DocumentGateway.Gateway
