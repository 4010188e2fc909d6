import DocumentGateway.Proofs.Flow.Head
import DocumentGateway.Proofs.Flow.Quiet
import DocumentGateway.Proofs.Gateway.Refusal
import DocumentGateway.Proofs.Http.Form
import DocumentGateway.Proofs.Store.Database

/-!
# What silence changes

A request may ask for silence in a header or in its query. Nothing else is read from that header and
that parameter, so the request is judged, handled and answered as without them, up to the challenge
of a refusal. The challenge stands in no response to a request that asks for silence, and in those
responses to other requests that have the status 401, which are those to requests that the rules
refuse for want of a known caller.
-/

namespace DocumentGateway

namespace Gateway

open DocumentGateway.Flow (Passage Stage Program Context silentHeader silentParam challengeHeader)

/-- A request head asks for silence and says the same as another one otherwise: it has one header
more, whatever its value, or one parameter more. -/
inductive Signals : Http.RequestHead → Http.RequestHead → Prop
  | header {method : Http.Method} {uri : Http.Uri} (before after : Http.Headers)
      {name : Http.HeaderName} (hname : name.text = silentHeader) (value : Http.HeaderValue) :
      Signals ⟨method, uri, before ++ after⟩ ⟨method, uri, before ++ ⟨name, value⟩ :: after⟩
  | param {method : Http.Method} {uri : Http.Uri} {headers : Http.Headers} {query : String}
      {before after : List (String × String)} {value : String}
      (htold : uri.params = before ++ after)
      (hsilent : Http.Uri.params { uri with query := some query } =
        before ++ (silentParam, value) :: after) :
      Signals ⟨method, uri, headers⟩ ⟨method, { uri with query := some query }, headers⟩

/-- Two request heads say the same, except for what asks for silence. -/
structure SaysSame (head head' : Http.RequestHead) : Prop where
  method : head'.method = head.method
  path : head'.uri.path = head.uri.path
  values : ∀ name, name ≠ silentHeader → head'.headers.values name = head.headers.values name
  params : ∀ name, name ≠ silentParam →
    (head'.uri.params.any fun pair => pair.1 = name) =
      head.uri.params.any fun pair => pair.1 = name

section

variable {head head' : Http.RequestHead}

theorem Signals.saysSame (h : Signals head head') : SaysSame head head' := by
  cases h with
  | header before after hname value =>
    refine ⟨rfl, rfl, fun name hne => ?_, fun _ _ => rfl⟩
    have hother : ¬silentHeader = name := Ne.symm hne
    simp [Http.Headers.values, hname, hother]
  | param htold hsilent =>
    refine ⟨rfl, rfl, fun _ _ => rfl, fun name hne => ?_⟩
    have hother : ¬silentParam = name := Ne.symm hne
    simp [htold, hsilent, hother]

theorem Signals.isSilent (h : Signals head head') {x : Http.Exchange} (hx : x.request = head') :
    Flow.isSilent x = true := by
  rw [Flow.isSilent, Http.Exchange.hasParam_eq, hx, Bool.or_eq_true]
  cases h with
  | header before after hname value =>
    refine .inl ?_
    simp [Http.Headers.has, Http.Headers.first?, Http.Headers.values, hname]
  | param htold hsilent =>
    refine .inr ?_
    simp [hsilent]

theorem SaysSame.first? (h : SaysSame head head') (name : String) (hne : name ≠ silentHeader) :
    head'.headers.first? name = head.headers.first? name := by
  rw [Http.Headers.first?, Http.Headers.first?, h.values name hne]

end

variable {settings : Setup} {r : Http.Request} {head' : Http.RequestHead}

/-- What a request says by itself is not about silence. -/
theorem context_of_saysSame (h : SaysSame r.head head') (policy : EtagPolicy) :
    Context.ofExchange (.ofRequest { r with head := head' }) policy =
      Context.ofExchange (.ofRequest r) policy := by
  have hmethod : (Http.Exchange.ofRequest { r with head := head' }).request.method =
      (Http.Exchange.ofRequest r).request.method := h.method
  have hpath : (Http.Exchange.ofRequest { r with head := head' }).request.uri.path =
      (Http.Exchange.ofRequest r).request.uri.path := h.path
  have htag : (Http.Exchange.ofRequest { r with head := head' }).request.headers.first? "if-match" =
      (Http.Exchange.ofRequest r).request.headers.first? "if-match" := h.first? _ (by decide)
  have hparam : Http.Exchange.hasParam (.ofRequest { r with head := head' }) Flow.checkEtagParam =
      Http.Exchange.hasParam (.ofRequest r) Flow.checkEtagParam := by
    rw [Http.Exchange.hasParam_eq, Http.Exchange.hasParam_eq]
    exact h.params _ (by decide)
  simp only [Context.ofExchange, Context.requiresEtag, Context.etagOfHeaders?, hmethod, hpath,
    htag, hparam]

/-- A request begins alike with a head that says the same. -/
theorem passageOf_of_saysSame (h : SaysSame r.head head') :
    passageOf settings { r with head := head' } = (passageOf settings r).withHead head' := by
  simp only [passageOf, context_of_saysSame h]
  rfl

theorem verdict_withHead (h : SaysSame r.head head') :
    Flow.verdict settings.security.rules ((passageOf settings r).withHead head') =
      Flow.verdict settings.security.rules (passageOf settings r) := by
  have hoffered : Access.Credentials.ofHeaders head'.headers =
      Access.Credentials.ofHeaders r.head.headers := by
    rw [Access.Credentials.ofHeaders, Access.Credentials.ofHeaders, h.first? _ (by decide)]
  change settings.security.rules.judge head'.headers head'.method _ =
    settings.security.rules.judge r.head.headers r.head.method _
  rw [Access.Rules.judge, Access.Rules.judge, hoffered, h.method]
  rfl

theorem dressed_of_saysSame (h : SaysSame r.head head') (fresh : Http.HeaderValue)
    (response : Http.Response) :
    dressed { r with head := head' } fresh response = dressed r fresh response := by
  simp only [dressed, h.method, h.first? requestIdHeader (by decide)]

@[simp] theorem responseOf_withHead (result : Flow.Result) (head : Http.RequestHead) :
    responseOf (result.withHead head) = responseOf result := by
  obtain ⟨outcome, p⟩ := result
  cases outcome with
  | ok => rfl
  | error =>
    change ((p.exchange.withHead head).conclude _ _).response = _
    rw [Http.Exchange.conclude_withHead]
    rfl

/-- Unless it is asked for credentials, a request is served by the same calls and with the same
response whatever it says about silence. -/
theorem serve_of_saysSame (h : SaysSame r.head head')
    (hverdict : hasPath r.head.uri = true →
      Flow.verdict settings.security.rules (passageOf settings r) ≠ .unauthenticated)
    (fresh : Http.HeaderValue) :
    serve settings fresh { r with head := head' } = serve settings fresh r := by
  have htypes : Flow.SameTypes (passageOf settings r).exchange.request head' :=
    (h.values "content-type" (by decide)).symm
  have hrespond : hasPath r.head.uri = true →
      respond settings { r with head := head' } = respond settings r := by
    intro hpath
    have hchain : Flow.chain settings.security.rules (bodyReading settings)
        ((passageOf settings r).withHead head') =
        (Flow.chain settings.security.rules (bodyReading settings) (passageOf settings r)).bind
          fun result => .done (result.withHead head') := by
      simp only [Flow.chain, Flow.admission, verdict_withHead h]
      cases hv : Flow.verdict settings.security.rules (passageOf settings r) with
      | admitted caller =>
        let admitted : Passage := { passageOf settings r with
          context := { (passageOf settings r).context with account := caller } }
        exact Flow.blind_afterAdmission (bodyReading settings) admitted htypes
      | unauthenticated => exact absurd hv (hverdict hpath)
      | forbidden => exact Flow.refuse_withHead _ _ _
    rw [respond, respond, passageOf_of_saysSame h, hchain, Program.bind_assoc]
    simp only [Program.done_bind, responseOf_withHead]
  have hpath : hasPath head'.uri = hasPath r.head.uri := by
    rw [hasPath, hasPath, h.path]
  simp only [serve, hpath, dressed_of_saysSame h]
  split
  · rename_i haddressed
    rw [hrespond haddressed]
  · rfl

/-- The response to a request that is asked for credentials, once its exchange holds a challenge or
none. -/
def refusal (r : Http.Request) (fresh : Http.HeaderValue) (x : Http.Exchange) : Http.Response :=
  dressed r fresh (x.conclude .unauthorized "Unauthorized").response

/-- A request that is asked for credentials is asked at once. -/
theorem serve_of_unauthenticated (hpath : hasPath r.head.uri = true)
    (hverdict : Flow.verdict settings.security.rules (passageOf settings r) = .unauthenticated)
    (fresh : Http.HeaderValue) :
    serve settings fresh r =
      .done (refusal r fresh (Flow.challenged settings.security.rules (.ofRequest r))) := by
  rw [serve, if_pos hpath, respond, Flow.chain]
  simp only [Flow.admission, hverdict]
  rfl

/-- Whoever is asked for credentials leaves the state as it is. -/
theorem visit_of_unauthenticated (v : Visit) (hpath : hasPath v.request.head.uri = true)
    (hverdict : Flow.verdict settings.security.rules (passageOf settings v.request) =
      .unauthenticated) (clock : Nat → Nat) (s : Clocked) :
    v.serve settings clock s = (refusal v.request v.fresh
      (Flow.challenged settings.security.rules (.ofRequest v.request)), s) := by
  rw [Visit.serve, serve_of_unauthenticated hpath hverdict]
  rfl

theorem quiet_responseOf {result : Flow.Result}
    (h : Flow.Quiet result.passage.exchange.response) : Flow.Quiet (responseOf result) := by
  unfold responseOf
  split
  · exact h
  · exact h.conclude (by decide) _

/-- A request that is not asked for credentials gets a response that does not ask for them. -/
theorem every_serve
    (hverdict : hasPath r.head.uri = true →
      Flow.verdict settings.security.rules (passageOf settings r) ≠ .unauthenticated)
    (fresh : Http.HeaderValue) : (serve settings fresh r).Every Flow.FairAnswer Flow.Quiet := by
  have hdressed : ∀ response, Flow.Quiet response → Flow.Quiet (dressed r fresh response) :=
    fun response h => ⟨h.status, (Keyed.get?_insert_of_ne _ _ (by decide)).trans h.unchallenged⟩
  unfold serve
  split
  · rename_i hpath
    have hok : Http.Status.ok ≠ .unauthorized := by decide
    have hbegun : Flow.Quiet (passageOf settings r).exchange.response := ⟨hok, rfl⟩
    have hchain : (Flow.chain settings.security.rules (bodyReading settings)
        (passageOf settings r)).Every Flow.FairAnswer
          fun result => Flow.Quiet result.passage.exchange.response := by
      simp only [Flow.chain, Flow.admission]
      cases hv : Flow.verdict settings.security.rules (passageOf settings r) with
      | admitted caller => exact Flow.keepsQuiet_afterAdmission _ _ hbegun
      | unauthenticated => exact absurd hv (hverdict hpath)
      | forbidden => exact Flow.every_refuse hbegun (by decide) _
    have hrespond : (respond settings r).Every Flow.FairAnswer Flow.Quiet :=
      hchain.bind fun _ h => quiet_responseOf h
    exact hrespond.bind hdressed
  · exact hdressed _ ⟨by decide, rfl⟩

/-- The database of the gateway never asks for credentials. -/
theorem fairAnswer_answer (v : Visit) (clock : Nat → Nat) (c : Flow.Call) (s : Clocked) :
    Flow.FairAnswer c (v.answer clock c s).1 := by
  cases c with
  | upsert db w =>
    intro hstatus
    have hmem := Store.Database.status_upsert s.state.databases db w
      (v.occasion (clock s.readings)).etag
    rw [hstatus] at hmem
    exact absurd hmem (by decide)
  | cached | generation | remember | forget | load | reserve | handOver => exact True.intro

/-- A refusal without a challenge is the one with a challenge, less the challenge. -/
theorem refusal_challenged (rules : Access.Rules) (r : Http.Request) (fresh : Http.HeaderValue) :
    let told := refusal r fresh
      ((Http.Exchange.ofRequest r).setHeader challengeHeader rules.challenge)
    refusal r fresh (.ofRequest r) =
        { told with headers := told.headers.erase challengeHeader } ∧
      told.headers.get? challengeHeader = some rules.challenge ∧
      told.status = .unauthorized := by
  intro told
  let id := (Http.Headers.first? r.head.headers requestIdHeader).getD fresh
  have hheaders : told.headers = Keyed.insert (Keyed.insert
      (Keyed.insert [] challengeHeader rules.challenge) "content-type" Http.MediaType.text.value)
      requestIdHeader id := rfl
  have hchallenged : Keyed.Ordered (Keyed.insert [] challengeHeader rules.challenge) :=
    Keyed.ordered_nil.insert _ _
  have htyped := hchallenged.insert "content-type" Http.MediaType.text.value
  refine ⟨?_, ?_, rfl⟩
  · rw [hheaders, htyped.erase_insert_of_ne (by decide), hchallenged.erase_insert_of_ne (by decide),
      Keyed.ordered_nil.erase_insert_self]
    rfl
  · rw [hheaders, Keyed.get?_insert_of_ne _ _ (by decide), Keyed.get?_insert_of_ne _ _ (by decide),
      Keyed.get?_insert_self]

/-- Under any settings, in any state and whatever the clock says, a request that does not ask for
silence and the same request with the header or the parameter that asks for it leave the same state
and get the same response, up to the challenge. The request that asks for silence gets none, and the
other one gets that of the rules exactly if the status is 401, which it is exactly if its target has
a path and its credentials cannot be read or do not verify, or none were offered and no permission
grants the request to everybody. -/
theorem silence_drops_challenge (settings : Setup) (clock : Nat → Nat) (v : Visit)
    (s : Clocked) (head' : Http.RequestHead)
    (htold : Flow.isSilent (.ofRequest v.request) = false) (h : Signals v.request.head head') :
    let told := v.serve settings clock s
    let asking : Visit := { v with request := { v.request with head := head' } }
    let silent := asking.serve settings clock s
    let rules := settings.security.rules
    let path := Flow.joinPath (Flow.segments v.request.head.uri.path)
    silent.2 = told.2 ∧
      silent.1 = { told.1 with headers := told.1.headers.erase challengeHeader } ∧
      silent.1.headers.get? challengeHeader = none ∧
      told.1.headers.get? challengeHeader =
        (if told.1.status = .unauthorized then some rules.challenge else none) ∧
      (told.1.status = .unauthorized ↔ hasPath v.request.head.uri = true ∧
        rules.Refuses v.request.head.headers v.request.head.method path .unauthorized) := by
  intro told asking silent rules path
  have hsame := h.saysSame
  rw [← Access.Rules.judge_eq_unauthenticated_iff]
  by_cases hasks : hasPath v.request.head.uri = true ∧
      Flow.verdict rules (passageOf settings v.request) = .unauthenticated
  · obtain ⟨hpath, hverdict⟩ := hasks
    have hpath' : hasPath head'.uri = true := by
      rwa [hasPath, hsame.path]
    have hverdict' : Flow.verdict rules
        (passageOf settings { v.request with head := head' }) = .unauthenticated := by
      rw [passageOf_of_saysSame hsame, verdict_withHead hsame, hverdict]
    obtain ⟨herased, hchallenge, hstatus⟩ := refusal_challenged rules v.request v.fresh
    have hserve : told = (refusal v.request v.fresh
        ((Http.Exchange.ofRequest v.request).setHeader challengeHeader rules.challenge), s) := by
      refine (visit_of_unauthenticated v hpath hverdict clock s).trans ?_
      rw [Flow.challenged, htold]
      rfl
    have hserve' : silent = (refusal v.request v.fresh (.ofRequest v.request), s) := by
      refine (visit_of_unauthenticated asking hpath' hverdict' clock s).trans ?_
      rw [refusal, dressed_of_saysSame hsame, Flow.challenged, if_pos (h.isSilent rfl)]
      rfl
    rw [hserve, hserve']
    refine ⟨rfl, herased, ?_, ?_, iff_of_true hstatus ⟨hpath, hverdict⟩⟩
    · rw [herased, Keyed.get?_erase, if_pos rfl]
    · rw [if_pos hstatus]
      exact hchallenge
  · have hverdict : hasPath v.request.head.uri = true →
        Flow.verdict rules (passageOf settings v.request) ≠ .unauthenticated :=
      fun hpath hv => hasks ⟨hpath, hv⟩
    have hquiet : Flow.Quiet told.1 :=
      (every_serve hverdict v.fresh).run (fairAnswer_answer v clock) s
    have hserve : silent = told := by
      change (serve settings v.fresh _).run (v.answer clock) s = _
      rw [serve_of_saysSame hsame hverdict]
      rfl
    refine ⟨by rw [hserve], ?_, by rw [hserve, hquiet.unchallenged], ?_, ?_⟩
    · rw [hserve, Keyed.erase_of_get?_eq_none hquiet.unchallenged]
    · rw [if_neg hquiet.status, hquiet.unchallenged]
    · exact iff_of_false hquiet.status hasks

/-- A stranger who writes to a database. -/
def strangerVisit : Visit :=
  ⟨⟨⟨.put, ⟨none, none, "/shop", some "a=1"⟩, [⟨{ text := "authorization" },
      { bytes := Text.Utf8.encode "Basic eDp5" }⟩]⟩, .ofBytes []⟩, firstVersion, "first", .ok ()⟩

/-- What the stranger says to ask for silence: a header with any value, or a parameter after those
that are there. -/
def silentHeads : List Http.RequestHead :=
  [{ strangerVisit.request.head with
      headers := strangerVisit.request.head.headers ++
        [⟨{ text := silentHeader }, { bytes := Text.Utf8.encode "false" }⟩] },
    { strangerVisit.request.head with
      uri := ⟨none, none, "/shop", some ("a=1" ++ "&" ++ silentParam)⟩ }]

/-- The stranger is told to give credentials, and asked for them unless asking for silence. -/
theorem silence_drops_challenge_stranger :
    let start : Clocked := ⟨.ofSettings default, 0⟩
    let told := strangerVisit.serve default (fun reading => reading) start
    told.1.status = .unauthorized ∧
      told.1.headers.get? challengeHeader =
        some (default : Setup).security.rules.challenge ∧
      ∀ head' ∈ silentHeads,
        let silent := Visit.serve
          { strangerVisit with request := { strangerVisit.request with head := head' } } default
          (fun reading => reading) start
        silent.2 = told.2 ∧ silent.1.status = .unauthorized ∧
          silent.1.headers.get? challengeHeader = none := by
  intro start told
  have hsignals : ∀ head' ∈ silentHeads, Signals strangerVisit.request.head head' := by
    intro head' hm
    simp only [silentHeads, List.mem_cons, List.not_mem_nil, or_false] at hm
    rcases hm with rfl | rfl
    · exact .header strangerVisit.request.head.headers [] rfl _
    · exact .param rfl (Http.Uri.params_append ⟨none, none, "/shop", none⟩ "a=1" silentParam)
  have htold : Flow.isSilent (.ofRequest strangerVisit.request) = false := by decide +kernel
  have hdrops := fun head' hm => silence_drops_challenge default (fun reading => reading)
    strangerVisit start head' htold (hsignals head' hm)
  have hstatus : told.1.status = .unauthorized := by
    obtain ⟨-, -, -, -, hiff⟩ := hdrops _ List.mem_cons_self
    have hunknown : Access.verify (default : Setup).security.rules.users ⟨"x", "y"⟩ = none := rfl
    exact hiff.mpr ⟨by decide, .unverified rfl hunknown⟩
  refine ⟨hstatus, ?_, fun head' hm => ?_⟩
  · obtain ⟨-, -, -, hchallenge, -⟩ := hdrops _ List.mem_cons_self
    exact hchallenge.trans (if_pos hstatus)
  · obtain ⟨hstate, hresponse, hnone, -, -⟩ := hdrops head' hm
    exact ⟨hstate, (congrArg Http.Response.status hresponse).trans hstatus, hnone⟩

end Gateway

end DocumentGateway
