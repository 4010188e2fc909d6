import DocumentGateway.Gateway.Crowd
import DocumentGateway.Proofs.Flow.Intake
import DocumentGateway.Proofs.Flow.Write
import DocumentGateway.Proofs.Http.Exchange

/-!
# How requests conduct themselves

Every request obeys the protocol for the database that it addresses, whatever stage it ends at. What
it writes is made for the version that its headers name, and the response it ends with tells what it
did: a success in answer to PUT or PATCH stands for one write that the cache has heard of, and
anything else for none. So it is with every request of a crowd, whoever goes on in which turn.
-/

namespace DocumentGateway.Gateway

open DocumentGateway.Flow (Brings Call Context Failure Passage Phase Program Result Stage)

/-- The database that a request addresses; the empty name stands for none. -/
def addressedDb (r : Http.Request) : String := (Flow.segments r.head.uri.path).head?.getD ""

/-- Whether the method of a request is one that writes. -/
def isWriting (r : Http.Request) : Bool := r.head.method.verb = .put || r.head.method.verb = .patch

/-- The version that a request names in its headers. -/
def versionMeant? (r : Http.Request) : Option String := Context.etagOfHeaders? r.head.headers

/-- Whether a request has to name a version. -/
def isVersionRequired (settings : Setup) (r : Http.Request) : Bool :=
  Context.requiresEtag settings.etagCheck.db (Http.Exchange.ofRequest r)

/-- The document that a request sends; without a document to send it counts as an empty one. -/
def sentDocument (r : Http.Request) : Document := Flow.spelledDocument r.body.bytes

theorem ordered_sentDocument (r : Http.Request) : Keyed.Ordered (sentDocument r) :=
  Flow.ordered_spelledDocument _

/-- A write is what a request asks for under some settings: to the database that it addresses, which
has a name that allows it, for the version that it names, or for any if none is required, as its
method says, and with the document that it sends, apart from the reserved keys, whose transforms are
well-formed. -/
structure WrittenFor (settings : Setup) (r : Http.Request) (w : Store.Write) : Prop where
  name : Flow.isWritableName (addressedDb r) = true
  etag : w.etag = versionMeant? r
  checkEtag : w.checkEtag = isVersionRequired settings r
  patching : w.patching = decide (r.head.method.verb = .patch)
  content : w.content = (sentDocument r).withoutReserved
  transforms : ∃ transforms, Transform.ofDocument w.content = .ok transforms

/-- The names in what is written are in order. -/
theorem WrittenFor.ordered {settings : Setup} {r : Http.Request} {w : Store.Write}
    (h : WrittenFor settings r w) : Keyed.Ordered w.content := by
  rw [h.content]
  exact (ordered_sentDocument r).filterKeys _

/-- A response tells what has been done for a request: to PUT and PATCH, success together with the
version that was written, if and only if the cache has been told of a write. -/
def Reports (r : Http.Request) : Phase → Http.Response → Prop
  | .written _, _ => False
  | .published result, response =>
    isWriting r = true ∧ response.status.isSuccess = true ∧
      response.headers.get? "etag" = result.etag.bind Http.HeaderValue.ofText?
  | _, response => isWriting r = true → response.status.isSuccess = false

/-- A request under way: the response is as at the start, and the context knows what the request
says. -/
structure Underway (settings : Setup) (r : Http.Request) (p : Passage) : Prop where
  exchange : p.exchange = { Http.Exchange.ofRequest r with body := p.exchange.body }
  context : p.context.Agrees (passageOf settings r).context

/-- A request whose body is still to be taken. -/
structure Begun (settings : Setup) (r : Http.Request) (p : Passage) : Prop
    extends Underway settings r p where
  body : p.exchange.body = some r.body

/-- A request that has been taken in: if it writes, and not to a file, its content brings what it
sends. -/
structure TakenIn (settings : Setup) (r : Http.Request) (p : Passage) : Prop
    extends Underway settings r p where
  content : isWriting r = true → Flow.bringsFile (passageOf settings r).context = false →
    Brings p.context.content (sentDocument r).withoutReserved

/-- A stage sees a request that has come so far to its end by the protocol. -/
def Handles (settings : Setup) (r : Http.Request) (come : Passage → Prop) (stage : Stage) :
    Prop :=
  ∀ p, come p →
    (stage p).Obeys (addressedDb r) (WrittenFor settings r)
      (fun ψ result => Reports r ψ (responseOf result)) .idle

section

variable {settings : Setup} {r : Http.Request} {p : Passage}

namespace Underway

theorem ended (h : Underway settings r p) : p.exchange.ended = false := by
  rw [h.exchange]
  rfl

theorem response (h : Underway settings r p) : p.exchange.response = ⟨.ok, [], none⟩ := by
  rw [h.exchange]
  rfl

theorem db (h : Underway settings r p) : p.context.db = addressedDb r := by
  rw [h.context]
  rfl

theorem verb (h : Underway settings r p) : p.context.verb = r.head.method.verb := by
  rw [h.context]
  rfl

theorem etag (h : Underway settings r p) : p.context.etag = versionMeant? r := by
  rw [h.context]
  rfl

theorem etagRequired (h : Underway settings r p) :
    p.context.etagRequired = isVersionRequired settings r := by
  rw [h.context]
  rfl

theorem bringsFile (h : Underway settings r p) :
    Flow.bringsFile p.context = Flow.bringsFile (passageOf settings r).context := by
  rw [h.context]
  rfl

end Underway

/-- A refusal reports that nothing was written. -/
theorem obeys_refuse (h : p.exchange.ended = false) {status : Http.Status}
    (hs : status.isSuccess = false) (message : String) :
    (p.refuse status message).Obeys (addressedDb r) (WrittenFor settings r)
      (fun ψ result => Reports r ψ (responseOf result)) .idle := by
  intro _
  change (p.exchange.conclude status message).response.status.isSuccess = false
  rw [Http.Exchange.status_conclude h, hs]

/-- So does a failure. -/
theorem obeys_failure (h : p.exchange.ended = false) (e : Failure) :
    (Program.done (⟨.error e, p⟩ : Result)).Obeys (addressedDb r) (WrittenFor settings r)
      (fun ψ result => Reports r ψ (responseOf result)) .idle := by
  intro _
  change (p.exchange.conclude .internalServerError _).response.status.isSuccess = false
  rw [Http.Exchange.status_conclude h]
  rfl

/-- While the response is open, it gets a version if that may stand in a header. -/
theorem get?_setEtag (h : Underway settings r p) (etag : Option String) :
    (Flow.setEtag p.exchange etag).response.headers.get? "etag" =
      etag.bind Http.HeaderValue.ofText? := by
  unfold Flow.setEtag
  split
  · rename_i value hvalue
    simp [Http.Exchange.setHeader, Http.Exchange.amend, h.ended, hvalue]
  · rename_i hnone
    rw [h.response, hnone]
    rfl

/-- While the response is open, it gets the version of the write. -/
theorem etag_record (h : Underway settings r p) (result : Store.WriteResult) :
    (p.record result).exchange.response.headers.get? "etag" =
      result.etag.bind Http.HeaderValue.ofText? := get?_setEtag h _

/-- After the database has answered, the request ends as the outcome has it. -/
theorem obeys_afterWrite (h : Underway settings r p) (hr : isWriting r = true)
    {result : Store.WriteResult} (hs : result.status.isSuccess = true) :
    (Flow.afterWrite Stage.stop p result).Obeys (addressedDb r) (WrittenFor settings r)
      (fun ψ result => Reports r ψ (responseOf result)) (.written result) := by
  rw [Flow.afterWrite_of_success Stage.stop p hs, h.db]
  intro _
  refine ⟨.published result, .forget result, ?_⟩
  have hended : (p.record result).exchange.ended = false :=
    (Flow.ended_record p result).trans h.ended
  obtain ⟨hstatus, hetag⟩ := Flow.response_acknowledge hended hs
  exact ⟨hr, hstatus, hetag.trans (etag_record h result)⟩

theorem brought_of_writableDocument {mode : Flow.WriteMode} {c : Context} {brought d : Document}
    (hd : Flow.writableDocument mode c = .ok d) (h : Brings c.content brought) :
    Flow.isWritableName c.db = true ∧ d = brought ∧
      ∃ transforms, Transform.ofDocument d = .ok transforms := by
  obtain ⟨hname, hdocument, htransforms⟩ := Flow.writableDocument_eq_ok_iff.mp hd
  exact ⟨hname, h mode d hdocument, htransforms⟩

theorem handles_write {mode : Flow.WriteMode} (hr : isWriting r = true)
    (hmode : decide (mode = .merge) = decide (r.head.method.verb = .patch))
    (hfile : Flow.bringsFile (passageOf settings r).context = false) :
    Handles settings r (TakenIn settings r) (Flow.write mode Stage.stop) := by
  intro p h
  unfold Flow.write
  cases hd : Flow.writableDocument mode p.context with
  | error e => exact obeys_refuse h.ended rfl _
  | ok d =>
    obtain ⟨hname, hcontent, htransforms⟩ :=
      brought_of_writableDocument hd (h.content hr hfile)
    have hkind : WrittenFor settings r (Flow.writeOf mode p.context d) :=
      ⟨h.db ▸ hname, h.etag, h.etagRequired, hmode, hcontent, htransforms⟩
    have hmove : ∀ {answer ψ},
        Flow.Moves p.context.db (WrittenFor settings r) .idle (.upsert p.context.db _) answer ψ →
          Flow.Moves (addressedDb r) (WrittenFor settings r) .idle
            (.upsert p.context.db (Flow.writeOf mode p.context d)) answer ψ := by
      intro answer ψ hm
      rwa [← h.db]
    intro answer
    match answer with
    | .error e => exact ⟨.idle, hmove (.unwritten hkind e), obeys_failure h.ended _⟩
    | .ok result =>
      cases hs : result.status.isSuccess with
      | true =>
        exact ⟨.written result, hmove (.written hkind hs), obeys_afterWrite h.toUnderway hr hs⟩
      | false =>
        refine ⟨.idle, hmove (.refused hkind hs), ?_⟩
        obtain ⟨status, message, hfailure, hrefuse⟩ :=
          Flow.afterWrite_of_not_success Stage.stop p hs
        simp only [hrefuse]
        exact obeys_refuse ((Flow.ended_record p result).trans h.ended) hfailure message

theorem handles_present (hr : isWriting r = false) :
    Handles settings r (TakenIn settings r) (Flow.present Stage.stop) := by
  intro p h
  unfold Flow.present
  cases p.context.props with
  | none => exact obeys_refuse h.ended rfl _
  | some props =>
    intro hw
    rw [hr] at hw
    cases hw

/-- Only PUT and PATCH lead to a write, and nothing else leads from them; what brings a file has no
task. -/
theorem of_task {c : Context} {task : Flow.Task}
    (h : Flow.Task.of? c.resource c.verb = some task) (hv : c.verb = r.head.method.verb) :
    isWriting r = decide (task ≠ .present) ∧
      decide (task = .merge) = decide (r.head.method.verb = .patch) ∧
      Flow.bringsFile c = false := by
  unfold Flow.Task.of? at h
  unfold isWriting Flow.bringsFile
  rw [← hv]
  split at h
  case h_5 => cases h
  all_goals
    rename_i hresource hverb
    cases h
    simp [hresource, hverb]

theorem handles_dispatch :
    Handles settings r (TakenIn settings r) (Flow.dispatch Flow.Task.stage) := by
  intro p h
  unfold Flow.dispatch
  cases ht : Flow.Task.of? p.context.resource p.context.verb with
  | none => exact obeys_refuse h.ended rfl _
  | some task =>
    obtain ⟨hr, hmode, hfile⟩ := of_task ht h.verb
    have hfile : Flow.bringsFile (passageOf settings r).context = false := h.bringsFile ▸ hfile
    cases task with
    | replace => exact handles_write hr hmode hfile p h
    | merge => exact handles_write hr hmode hfile p h
    | present => exact handles_present hr p h

theorem handles_lookup {next : Stage} (hnext : Handles settings r (TakenIn settings r) next) :
    Handles settings r (TakenIn settings r) (Flow.lookup next) := by
  intro p h
  unfold Flow.lookup
  split
  · exact hnext p h
  · rw [h.db]
    refine (Flow.obeys_currentProps _ _).bind fun ψ read hread => ?_
    subst hread
    cases read with
    | error e => exact obeys_failure h.ended _
    | ok props => exact hnext _ ⟨⟨h.exchange, h.context.learn _ _ _ _ _ _⟩, h.content⟩

theorem afterReading_eq (h : Underway settings r p) :
    Flow.afterReading p =
      { Http.Exchange.ofRequest r with body := (Flow.afterReading p).body } := by
  unfold Flow.afterReading
  split
  · change { p.exchange with body := none } = _
    rw [h.exchange]
    rfl
  · exact h.exchange

/-- What comes next gets a request that has been taken in, if there is no fault in its content. -/
theorem obeys_readContent {reading : Flow.BodyReading} {next : Stage}
    (hnext : Handles settings r (TakenIn settings r) next) (h : Begun settings r p) :
    ((Flow.readContent reading p).bind fun (read, context) =>
      match read with
      | .error e => Flow.proceed next ⟨Flow.afterReading p, context⟩ (.error e)
      | .ok content =>
        Flow.proceed next ⟨Flow.afterReading p, (Flow.settle content context).2⟩
          (Flow.settle content context).1).Obeys (addressedDb r)
        (WrittenFor settings r) (fun ψ result => Reports r ψ (responseOf result)) .idle := by
  have hexchange := afterReading_eq h.toUnderway
  have hended : (Flow.afterReading p).ended = false := by
    rw [hexchange]
    rfl
  have hfault : ∀ (e : BodyError) (context : Context),
      (Flow.proceed next ⟨Flow.afterReading p, context⟩ (.error e)).Obeys (addressedDb r)
        (WrittenFor settings r) (fun ψ result => Reports r ψ (responseOf result)) .idle := by
    intro e context
    cases e with
    | storage reason => exact obeys_failure hended _
    | _ => exact obeys_refuse hended rfl _
  refine (Flow.obeys_readContent reading p h.context).bind fun ψ read hread => ?_
  obtain ⟨read, context⟩ := read
  obtain ⟨rfl, hcontext, hcontent⟩ := hread
  cases read with
  | error e => exact hfault e context
  | ok content =>
    have hagrees := Flow.agrees_settle hcontext content
    cases hs : (Flow.settle content context).1 with
    | error e =>
      simp only [hs]
      exact hfault e _
    | ok settled =>
      simp only [hs]
      refine hnext _ ⟨⟨hexchange, hagrees.learn _ _ _ _ _ _⟩, fun _ hfile => ?_⟩
      rw [← h.bringsFile] at hfile
      change Brings settled _
      rw [Flow.eq_of_settle hs]
      exact Flow.brings_of_jsonContent (hcontent hfile r.body h.body).symm

theorem handles_intake (reading : Flow.BodyReading) {next : Stage}
    (hnext : Handles settings r (TakenIn settings r) next) :
    Handles settings r (Begun settings r) (Flow.intake reading next) := by
  intro p h
  have hspared : isWriting r = false → (next p).Obeys (addressedDb r) (WrittenFor settings r)
      (fun ψ result => Reports r ψ (responseOf result)) .idle := by
    intro hr
    exact hnext p ⟨h.toUnderway, fun hw => absurd hw (by simp [hr])⟩
  unfold Flow.intake
  split
  · rename_i hv
    exact hspared (by simp [isWriting, ← h.verb, hv])
  · rename_i hv
    exact hspared (by simp [isWriting, ← h.verb, hv])
  · rename_i hv
    exact hspared (by simp [isWriting, ← h.verb, hv])
  · exact obeys_readContent hnext h

theorem handles_admission (rules : Access.Rules) {next : Stage}
    (hnext : Handles settings r (Begun settings r) next) :
    Handles settings r (Begun settings r) (Flow.admission rules next) := by
  intro p h
  unfold Flow.admission
  split
  · exact hnext _ ⟨⟨h.exchange, h.context.learn _ _ _ _ _ _⟩, h.body⟩
  · refine obeys_refuse ?_ rfl _
    change (Flow.challenged rules p.exchange).ended = false
    unfold Flow.challenged
    split
    · exact h.ended
    · exact (Http.Exchange.ended_amend _ _).trans h.ended
  · exact obeys_refuse h.ended rfl _

end

/-- Dressing a response changes nothing that it reports. -/
theorem reports_dressed {r : Http.Request} {ψ : Phase} {response : Http.Response}
    (h : Reports r ψ response) (fresh : Http.HeaderValue) :
    Reports r ψ (dressed r fresh response) := by
  have hetag : (dressed r fresh response).headers.get? "etag" = response.headers.get? "etag" :=
    Keyed.get?_insert_of_ne _ _ (by decide)
  cases ψ with
  | written => exact h
  | published result => exact ⟨h.1, h.2.1, hetag.trans h.2.2⟩
  | idle | noted | holding => exact h

/-- Every request obeys the protocol, and its response reports what it has done. -/
theorem obeys_serve (settings : Setup) (fresh : Http.HeaderValue) (r : Http.Request) :
    (serve settings fresh r).Obeys (addressedDb r) (WrittenFor settings r) (Reports r) .idle := by
  have hchain : Handles settings r (Begun settings r)
      (Flow.chain settings.security.rules (bodyReading settings)) :=
    handles_admission _ (handles_intake _ (handles_lookup handles_dispatch))
  have hresponse : (if hasPath r.head.uri then respond settings r else .done unaddressed).Obeys
      (addressedDb r) (WrittenFor settings r) (Reports r) .idle := by
    split
    · exact (hchain _ ⟨⟨rfl, rfl⟩, rfl⟩).bind fun ψ result h => h
    · exact fun _ => rfl
  exact hresponse.bind fun ψ response h => reports_dressed h fresh

/-- All requests of a crowd obey the protocol, each at a phase that is as it should be. -/
def Crowd.Obeys {τ σ : Type} (visitors : Nat → Visitor) (stands : Nat → Phase → Prop)
    (crowd : Crowd τ σ) : Prop :=
  ∀ party, ∃ φ, (crowd.programs party).Obeys (addressedDb (visitors party).request)
    (WrittenFor (visitors party).settings (visitors party).request)
    (Reports (visitors party).request) φ ∧ stands party φ

namespace Crowd.Obeys

variable {τ σ : Type} {visitors : Nat → Visitor} {stands stands' : Nat → Phase → Prop}
  {crowd : Crowd τ σ} {turn : Turn τ} {c : Call} {next : c.Answer → Program Http.Response}

theorem start {state : σ} (h : ∀ party, stands party .idle) :
    (Crowd.start visitors state : Crowd τ σ).Obeys visitors stands :=
  fun party => ⟨.idle, obeys_serve _ _ _, h party⟩

/-- The call that is made in a turn is a move of the protocol. -/
theorem moves (h : crowd.Obeys visitors stands) (answer : τ → (c : Call) → σ → c.Answer × σ)
    (hprogram : crowd.programs turn.party = .call c next) :
    ∃ φ ψ, stands turn.party φ ∧ Flow.Moves (addressedDb (visitors turn.party).request)
      (WrittenFor (visitors turn.party).settings (visitors turn.party).request) φ c
      (crowd.event answer turn c).answer ψ := by
  obtain ⟨φ, hobeys, hstands⟩ := h turn.party
  rw [hprogram] at hobeys
  obtain ⟨ψ, hmove, _⟩ := hobeys (crowd.event answer turn c).answer
  exact ⟨φ, ψ, hstands, hmove⟩

/-- Whoever makes a call moves on by the protocol, and the others stay where they are. -/
theorem advance {answer : τ → (c : Call) → σ → c.Answer × σ} (h : crowd.Obeys visitors stands)
    (hprogram : crowd.programs turn.party = .call c next)
    (hmover : ∀ φ ψ, stands turn.party φ →
      Flow.Moves (addressedDb (visitors turn.party).request)
        (WrittenFor (visitors turn.party).settings (visitors turn.party).request) φ c
        (crowd.event answer turn c).answer ψ → stands' turn.party ψ)
    (hothers : ∀ party φ, stands party φ → stands' party φ) :
    (crowd.advance answer turn c next).Obeys visitors stands' := by
  intro party
  by_cases hparty : party = turn.party
  · subst hparty
    obtain ⟨φ, hobeys, hstands⟩ := h turn.party
    rw [hprogram] at hobeys
    obtain ⟨ψ, hmove, hrest⟩ := hobeys (crowd.event answer turn c).answer
    refine ⟨ψ, ?_, hmover φ ψ hstands hmove⟩
    simp only [Crowd.advance, if_true]
    exact hrest
  · obtain ⟨φ, hobeys, hstands⟩ := h party
    refine ⟨φ, ?_, hothers party φ hstands⟩
    simp only [Crowd.advance, hparty, if_false]
    exact hobeys

end Crowd.Obeys

/-- The default settings, with everything allowed to everybody. -/
def permissiveSettings : Setup :=
  { (default : Setup) with
    security := ⟨⟨"docgate", [], [⟨Access.anonymousRole, "/", []⟩]⟩, 1000⟩ }

/-- A PUT request with some headers and without content. -/
def putRequest (path : String) (headers : Http.Headers) : Http.Request :=
  ⟨⟨.put, ⟨none, none, path, none⟩, headers⟩, .ofBytes []⟩

/-- The version token of a first write. -/
def firstVersion : Http.HeaderValue := { bytes := Text.Utf8.encode "first" }

/-- One visitor who creates a database, and many who would all write over the same version of it. -/
def rivals : Nat → Visitor
  | 0 => ⟨permissiveSettings, firstVersion, putRequest "/shop" []⟩
  | _ => ⟨permissiveSettings, firstVersion,
      putRequest "/shop" [⟨{ text := "if-match" }, firstVersion⟩]⟩

end DocumentGateway.Gateway
