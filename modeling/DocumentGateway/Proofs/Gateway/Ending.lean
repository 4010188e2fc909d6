import DocumentGateway.Proofs.Flow.Record
import DocumentGateway.Proofs.Gateway.Refusal

/-!
# How requests end

A request comes to its end in one of five ways: the world fails it, the gateway refuses it, the
database turns its write down, the database makes its write, or the properties of a database are
shown. Only in the first of them is the exchange left open, and then nothing has been put into the
response; in the others it is ended, with what the record of the request accounts for.
-/

namespace DocumentGateway.Gateway

open DocumentGateway.Flow (Call Context Failure Found Passage Program Reply Result Stage)

/-- The response that an exchange begins with. -/
abbrev untouched : Http.Response := ⟨.ok, [], none⟩

/-- How a request for a database can end, by what it has heard. -/
inductive Ending (db : String) (verb : Http.Verb) (heard : List Reply) : Result → Prop where
  | failed {p : Passage} (e : Failure) (unended : p.exchange.ended = false)
      (untouched : p.exchange.response = untouched) : Ending db verb heard ⟨.error e, p⟩
  | refused {p : Passage} (ended : p.exchange.ended = true)
      (failure : p.exchange.response.status.isSuccess = false)
      (own : p.exchange.response.status ≠ .conflict) : Ending db verb heard ⟨.ok (), p⟩
  | rejected {p : Passage} {w : Store.Write} {result : Store.WriteResult}
      (asked : (⟨.upsert db w, .ok result⟩ : Reply) ∈ heard)
      (failure : result.status.isSuccess = false) (ended : p.exchange.ended = true)
      (status : p.exchange.response.status = result.status)
      (etag : p.exchange.response.headers.get? "etag" =
        result.etag.bind Http.HeaderValue.ofText?) : Ending db verb heard ⟨.ok (), p⟩
  | written {p : Passage} {w : Store.Write} {result : Store.WriteResult}
      (asked : (⟨.upsert db w, .ok result⟩ : Reply) ∈ heard)
      (writing : verb = .put ∨ verb = .patch) (ended : p.exchange.ended = true)
      (success : p.exchange.response.status.isSuccess = true)
      (told : p.exchange.response.status = result.status ∨
        p.exchange.response.body.isSome = true)
      (etag : p.exchange.response.headers.get? "etag" =
        result.etag.bind Http.HeaderValue.ofText?) : Ending db verb heard ⟨.ok (), p⟩
  | shown {p : Passage} {props : Document} (found : Found db heard props) (reading : verb = .get)
      (ended : p.exchange.ended = true) (sent : p.exchange.response.body.isSome = true)
      (etag : p.exchange.response.headers.get? "etag" =
        (props.text? etagField).bind Http.HeaderValue.ofText?) : Ending db verb heard ⟨.ok (), p⟩

/-- A request under way that has come so far with some record: what it knows of the database it has
found. -/
structure Underway.Informed (settings : Setup) (r : Http.Request) (heard : List Reply)
    (p : Passage) : Prop extends Underway settings r p where
  found : ∀ props, p.context.props = some props → Found (addressedDb r) heard props

/-- A stage brings every request that comes to it to one of its ends. -/
def Concludes (settings : Setup) (r : Http.Request) (stage : Stage) : Prop :=
  ∀ p heard, Underway.Informed settings r heard p →
    (stage p).Ends (Ending (addressedDb r) r.head.method.verb) heard

section

variable {settings : Setup} {r : Http.Request} {p : Passage} {heard more : List Reply}
  {next : Stage}

namespace Underway.Informed

theorem mono (h : Underway.Informed settings r heard p) (hmore : heard ⊆ more) :
    Underway.Informed settings r more p :=
  ⟨h.toUnderway, fun props hprops => (h.found props hprops).mono hmore⟩

/-- Whatever else is found out about a request, what it knows of the database stays. -/
theorem learn (h : Underway.Informed settings r heard p) (content : Content)
    (file : Option Bytes) (account : Option Access.Account) (warnings : List String) :
    Underway.Informed settings r heard { p with context := { p.context with
      content := content, file := file, account := account, warnings := warnings } } :=
  ⟨⟨h.exchange, h.context.learn _ _ _ _ _ _⟩, h.found⟩

end Underway.Informed

theorem ends_refuse (hopen : p.exchange.ended = false) {status : Http.Status}
    (hfailure : status.isSuccess = false) (hown : status ≠ .conflict) (message : String) :
    (p.refuse status message).Ends (Ending (addressedDb r) r.head.method.verb) heard := by
  have hstatus : (p.exchange.conclude status message).response.status = status :=
    Http.Exchange.status_conclude hopen _ _
  refine .refused rfl ?_ ?_
  · change (p.exchange.conclude status message).response.status.isSuccess = false
    rw [hstatus, hfailure]
  · change (p.exchange.conclude status message).response.status ≠ .conflict
    rwa [hstatus]

theorem ends_failure (h : Underway settings r p) (e : Failure) :
    (Program.done (⟨.error e, p⟩ : Result)).Ends (Ending (addressedDb r) r.head.method.verb)
      heard :=
  .failed e h.ended h.response

/-- An acknowledgement has the status of the write, or a body that holds the warnings. -/
theorem told_acknowledge (hopen : p.exchange.ended = false) (status : Http.Status) :
    (p.acknowledge status).exchange.response.status = status ∨
      (p.acknowledge status).exchange.response.body.isSome = true := by
  unfold Passage.acknowledge
  split
  · exact .inl (by simp [Http.Exchange.setStatus, Http.Exchange.amend, hopen])
  · exact .inr (by simp [Flow.sendWarnings, Http.Exchange.setStatus, Http.Exchange.send,
      Http.Exchange.sendAs, Http.Exchange.amend, hopen])

theorem ends_afterWrite (h : Underway settings r p) {w : Store.Write} {result : Store.WriteResult}
    (hasked : (⟨.upsert (addressedDb r) w, .ok result⟩ : Reply) ∈ heard)
    (hwriting : r.head.method.verb = .put ∨ r.head.method.verb = .patch) :
    (Flow.afterWrite Stage.stop p result).Ends (Ending (addressedDb r) r.head.method.verb)
      heard := by
  have hopen : (p.record result).exchange.ended = false :=
    (Flow.ended_record p result).trans h.ended
  cases hs : result.status.isSuccess with
  | true =>
    rw [Flow.afterWrite_of_success Stage.stop p hs]
    intro _
    obtain ⟨hsuccess, hetag⟩ := Flow.response_acknowledge hopen hs
    exact .written (List.mem_append_left _ hasked) hwriting rfl hsuccess (told_acknowledge hopen _)
      (hetag.trans (etag_record h result))
  | false =>
    obtain ⟨message, hrefuse⟩ := Flow.exists_refuse_of_not_success Stage.stop p hs
    rw [hrefuse]
    refine .rejected hasked hs rfl (Http.Exchange.status_conclude hopen _ _) ?_
    exact (Http.Exchange.get?_conclude _ _ _ (by decide)).trans (etag_record h result)

theorem concludes_write (mode : Flow.WriteMode)
    (hwriting : r.head.method.verb = .put ∨ r.head.method.verb = .patch) :
    Concludes settings r (Flow.write mode Stage.stop) := by
  intro p heard h
  unfold Flow.write
  cases Flow.writableDocument mode p.context with
  | error e => exact ends_refuse h.ended rfl (by decide) _
  | ok d =>
    intro answer
    match answer with
    | .error e => exact ends_failure h.toUnderway _
    | .ok result =>
      refine ends_afterWrite (w := Flow.writeOf mode p.context d) h.toUnderway ?_ hwriting
      rw [h.db]
      exact List.mem_append_right _ List.mem_cons_self

/-- Properties that are shown make a body, in the version that they carry. -/
theorem sent_showProps (h : Underway settings r p) (path : String) (props : Document) :
    (Flow.showProps p.exchange path props).response.body.isSome = true ∧
      (Flow.showProps p.exchange path props).response.headers.get? "etag" =
        (props.text? etagField).bind Http.HeaderValue.ofText? := by
  have hopen : (Flow.setEtag p.exchange (props.text? etagField)).ended = false :=
    (Flow.ended_setEtag _ _).trans h.ended
  have hetag := get?_setEtag h (props.text? etagField)
  unfold Flow.showProps
  generalize Flow.setEtag p.exchange (props.text? etagField) = x at hopen hetag ⊢
  simpa [Http.Exchange.setStatus, Http.Exchange.send, Http.Exchange.sendAs, Http.Exchange.amend,
    hopen, Keyed.get?_insert] using hetag

theorem concludes_present (hreading : r.head.method.verb = .get) :
    Concludes settings r (Flow.present Stage.stop) := by
  intro p heard h
  unfold Flow.present
  cases hprops : p.context.props with
  | none => exact ends_refuse h.ended rfl (by decide) _
  | some props =>
    obtain ⟨hsent, hetag⟩ := sent_showProps h.toUnderway p.context.path props
    exact .shown (h.found props hprops) hreading rfl hsent hetag

theorem concludes_dispatch : Concludes settings r (Flow.dispatch Flow.Task.stage) := by
  intro p heard h
  unfold Flow.dispatch
  have hverb := h.verb
  unfold Flow.Task.of?
  split
  · rename_i task htask
    split at htask
    case h_5 => cases htask
    all_goals
      rename_i hv
      rw [hv] at hverb
      cases htask
    · exact concludes_write .replace (.inl hverb.symm) p heard h
    · exact concludes_write .replace (.inl hverb.symm) p heard h
    · exact concludes_write .merge (.inr hverb.symm) p heard h
    · exact concludes_present hverb.symm p heard h
  · exact ends_refuse h.ended rfl (by decide) _

theorem concludes_lookup (hnext : Concludes settings r next) :
    Concludes settings r (Flow.lookup next) := by
  intro p heard h
  unfold Flow.lookup
  split
  · exact hnext p heard h
  · rw [h.db]
    refine (Flow.ends_currentProps _ _).bind fun more read hmore hread => ?_
    match read with
    | .error e => exact ends_failure h.toUnderway _
    | .ok props =>
      refine hnext _ more ⟨⟨h.exchange, h.context.learn _ _ _ _ _ _⟩, fun found hfound => ?_⟩
      exact hread found (congrArg Except.ok hfound)

/-- Reading the content of a request finds out nothing but a file. -/
theorem ends_readContent (reading : Flow.BodyReading) (p : Passage) (heard : List Reply) :
    (Flow.readContent reading p).Ends
      (fun _ read => ∃ file, read.2 = { p.context with file := file }) heard := by
  have hupload := Program.Ends.trivial (Flow.readUpload reading p.exchange) heard
  unfold Flow.readContent
  split
  · refine hupload.bind fun more read _ _ => ?_
    match read with
    | .error e => exact ⟨p.context.file, rfl⟩
    | .ok (properties, file) => exact ⟨some file, rfl⟩
  · split
    · exact ⟨p.context.file, rfl⟩
    · exact ⟨p.context.file, rfl⟩

theorem concludes_intake (reading : Flow.BodyReading) (hnext : Concludes settings r next) :
    Concludes settings r (Flow.intake reading next) := by
  intro p heard h
  have hexchange := afterReading_eq h.toUnderway
  have htaken : ∀ more file warnings, heard ⊆ more → Underway.Informed settings r more
      ⟨Flow.afterReading p, { p.context with file := file, warnings := warnings }⟩ := by
    intro more file warnings hmore
    have hlearned := (h.mono hmore).learn p.context.content file p.context.account warnings
    exact ⟨⟨hexchange, hlearned.context⟩, hlearned.found⟩
  have hproceed : ∀ more file warnings read, heard ⊆ more →
      (Flow.proceed next
        ⟨Flow.afterReading p, { p.context with file := file, warnings := warnings }⟩ read).Ends
          (Ending (addressedDb r) r.head.method.verb) more := by
    intro more file warnings read hmore
    have hp := htaken more file warnings hmore
    match read with
    | .ok content => exact hnext _ more (hp.learn content file p.context.account warnings)
    | .error e =>
      cases e with
      | storage reason => exact ends_failure hp.toUnderway _
      | _ => exact ends_refuse hp.ended rfl (by simp only [BodyError.status]; decide) _
  unfold Flow.intake
  split
  · exact hnext p heard h
  · exact hnext p heard h
  · exact hnext p heard h
  · refine (ends_readContent reading p heard).bind fun more (read, context) hmore hread => ?_
    obtain ⟨file, hcontext⟩ := hread
    dsimp only at hcontext
    subst hcontext
    match read with
    | .error e => exact hproceed more file p.context.warnings _ hmore
    | .ok content =>
      obtain ⟨warnings, hsettled⟩ :=
        Flow.exists_warnings_of_settle content { p.context with file := file }
      simp only [hsettled]
      exact hproceed more file warnings _ hmore

theorem concludes_admission (rules : Access.Rules) (hnext : Concludes settings r next) :
    Concludes settings r (Flow.admission rules next) := by
  intro p heard h
  unfold Flow.admission
  split
  · rename_i caller _
    exact hnext _ heard (h.learn p.context.content p.context.file caller p.context.warnings)
  · exact ends_refuse ((Flow.ended_challenged _ _).trans h.ended) rfl (by decide) _
  · exact ends_refuse h.ended rfl (by decide) _

end

/-- Every request comes to one of its ends, whatever the world answers. -/
theorem ends_chain (rules : Access.Rules) (reading : Flow.BodyReading) (settings : Setup)
    (r : Http.Request) :
    (Flow.chain rules reading (passageOf settings r)).Ends
      (Ending (addressedDb r) r.head.method.verb) [] :=
  concludes_admission _ (concludes_intake _ (concludes_lookup concludes_dispatch)) _ _
    ⟨⟨rfl, rfl⟩, fun _ h => nomatch h⟩

/-- The response to a request that could not be handled. -/
def failureResponse : Http.Response :=
  ⟨.internalServerError, [("content-type", Http.MediaType.text.value)],
    some (Text.Utf8.encode "internal server error")⟩

/-- A request that is not failed has ended its exchange; if its response is as at the start, the
database has answered a write with that very status, and with no version that a header can tell. -/
theorem Ending.answered {db : String} {verb : Http.Verb} {heard : List Reply} {result : Result}
    (h : Ending db verb heard result) :
    (result.outcome = .ok () ∧ result.passage.exchange.ended = true ∧
      (result.passage.exchange.response = untouched →
        ∃ w etag, (⟨.upsert db w, .ok ⟨.ok, etag⟩⟩ : Reply) ∈ heard ∧
          etag.bind Http.HeaderValue.ofText? = none)) ∨
    ∃ failure, result.outcome = .error failure ∧ result.passage.exchange.ended = false ∧
      result.passage.exchange.response = untouched := by
  cases h with
  | failed e unended untouched => exact .inr ⟨e, rfl, unended, untouched⟩
  | refused ended failure =>
    refine .inl ⟨rfl, ended, fun hsame => ?_⟩
    rw [hsame] at failure
    cases failure
  | rejected _ failure ended status =>
    refine .inl ⟨rfl, ended, fun hsame => ?_⟩
    rw [hsame] at status
    rw [← status] at failure
    cases failure
  | @written p w result asked _ ended _ told etag =>
    refine .inl ⟨rfl, ended, fun hsame => ?_⟩
    rw [hsame] at told etag
    rcases told with hstatus | hbody
    · obtain ⟨status, version⟩ := result
      obtain rfl : Http.Status.ok = status := hstatus
      exact ⟨w, version, asked, etag.symm⟩
    · cases hbody
  | shown _ _ ended sent =>
    refine .inl ⟨rfl, ended, fun hsame => ?_⟩
    rw [hsame] at sent
    cases sent

/-- Under any rules, limits and settings and whatever the world answers: a request either is handled
and its exchange has ended, or has failed and its exchange is open with nothing in its response. So
every failure is answered as one, with nothing in the response that a stage has left there; and a
response is as at the start only if the database has answered a write with just that. -/
theorem handled_or_failed {σ : Type} (rules : Access.Rules) (reading : Flow.BodyReading)
    (settings : Setup) (r : Http.Request) (answer : (c : Call) → σ → c.Answer × σ) (s : σ) :
    let result := ((Flow.chain rules reading (passageOf settings r)).run answer s).1
    let exchange := result.passage.exchange
    (result.outcome = .ok () ∧ exchange.ended = true ∧ responseOf result = exchange.response ∧
      (exchange.response = untouched → ∃ w s' etag,
        (answer (.upsert (addressedDb r) w) s').1 = .ok ⟨.ok, etag⟩ ∧
          etag.bind Http.HeaderValue.ofText? = none)) ∨
    ∃ failure, result.outcome = .error failure ∧ exchange.ended = false ∧
      exchange.response = untouched ∧ responseOf result = failureResponse := by
  intro result exchange
  have hending : Ending (addressedDb r) r.head.method.verb _ result :=
    (ends_chain rules reading settings r).run answer s
  rcases hending.answered with ⟨hok, hended, hsame⟩ | ⟨failure, herror, hopen, huntouched⟩
  · refine .inl ⟨hok, hended, ?_, fun hresponse => ?_⟩
    · rw [responseOf, hok]
    · obtain ⟨w, etag, hasked, hetag⟩ := hsame hresponse
      obtain ⟨s', hs'⟩ := Program.exists_state_of_mem_record hasked
      exact ⟨w, s', etag, hs'.symm, hetag⟩
  · refine .inr ⟨failure, herror, hopen, huntouched, ?_⟩
    rw [responseOf, herror]
    change (exchange.conclude .internalServerError _).response = failureResponse
    rw [Http.Exchange.response_conclude hopen, huntouched]
    rfl

end DocumentGateway.Gateway
