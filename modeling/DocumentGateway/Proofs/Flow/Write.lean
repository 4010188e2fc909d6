import DocumentGateway.Flow.Write

/-!
# What follows a write

The answer of the database decides alone how a request goes on. After a success the cache forgets
the name before anything else happens; after anything else the request is refused, and the cache is
not touched.
-/

namespace DocumentGateway.Flow

/-- The names that may be written are those that are not empty and do not begin with an
underscore. -/
theorem isWritableName_iff {db : String} :
    isWritableName db = true ↔ db ≠ "" ∧ db.toList.head? ≠ some '_' := by
  rw [isWritableName, ne_eq, ← String.toList_eq_nil_iff]
  cases db.toList with
  | nil => simp
  | cons c rest => simp

/-- What is written is the document in the content, under a name that may be written and with
transforms that are well-formed. -/
theorem writableDocument_eq_ok_iff {mode : WriteMode} {c : Context} {d : Document} :
    writableDocument mode c = .ok d ↔ isWritableName c.db = true ∧
      documentOf mode c.content = .ok d ∧
        ∃ transforms, Transform.ofDocument d = .ok transforms := by
  unfold writableDocument
  constructor
  · intro h
    split at h
    · cases h
    · rename_i hname
      cases hdocument : documentOf mode c.content with
      | error e => simp [hdocument] at h
      | ok brought =>
        cases htransforms : Transform.ofDocument brought with
        | error e => simp [hdocument, htransforms] at h
        | ok transforms =>
          simp only [hdocument, htransforms] at h
          cases h
          exact ⟨by simpa using hname, rfl, transforms, htransforms⟩
  · rintro ⟨hname, hdocument, transforms, htransforms⟩
    simp [hname, hdocument, htransforms]

theorem ended_setEtag (x : Http.Exchange) (etag : Option String) :
    (setEtag x etag).ended = x.ended := by
  unfold setEtag
  split
  · exact Http.Exchange.ended_amend _ _
  · rfl

theorem ended_record (p : Passage) (result : Store.WriteResult) :
    (p.record result).exchange.ended = p.exchange.ended := ended_setEtag _ _

/-- An acknowledgement is a success with the headers that were set, the type of its body apart. -/
theorem response_acknowledge {p : Passage} (h : p.exchange.ended = false) {status : Http.Status}
    (hs : status.isSuccess = true) :
    (p.acknowledge status).exchange.response.status.isSuccess = true ∧
      (p.acknowledge status).exchange.response.headers.get? "etag" =
        p.exchange.response.headers.get? "etag" := by
  unfold Passage.acknowledge
  split
  · simp [Http.Exchange.setStatus, Http.Exchange.amend, h, hs]
  · have hstatus : (if status = .noContent then Http.Status.ok else status).isSuccess = true := by
      split
      · rfl
      · exact hs
    simp [sendWarnings, Http.Exchange.setStatus, Http.Exchange.send, Http.Exchange.sendAs,
      Http.Exchange.amend, h, hstatus, Keyed.get?_insert]

/-- The answer to a write that succeeded: a status alone, or the warnings as a document. -/
theorem response_acknowledge_record {p : Passage} (hopen : p.exchange.ended = false)
    (hempty : p.exchange.response.body = none) (result : Store.WriteResult) :
    let response := ((p.record result).acknowledge result.status).exchange.response
    (p.context.warnings = [] → response.status = result.status ∧ response.body = none) ∧
      (p.context.warnings ≠ [] →
        response.status = (if result.status = .noContent then .ok else result.status) ∧
        response.headers.get? "content-type" = some Http.MediaType.hal.value ∧
        response.body = some (bodyOf (warningsDocument p.context.path p.context.warnings))) := by
  intro response
  have hrecorded : (p.record result).exchange.ended = false :=
    (ended_record p result).trans hopen
  have hbody : (p.record result).exchange.response.body = none := by
    change (setEtag p.exchange result.etag).response.body = none
    unfold setEtag
    split
    · simp [Http.Exchange.setHeader, Http.Exchange.amend, hopen, hempty]
    · exact hempty
  constructor
  · intro hnone
    have hplain : ((p.record result).acknowledge result.status).exchange =
        (p.record result).exchange.setStatus result.status :=
      if_pos (List.isEmpty_iff.mpr hnone)
    simp only [response, hplain]
    simp [Http.Exchange.setStatus, Http.Exchange.amend, hrecorded, hbody]
  · intro hsome
    have hwarned : ((p.record result).acknowledge result.status).exchange =
        sendWarnings (p.record result).exchange p.context result.status :=
      if_neg fun hempty => hsome (List.isEmpty_iff.mp hempty)
    simp only [response, hwarned]
    simp [sendWarnings, Http.Exchange.setStatus, Http.Exchange.send, Http.Exchange.sendAs,
      Http.Exchange.amend, hrecorded]

/-- After a write that succeeded, the cache forgets the name and the request goes on. -/
theorem afterWrite_of_success (next : Stage) (p : Passage) {result : Store.WriteResult}
    (h : result.status.isSuccess = true) :
    afterWrite next p result = .call (.forget p.context.db) fun _ =>
      (next ((p.record result).acknowledge result.status)).bind fun r => .done r.finish := by
  have hc : result.isConflict = false := by
    refine Bool.eq_false_iff.mpr fun hc => ?_
    have hs : result.status = .conflict := by simpa [Store.WriteResult.isConflict] using hc
    rw [hs] at h
    cases h
  simp only [afterWrite, hc, h, Bool.not_true, Bool.false_eq_true, if_false]
  rfl

/-- A write that did not succeed is answered with a refusal of its own status. -/
theorem exists_refuse_of_not_success (next : Stage) (p : Passage) {result : Store.WriteResult}
    (h : result.status.isSuccess = false) :
    ∃ message : String, afterWrite next p result =
      (p.record result).refuse result.status message := by
  by_cases hc : result.isConflict = true
  · have hs : result.status = .conflict := by simpa [Store.WriteResult.isConflict] using hc
    refine ⟨conflictMessage, ?_⟩
    rw [hs]
    simp only [afterWrite, hc, if_true]
  · refine ⟨result.status.reason?.getD "request failed", ?_⟩
    simp only [afterWrite, hc, h, Bool.not_false, if_true]
    rfl

/-- A write that did not succeed is answered with a refusal that says so. -/
theorem afterWrite_of_not_success (next : Stage) (p : Passage) {result : Store.WriteResult}
    (h : result.status.isSuccess = false) :
    ∃ (status : Http.Status) (message : String), status.isSuccess = false ∧
      afterWrite next p result = (p.record result).refuse status message := by
  obtain ⟨message, hrefuse⟩ := exists_refuse_of_not_success next p h
  exact ⟨result.status, message, h, hrefuse⟩

end DocumentGateway.Flow
