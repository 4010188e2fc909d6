import DocumentGateway.Proofs.Flow.Link
import DocumentGateway.Proofs.Gateway.Warnings

/-!
# Links to the database that an answer is about

Whoever reads a database, or is warned about a write of it, is given a link to it. The two links are
made from the same path, the one as it is and the other without slashes at its end, and both lead
back to the database under the same condition on its name.
-/

namespace DocumentGateway.Gateway

open DocumentGateway.Flow (LeadsTo Passage PathSafe Stage)

variable {settings : Setup} {v : Visit} {clock : Nat → Nat} {s : Clocked} {db : String}

/-- A response is a document of hypertext with a link to itself. -/
structure Linked (response : Http.Response) (d : Document) (href : String) : Prop where
  type : response.headers.get? "content-type" = some Http.MediaType.hal.value
  body : response.body = some (Flow.bodyOf d)
  link : d.get? "_links" = some (.object [("self", .object [("href", .string href)])])

/-- The body of a response is read as a document. -/
def Reads (response : Http.Response) (d : Document) : Prop :=
  response.body.bind Json.readExactly? = some (.object d)

/-- A legible document is what is read of the response that is made of it. -/
theorem Linked.reads {response : Http.Response} {d : Document} {href : String}
    (h : Linked response d href) (hlegible : Json.Legible d) : Reads response d := by
  rw [Reads, h.body, Option.bind_some, Flow.readExactly?_bodyOf hlegible]

/-- Only a request that may be made is answered with success. -/
theorem admitted_of_success (hdb : Flow.segments v.request.head.uri.path = [db])
    (hsuccess : (v.serve settings clock s).1.status.isSuccess = true) :
    Admitted settings db v.request := by
  have hpath : hasPath v.request.head.uri = true := by
    by_contra hnone
    rw [Visit.serve, serve, if_neg hnone] at hsuccess
    cases hsuccess
  refine ⟨hpath, hdb, ?_⟩
  rcases settings.security.rules.judge_cases v.request.head.headers v.request.head.method
    (Flow.joinPath [db]) with hadmitted | ⟨status, hrefuses⟩
  · exact hadmitted
  · have hrefused : settings.security.rules.Refuses v.request.head.headers v.request.head.method
        (Flow.joinPath (Flow.segments v.request.head.uri.path)) status := hdb ▸ hrefuses
    obtain ⟨refused, hends, hstatus, -⟩ := Flow.admission_of_refuses
      (p := passageOf settings v.request) rfl hrefused
    rw [Visit.serve, serve, if_pos hpath, respond, Flow.chain, hends] at hsuccess
    change refused.exchange.response.status.isSuccess = true at hsuccess
    rw [hstatus] at hsuccess
    rcases hrefuses.judge with ⟨-, rfl⟩ | ⟨-, rfl⟩ <;> cases hsuccess

/-- Properties that are shown come with the link to their path. -/
theorem linked_showProps {x : Http.Exchange} (hopen : x.ended = false) (path : String)
    (props : Document) :
    Linked (Flow.showProps x path props).response (Flow.shownDocument path props) path := by
  have htagged : (Flow.setEtag x (props.text? etagField)).ended = false :=
    (Flow.ended_setEtag _ _).trans hopen
  unfold Flow.showProps
  generalize Flow.setEtag x (props.text? etagField) = tagged at htagged
  refine ⟨?_, ?_, Keyed.get?_insert_self _ _ _⟩
  · simp [Http.Exchange.setStatus, Http.Exchange.send, Http.Exchange.sendAs, Http.Exchange.amend,
      htagged]
  · simp [Http.Exchange.setStatus, Http.Exchange.send, Http.Exchange.sendAs, Http.Exchange.amend,
      htagged]

/-- A database that is read is shown with the link to its path. What is stored can be read of the
response if it can be sent. -/
theorem linked_of_get (hdb : Flow.segments v.request.head.uri.path = [db])
    (hget : v.request.head.method = .get) (hok : (v.serve settings clock s).1.status = .ok) :
    ∃ d, Linked (v.serve settings clock s).1 d (Flow.joinPath [db]) ∧
      (s.state.Presentable → Reads (v.serve settings clock s).1 d) := by
  have hsuccess : (v.serve settings clock s).1.status.isSuccess = true := by
    rw [hok]
    rfl
  obtain ⟨hpath, -, caller, hadmitted⟩ := admitted_of_success hdb hsuccess
  let admitted := admittedPassage settings v.request caller
  have hverb : admitted.context.verb = .get := by
    change v.request.head.method.verb = .get
    rw [hget]
    rfl
  have hresource : admitted.context.resource = .db := congrArg Flow.Resource.ofSegments hdb
  have hjoined : admitted.context.path = Flow.joinPath [db] := congrArg Flow.joinPath hdb
  obtain ⟨s', props, -, hprops, hlookup⟩ :=
    exists_run_lookup (Flow.dispatch Flow.Task.stage) admitted v clock s
  let found : Passage := { admitted with context := { admitted.context with props := props } }
  obtain ⟨result, hpresent, hresponse⟩ := exists_present found
  have hserved : (v.serve settings clock s).1 = dressed v.request v.fresh
      (readResponse found.exchange (Flow.joinPath [db]) props) := by
    rw [serve_of_admitted clock s hpath hdb hadmitted, Flow.afterAdmission,
      intake_of_get _ _ hverb, hlookup, dispatch_of_get (p := found) hverb hresource, hpresent,
      ← hjoined]
    exact congrArg (dressed v.request v.fresh) hresponse
  have hmethod : v.request.head.method ≠ .head := by
    rw [hget]
    decide
  obtain ⟨hstatus, hheaders, hbody⟩ := dressed_of_not_head hmethod v.fresh
    (readResponse found.exchange (Flow.joinPath [db]) props)
  rw [hserved] at hok ⊢
  cases props with
  | none =>
    rw [hstatus, readResponse, Http.Exchange.status_conclude rfl] at hok
    cases hok
  | some props =>
    have hshown := linked_showProps (x := found.exchange) rfl (Flow.joinPath [db]) props
    have hlinked : Linked (dressed v.request v.fresh
        (readResponse found.exchange (Flow.joinPath [db]) (some props)))
        (Flow.shownDocument (Flow.joinPath [db]) props) (Flow.joinPath [db]) :=
      ⟨(hheaders _ (by decide)).trans hshown.type, hbody.trans hshown.body, hshown.link⟩
    refine ⟨_, hlinked, fun hpresentable => hlinked.reads (Flow.legible_shownDocument _ ?_)⟩
    rcases hprops hpresentable.coherent with hold | hstored
    · cases hold
    · exact hpresentable.legible _ _ hstored.symm

/-- A write that is acknowledged with warnings comes with the link to its path, without the slashes
at its end. -/
theorem linked_of_warned (hdb : Flow.segments v.request.head.uri.path = [db])
    (hwriting : isWriting v.request = true)
    (hsuccess : (v.serve settings clock s).1.status.isSuccess = true)
    (hbody : (v.serve settings clock s).1.body ≠ none) :
    ∃ d, Linked (v.serve settings clock s).1 d (Flow.linkPath (Flow.joinPath [db])) ∧
      Reads (v.serve settings clock s).1 d := by
  obtain ⟨mode, content, p, written, ended, hserve, -, hwritten, -, hexchange, -, hpath, -, -⟩ :=
    exists_accepted (admitted_of_success hdb hsuccess) hwriting hsuccess
  have hmethod : v.request.head.method ≠ .head := by
    intro hhead
    rw [isWriting, hhead] at hwriting
    cases hwriting
  obtain ⟨-, hheaders, hsent⟩ := dressed_of_not_head hmethod v.fresh (responseOf ended.1)
  rw [hserve] at hbody ⊢
  obtain ⟨hquiet, hwarned⟩ := Flow.response_acknowledge_record (p := p) (by rw [hexchange]; rfl)
    (by rw [hexchange]; rfl) (s.state.databases.upsert p.context.db
      (Flow.writeOf mode p.context written) v.etag).1
  rw [← hwritten.response] at hquiet hwarned
  have hsome : p.context.warnings ≠ [] := fun hnone =>
    hbody (hsent.trans (hquiet hnone).2)
  obtain ⟨-, htype, hdocument⟩ := hwarned hsome
  rw [hpath] at hdocument
  have hlinked : Linked (dressed v.request v.fresh (responseOf ended.1))
      (Flow.warningsDocument (Flow.joinPath [db]) p.context.warnings)
      (Flow.linkPath (Flow.joinPath [db])) :=
    ⟨(hheaders _ (by decide)).trans htype, hsent.trans hdocument, rfl⟩
  exact ⟨_, hlinked, hlinked.reads (Flow.legible_warningsDocument _ _)⟩

/-- Whoever reads a database with success, or is told warnings about a write of it, gets hypertext
with a link, and so it is read from the body: for what is stored, in every state that a session
from the start leads to. Following the link leads back to the database exactly if its name may stand
in a path as it is: the name is not escaped again when it becomes a link, although the path was
unescaped when it was read. -/
theorem self_link_leads_back_iff (settings : Setup) (clock : Nat → Nat) (v : Visit) (s : Clocked)
    (db : String) (hdb : Flow.segments v.request.head.uri.path = [db]) :
    let response := (v.serve settings clock s).1
    let shown := Flow.joinPath [db]
    let warned := Flow.linkPath shown
    (v.request.head.method = .get → response.status = .ok →
      (∃ d, Linked response d shown ∧ (s.state.Presentable → Reads response d)) ∧
        (LeadsTo shown db ↔ PathSafe db)) ∧
      (isWriting v.request = true → response.status.isSuccess = true → response.body ≠ none →
        (∃ d, Linked response d warned ∧ Reads response d) ∧
          (LeadsTo warned db ↔ PathSafe db)) :=
  ⟨fun hget hok => ⟨linked_of_get hdb hget hok, Flow.leadsTo_joinPath_iff⟩,
    fun hwriting hsuccess hbody =>
      ⟨linked_of_warned hdb hwriting hsuccess hbody, Flow.leadsTo_linkPath_iff⟩⟩

/-- A visitor who stores a document with a key of the gateway's under a path. -/
def linkWriter (path : String) : Visit :=
  ⟨.ofJson .put path (.ofBytes (Text.Utf8.encode "\x7b\"_a\": 1\x7d")), firstVersion, "first",
    .ok ()⟩

/-- A visitor who reads what is stored under a path. -/
def linkReader (path : String) : Visit :=
  ⟨⟨⟨.get, ⟨none, none, path, none⟩, []⟩, .ofBytes []⟩, firstVersion, "unused", .ok ()⟩

/-- What the writer of a path is answered by a fresh gateway, and what state is left. -/
def linkWritten (path : String) : Http.Response × Clocked :=
  (linkWriter path).serve permissiveSettings (fun reading => reading)
    ⟨.ofSettings permissiveSettings, 0⟩

/-- What the reader of a path is answered after its writer. -/
def linkRead (path : String) : Http.Response :=
  ((linkReader path).serve permissiveSettings (fun reading => reading) (linkWritten path).2).1

theorem presentable_linkWritten (path : String) : (linkWritten path).2.state.Presentable :=
  presentable_serve permissiveSettings (fun reading => reading) (linkWriter path)
    (s := ⟨.ofSettings permissiveSettings, 0⟩) (State.presentable_initial _ _)

/-- A shop is written and read, and both links lead to it. -/
theorem self_link_leads_back_shop :
    (∃ d, Linked (linkWritten "/shop").1 d "/shop" ∧ Reads (linkWritten "/shop").1 d) ∧
      (∃ d, Linked (linkRead "/shop") d "/shop" ∧ Reads (linkRead "/shop") d) ∧
      LeadsTo "/shop" "shop" := by
  have hsafe : PathSafe "shop" :=
    ⟨by decide, List.all_eq_true.mp (by decide), by decide, by decide, by decide⟩
  obtain ⟨-, hwriting⟩ := self_link_leads_back_iff permissiveSettings (fun reading => reading)
    (linkWriter "/shop") ⟨.ofSettings permissiveSettings, 0⟩ "shop" (by decide)
  obtain ⟨hreading, -⟩ := self_link_leads_back_iff permissiveSettings (fun reading => reading)
    (linkReader "/shop") (linkWritten "/shop").2 "shop" (by decide)
  obtain ⟨hwarned, -⟩ := hwriting (by decide) (by decide +kernel) (by decide +kernel)
  obtain ⟨⟨d, hshown, hreads⟩, hleads⟩ := hreading rfl (by decide +kernel)
  exact ⟨hwarned, ⟨d, hshown, hreads (presentable_linkWritten "/shop")⟩, hleads.mpr hsafe⟩

/-- A database with a question mark in its name is written and read, and both links lead to another
one. -/
theorem question_mark_leads_away :
    Flow.segments "/a%3Fb" = ["a?b"] ∧
      (linkWritten "/a%3Fb").1.status = .created ∧
      (∃ d, Linked (linkWritten "/a%3Fb").1 d "/a?b" ∧ Reads (linkWritten "/a%3Fb").1 d) ∧
      (linkRead "/a%3Fb").status = .ok ∧
      (∃ d, Linked (linkRead "/a%3Fb") d "/a?b" ∧ Reads (linkRead "/a%3Fb") d) ∧
      ¬LeadsTo "/a?b" "a?b" ∧ LeadsTo "/a?b" "a" := by
  have haddress : Flow.segments "/a%3Fb" = ["a?b"] := by decide
  have hcreated : (linkWritten "/a%3Fb").1.status = .created := by decide +kernel
  have hread : (linkRead "/a%3Fb").status = .ok := by decide +kernel
  have hsuccess : (linkWritten "/a%3Fb").1.status.isSuccess = true := by
    rw [hcreated]
    rfl
  have hwarned := linked_of_warned (v := linkWriter "/a%3Fb") haddress (by decide) hsuccess
    (by decide +kernel)
  obtain ⟨d, hshown, hreads⟩ := linked_of_get (v := linkReader "/a%3Fb") haddress rfl hread
  refine ⟨haddress, hcreated, hwarned, hread, ⟨d, hshown, hreads (presentable_linkWritten _)⟩,
    fun hleads => ?_, ?_⟩
  · have hsafe : PathSafe "a?b" := Flow.leadsTo_joinPath_iff.mp hleads
    exact absurd (hsafe.chars '?' (by decide)) (by decide)
  · exact Flow.leadsTo_iff.mpr ⟨⟨none, none, "/a", some "b"⟩, by decide, by decide⟩

end DocumentGateway.Gateway
