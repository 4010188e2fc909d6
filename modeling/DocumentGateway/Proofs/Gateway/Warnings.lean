import DocumentGateway.Proofs.Flow.Hal
import DocumentGateway.Proofs.Gateway.CurrentTag
import DocumentGateway.Proofs.Store.Stamped
import DocumentGateway.Proofs.Text.Order

/-!
# Warnings about reserved keys

A document that a client writes loses the keys that belong to the gateway, and the client is warned
of each. The keys are told when the content is taken in, travel as warnings in the context, and come
out in the answer to a write that succeeded. So a successful write is traced to the one write of the
database that it made; what is stored and what is answered are both read off that write.
-/

namespace DocumentGateway

namespace Keyed

variable {d : Document} {key : String}

theorem mem_keys_iff : key ∈ d.keys ↔ ∃ value, d.get? key = some value := by
  constructor
  · intro hkey
    obtain ⟨entry, hentry, rfl⟩ := List.mem_map.mp hkey
    refine Option.ne_none_iff_exists'.mp fun hnone => ?_
    exact get?_eq_none_iff.mp hnone entry hentry rfl
  · rintro ⟨value, hvalue⟩
    exact List.mem_map.mpr ⟨_, mem_of_get? hvalue, rfl⟩

theorem mem_reservedKeys_iff :
    key ∈ d.reservedKeys ↔
      (∃ value, d.get? key = some value) ∧ key.toList.head? = some '_' ∧ key ≠ idField := by
  rw [reservedKeys, List.mem_filter, mem_keys_iff, isReservedKey_iff]

/-- The keys of an ordered document ascend as bytes. -/
theorem Ordered.reservedKeys_ascend (h : Ordered d) :
    d.reservedKeys.Pairwise fun a b => Text.Utf8.encode a < Text.Utf8.encode b := by
  have hkeys : d.keys.Pairwise fun a b => Text.Utf8.encode a < Text.Utf8.encode b := by
    rw [keys, List.pairwise_map]
    exact List.Pairwise.imp Text.Utf8.encode_lt h
  exact hkeys.filter _

end Keyed

namespace Store.Database

/-- What is stored of a document is what was sent under all keys that do not begin with an
underscore, and nothing but the fresh version under the others. -/
theorem get?_stamped_withoutReserved (d : Document) (fresh key : String) :
    (stamped d.withoutReserved fresh).get? key =
      if etagField = key then some (.string fresh)
      else if key.toList.head? = some '_' then none
      else d.get? key := by
  rw [stamped_withoutReserved, Keyed.get?_insert, Keyed.unmarked, Keyed.get?_filterKeys]
  by_cases h : key.toList.head? = some '_' <;> simp [h]

end Store.Database

namespace Gateway

open DocumentGateway.Flow (Accepted Context Passage Stage)

section Tracing

variable {settings : Setup} {v : Visit} {clock : Nat → Nat} {s : Clocked} {p : Passage}
  {mode : Flow.WriteMode} {db : String} {d : Document}

/-- Whatever the cache holds, a look-up of properties ends and leaves the databases as they are. -/
theorem run_currentProps_ok (v : Visit) (clock : Nat → Nat) (db : String) (s : Clocked) :
    ∃ props, ((Flow.currentProps db).run (v.answer clock) s).1 = .ok props ∧
      ((Flow.currentProps db).run (v.answer clock) s).2.state.databases = s.state.databases := by
  simp only [Flow.currentProps, Flow.Program.run_call, Visit.answer, State.answer, Visit.occasion]
  cases (s.state.cache.get db (clock s.readings)).1 with
  | some props => exact ⟨some props, rfl, rfl⟩
  | none =>
    let missed : Clocked :=
      ⟨{ s.state with cache := (s.state.cache.get db (clock s.readings)).2 }, s.readings + 1⟩
    have hload := run_loadProps_eq v clock db missed
    change ∃ props, ((Flow.loadProps db).run (v.answer clock) missed).1 = .ok props ∧
      ((Flow.loadProps db).run (v.answer clock) missed).2.state.databases = s.state.databases
    rw [hload]
    cases missed.state.databases.get? db with
    | some props => exact ⟨some props, rfl, rfl⟩
    | none => exact ⟨none, rfl, rfl⟩

/-- Whatever the cache holds, a request goes on from a look-up with some properties or none. If the
cache is in step, they are those that it had or those that the database holds. -/
theorem exists_run_lookup (next : Stage) (p : Passage) (v : Visit) (clock : Nat → Nat)
    (s : Clocked) :
    ∃ (s' : Clocked) (props : Option Document), s'.state.databases = s.state.databases ∧
      (s.state.Coherent →
        props = p.context.props ∨ props = s.state.databases.get? p.context.db) ∧
      (Flow.lookup next p).run (v.answer clock) s =
        (next { p with context := { p.context with props := props } }).run (v.answer clock) s' := by
  unfold Flow.lookup
  split
  · exact ⟨s, p.context.props, rfl, fun _ => .inl rfl, rfl⟩
  · obtain ⟨props, hread, hsame⟩ := run_currentProps_ok v clock p.context.db s
    refine ⟨((Flow.currentProps p.context.db).run (v.answer clock) s).2, props, hsame,
      fun hcoherent => .inr ?_, ?_⟩
    · exact Except.ok.inj (hread.symm.trans (run_currentProps v clock p.context.db s hcoherent).1)
    · rw [Flow.Program.run_bind, hread]

/-- A refusal is no success. -/
theorem not_success_of_refuse (hopen : p.exchange.ended = false) {status : Http.Status}
    (hstatus : status.isSuccess = false) (message : String) :
    (responseOf ((p.refuse status message).run (v.answer clock) s).1).status.isSuccess =
      false := by
  change (p.exchange.conclude status message).response.status.isSuccess = false
  rw [Http.Exchange.status_conclude hopen, hstatus]

/-- What a passage that is written comes to: the database has been written with success, and this is
acknowledged. -/
structure Acknowledged (mode : Flow.WriteMode) (p : Passage) (d : Document) (fresh : String)
    (databases : Store.Database) (ended : Flow.Result × Clocked) : Prop where
  document : Flow.documentOf mode p.context.content = .ok d
  success : (databases.upsert p.context.db (Flow.writeOf mode p.context d)
    fresh).1.status.isSuccess = true
  stored : ended.2.state.databases =
    (databases.upsert p.context.db (Flow.writeOf mode p.context d) fresh).2
  response : responseOf ended.1 =
    ((p.record (databases.upsert p.context.db (Flow.writeOf mode p.context d) fresh).1).acknowledge
      (databases.upsert p.context.db (Flow.writeOf mode p.context d)
        fresh).1.status).exchange.response

theorem acknowledged_of_success (hopen : p.exchange.ended = false)
    (h : (responseOf ((Flow.write mode Stage.stop p).run (v.answer clock)
      s).1).status.isSuccess = true) :
    ∃ d, Acknowledged mode p d v.etag s.state.databases
      ((Flow.write mode Stage.stop p).run (v.answer clock) s) := by
  unfold Flow.write at h ⊢
  cases hd : Flow.writableDocument mode p.context with
  | error e =>
    simp only [hd] at h
    rw [not_success_of_refuse hopen (by decide)] at h
    cases h
  | ok d =>
    simp only [hd, Flow.Program.run_call] at h ⊢
    let outcome := s.state.databases.upsert p.context.db (Flow.writeOf mode p.context d) v.etag
    let after : Clocked := ⟨⟨outcome.2, s.state.cache⟩, s.readings + 1⟩
    change (responseOf ((Flow.afterWrite Stage.stop p outcome.1).run (v.answer clock)
      after).1).status.isSuccess = true at h
    refine ⟨d, ?_⟩
    have hrecorded : (p.record outcome.1).exchange.ended = false :=
      (Flow.ended_record p outcome.1).trans hopen
    cases hsuccess : outcome.1.status.isSuccess with
    | false =>
      obtain ⟨message, hrefuse⟩ := Flow.exists_refuse_of_not_success Stage.stop p hsuccess
      rw [hrefuse, not_success_of_refuse hrecorded hsuccess] at h
      cases h
    | true =>
      have hafter := Flow.afterWrite_of_success Stage.stop p hsuccess
      refine ⟨(Flow.writableDocument_eq_ok_iff.mp hd).2.1, hsuccess, ?_, ?_⟩
      · change ((Flow.afterWrite Stage.stop p outcome.1).run (v.answer clock)
          after).2.state.databases = outcome.2
        rw [hafter]
        rfl
      · change responseOf ((Flow.afterWrite Stage.stop p outcome.1).run (v.answer clock)
          after).1 = _
        rw [hafter]
        rfl

/-- What an acknowledged write has stored: under a key that begins with an underscore nothing of
what was sent, under any other what was sent, and else what a merge found there. -/
theorem Acknowledged.exists_stored {fresh : String} {databases : Store.Database}
    {ended : Flow.Result × Clocked}
    (h : Acknowledged mode p d.withoutReserved fresh databases ended) (hd : Keyed.Ordered d) :
    ∃ stored, ended.2.state.databases.get? p.context.db = some stored ∧
      ∀ key, stored.get? key =
        (if etagField = key then some (.string fresh)
          else if key.toList.head? = some '_' then none else d.get? key).or
        (if mode = .merge then (databases.get? p.context.db).bind (·.get? key) else none) := by
  let w := Flow.writeOf mode p.context d.withoutReserved
  have hw : Keyed.Ordered d.withoutReserved := Keyed.Ordered.filterKeys hd _
  obtain ⟨stored, hstored, -, hkept⟩ := Store.Database.exists_stored (w := w) hw h.success
  refine ⟨stored, h.stored ▸ hstored, fun key => ?_⟩
  have hpatching : w.patching = true ↔ mode = .merge := decide_eq_true_iff
  rw [hkept key, ← Store.Database.get?_stamped_withoutReserved]
  simp only [hpatching]
  rfl

/-- How a write is acknowledged: by its status alone, or by its warnings. -/
theorem Acknowledged.answer {fresh : String} {databases : Store.Database}
    {ended : Flow.Result × Clocked} (h : Acknowledged mode p d fresh databases ended)
    (hd : Keyed.Ordered d) (hopen : p.exchange.ended = false)
    (hempty : p.exchange.response.body = none) :
    let created := (databases.get? p.context.db).isNone
    (p.context.warnings = [] →
        (responseOf ended.1).status = (if created then .created else .noContent) ∧
        (responseOf ended.1).body = none) ∧
      (p.context.warnings ≠ [] →
        (responseOf ended.1).status = (if created then .created else .ok) ∧
        (responseOf ended.1).headers.get? "content-type" = some Http.MediaType.hal.value ∧
        (responseOf ended.1).body =
          some (Flow.bodyOf (Flow.warningsDocument p.context.path p.context.warnings))) := by
  intro created
  have hw : Keyed.Ordered (Flow.writeOf mode p.context d).content := hd
  obtain ⟨stored, -, hstatus, -⟩ := Store.Database.exists_stored hw h.success
  obtain ⟨hplain, hwarn⟩ := Flow.response_acknowledge_record hopen hempty
    (databases.upsert p.context.db (Flow.writeOf mode p.context d) fresh).1
  rw [h.response]
  refine ⟨fun hquiet => ?_, fun hwarned => ?_⟩
  · obtain ⟨hanswer, hbody⟩ := hplain hquiet
    exact ⟨hanswer.trans hstatus, hbody⟩
  · obtain ⟨hanswer, hrest⟩ := hwarn hwarned
    refine ⟨hanswer.trans ?_, hrest⟩
    rw [hstatus]
    split <;> rfl

/-- To write a database by its method is to replace its properties or to merge into them. -/
theorem dispatch_of_writing (hresource : p.context.resource = .db)
    (hverb : p.context.verb = .put ∨ p.context.verb = .patch) :
    ∃ mode, Flow.dispatch Flow.Task.stage p = Flow.write mode Stage.stop p ∧
      (mode = .merge ↔ p.context.verb = .patch) := by
  unfold Flow.dispatch
  rcases hverb with hput | hpatch
  · refine ⟨.replace, ?_, by simp [hput]⟩
    rw [hresource, hput]
    rfl
  · refine ⟨.merge, ?_, by simp [hpatch]⟩
    rw [hresource, hpatch]
    rfl

/-- A body that spells one document brings this document or nothing that is accepted. -/
theorem eq_single_of_brought {contentTypes : List String} {text : Bytes} {content : Content}
    (h : Flow.Brought contentTypes text content)
    (hspelled : Json.spelled? text = some (.object d)) : content = .single d := by
  cases h with
  | empty hempty =>
    rw [hempty] at hspelled
    cases hspelled
  | blank _ hblank =>
    rw [Json.spelled?_of_blank hblank] at hspelled
    cases hspelled
  | single _ hsingle =>
    rw [hspelled] at hsingle
    cases hsingle
    rfl
  | many _ hmany =>
    rw [hspelled] at hmany
    cases hmany

/-- A request that writes with success is traced to the content that it brought and to the write
that was made of it. -/
theorem exists_accepted (h : Admitted settings db v.request)
    (hwriting : isWriting v.request = true)
    (hsuccess : (v.serve settings clock s).1.status.isSuccess = true) :
    ∃ (mode : Flow.WriteMode) (content : Content) (p : Passage) (written : Document)
      (ended : Flow.Result × Clocked),
      v.serve settings clock s = (dressed v.request v.fresh (responseOf ended.1), ended.2) ∧
      Accepted (bodyReading settings).body (Http.Exchange.ofRequest v.request).contentTypes
        v.request.head.method.verb v.request.body content ∧
      Acknowledged mode p written v.etag s.state.databases ended ∧
      (mode = .merge ↔ v.request.head.method.verb = .patch) ∧
      p.exchange = (Http.Exchange.ofRequest v.request).takeBody.2 ∧ p.context.db = db ∧
      p.context.path = Flow.joinPath [db] ∧ p.context.content = content.withoutReserved ∧
      p.context.warnings = content.reservedKeyWarnings := by
  obtain ⟨caller, hadmitted⟩ := h.admitted
  let reading := bodyReading settings
  let admitted := admittedPassage settings v.request caller
  have hserve := serve_eq_of_admitted clock s h.path h.address hadmitted
  have hresource : admitted.context.resource = .db := congrArg Flow.Resource.ofSegments h.address
  have hname : admitted.context.db = db := congrArg (fun names => names.head?.getD "") h.address
  have hpath : admitted.context.path = Flow.joinPath [db] := congrArg Flow.joinPath h.address
  have hmethod : admitted.context.verb = .put ∨ admitted.context.verb = .patch := by
    change v.request.head.method.verb = .put ∨ v.request.head.method.verb = .patch
    simpa [isWriting] using hwriting
  have hverb : admitted.context.verb ≠ .get ∧ admitted.context.verb ≠ .options ∧
      admitted.context.verb ≠ .delete := by
    rcases hmethod with hv | hv <;> simp [hv]
  have hfile : Flow.bringsFile admitted.context = false := by
    simp [Flow.bringsFile, hresource]
  rw [hserve] at hsuccess
  change (responseOf ((Flow.afterAdmission reading admitted).run (v.answer clock)
    s).1).status.isSuccess = true at hsuccess
  rcases Flow.accepted_or_faulty reading.body admitted.exchange.contentTypes admitted.context.verb
    v.request.body with ⟨content, haccepted⟩ | ⟨e, hfaulty⟩
  · let taken : Passage := ⟨admitted.exchange.takeBody.2, admitted.context.takingIn content⟩
    obtain ⟨s', props, hsame, -, hlookup⟩ :=
      exists_run_lookup (Flow.dispatch Flow.Task.stage) taken v clock s
    let found : Passage := { taken with context := { taken.context with props := props } }
    obtain ⟨mode, hdispatch, hmode⟩ := dispatch_of_writing (p := found) hresource hmethod
    have hrun : (Flow.afterAdmission reading admitted).run (v.answer clock) s =
        (Flow.write mode Stage.stop found).run (v.answer clock) s' := by
      rw [Flow.afterAdmission, Flow.intake_of_accepted _ rfl hverb hfile haccepted, hlookup]
      change (Flow.dispatch Flow.Task.stage found).run (v.answer clock) s' = _
      rw [hdispatch]
    rw [hrun] at hsuccess
    obtain ⟨written, hwritten⟩ := acknowledged_of_success (p := found) rfl hsuccess
    rw [hsame] at hwritten
    refine ⟨mode, content, found, written, _, ?_, haccepted, hwritten, hmode, rfl, hname, hpath,
      rfl, rfl⟩
    rw [hserve]
    change (dressed v.request v.fresh (responseOf ((Flow.afterAdmission reading admitted).run
      (v.answer clock) s).1), ((Flow.afterAdmission reading admitted).run (v.answer clock) s).2) = _
    rw [hrun]
  · obtain ⟨warnings, hrefuse⟩ := Flow.intake_of_faulty (p := admitted) rfl hverb hfile hfaulty
    have hstatus : e.status.isSuccess = false := by
      rcases hfaulty.status with hs | hs | hs <;> rw [hs] <;> rfl
    rw [Flow.afterAdmission, hrefuse, not_success_of_refuse rfl hstatus] at hsuccess
    cases hsuccess

/-- A request that writes one document with success is traced to the write that it made: under the
warnings about the document, of the document without its reserved keys. -/
theorem exists_acknowledged (h : Admitted settings db v.request)
    (hwriting : isWriting v.request = true)
    (hspelled : Json.spelled? v.request.body.bytes = some (.object d))
    (hsuccess : (v.serve settings clock s).1.status.isSuccess = true) :
    ∃ (mode : Flow.WriteMode) (p : Passage) (ended : Flow.Result × Clocked),
      v.serve settings clock s = (dressed v.request v.fresh (responseOf ended.1), ended.2) ∧
      Acknowledged mode p d.withoutReserved v.etag s.state.databases ended ∧
      (mode = .merge ↔ v.request.head.method.verb = .patch) ∧
      p.exchange = (Http.Exchange.ofRequest v.request).takeBody.2 ∧ p.context.db = db ∧
      p.context.path = Flow.joinPath [db] ∧ p.context.warnings = d.reservedKeyWarnings := by
  obtain ⟨mode, content, p, written, ended, hserve, haccepted, hwritten, hmode, hexchange, hname,
    hpath, hcontent, hwarnings⟩ := exists_accepted h hwriting hsuccess
  obtain rfl := eq_single_of_brought haccepted.brought hspelled
  have hdocument := hwritten.document
  rw [hcontent] at hdocument
  obtain rfl := Flow.brings_single _ mode written hdocument
  exact ⟨mode, p, ended, hserve, hwritten, hmode, hexchange, hname, hpath, hwarnings⟩

end Tracing

/-- A write of one document that succeeds is answered by what was taken from the document. The keys
that were taken are those that begin with an underscore, the identifier's apart. None of their
values is stored, and every other key but the identifier's keeps its value. If there are such keys,
the answer is a text that spells a document with one warning for each, in the order of their bytes;
otherwise the answer is a status alone. -/
theorem warnings_of_reserved_keys (settings : Setup) (clock : Nat → Nat) (v : Visit)
    (s : Clocked) (db : String) (d : Document) (hadmitted : Admitted settings db v.request)
    (hwriting : isWriting v.request = true)
    (hspelled : Json.spelled? v.request.body.bytes = some (.object d))
    (hsuccess : (v.serve settings clock s).1.status.isSuccess = true) :
    let response := (v.serve settings clock s).1
    let before := s.state.databases.get? db
    let names := d.reservedKeys
    (∀ key, key ∈ names ↔
        (∃ value, d.get? key = some value) ∧ key.toList.head? = some '_' ∧ key ≠ idField) ∧
      names.Pairwise (fun a b => Text.Utf8.encode a < Text.Utf8.encode b) ∧
      (∃ stored, (v.serve settings clock s).2.state.databases.get? db = some stored ∧
        stored.get? etagField = some (.string v.etag) ∧
        (∀ key ∈ names, key ≠ etagField → stored.get? key =
          if v.request.head.method.verb = .patch then before.bind (·.get? key) else none) ∧
        ∀ key value, d.get? key = some value → key ∉ names → key ≠ idField →
          stored.get? key = some value) ∧
      (names ≠ [] →
        response.status = (if before.isNone then .created else .ok) ∧
        response.headers.get? "content-type" = some Http.MediaType.hal.value ∧
        let links : Json.Value :=
          .object [("self", .object [("href", .string (Flow.linkPath (Flow.joinPath [db])))])]
        let document : Document := [("_links", links), ("_warnings", .array (names.map fun key =>
          .string s!"Reserved field {key} was filtered out from the request"))]
        response.body = some (Flow.bodyOf document) ∧
        response.body.bind Json.spelled? = some (.object document)) ∧
      (names = [] → response.status = (if before.isNone then .created else .noContent) ∧
        response.body = none) := by
  intro response before names
  have hordered : Keyed.Ordered d := Json.ordered_of_read hspelled
  have hreserved (key : String) : key ∈ d.reservedKeys ↔
      (∃ value, d.get? key = some value) ∧ key.toList.head? = some '_' ∧ key ≠ idField :=
    Keyed.mem_reservedKeys_iff
  obtain ⟨mode, p, ended, hserve, hacknowledged, hmode, hexchange, hname, hpath, hwarnings⟩ :=
    exists_acknowledged hadmitted hwriting hspelled hsuccess
  obtain ⟨stored, hstored, hkept⟩ := hacknowledged.exists_stored hordered
  obtain ⟨hplain, hwarn⟩ := hacknowledged.answer (Keyed.Ordered.filterKeys hordered _)
    (by rw [hexchange]; rfl) (by rw [hexchange]; rfl)
  rw [hname] at hstored hplain hwarn
  have hvalue (key : String) : stored.get? key =
      (if etagField = key then some (.string v.etag)
        else if key.toList.head? = some '_' then none else d.get? key).or
      (if v.request.head.method.verb = .patch then before.bind (·.get? key) else none) := by
    rw [hkept key, hname]
    simp only [hmode]
    rfl
  have hmethod : v.request.head.method ≠ .head := by
    intro hhead
    rw [isWriting, hhead] at hwriting
    cases hwriting
  obtain ⟨hleft, hheaders, hsent⟩ := dressed_of_not_head hmethod v.fresh (responseOf ended.1)
  have hresponse : response = dressed v.request v.fresh (responseOf ended.1) :=
    congrArg Prod.fst hserve
  rw [← hresponse] at hleft hheaders hsent
  refine ⟨hreserved, hordered.reservedKeys_ascend, ⟨stored, ?_, ?_, fun key hkey hother => ?_,
    fun key value hsent hkey hother => ?_⟩, fun hsome => ?_, fun hnone => ?_⟩
  · rw [hserve]
    exact hstored
  · rw [hvalue, if_pos rfl]
    rfl
  · rw [hvalue, if_neg (Ne.symm hother), if_pos ((hreserved key).mp hkey).2.1]
    rfl
  · have hplain : key.toList.head? ≠ some '_' := fun hmarked =>
      hkey ((hreserved key).mpr ⟨⟨value, hsent⟩, hmarked, hother⟩)
    have hversion : etagField ≠ key := by
      rintro rfl
      exact hplain (by decide)
    rw [hvalue, if_neg hversion, if_neg hplain, hsent]
    rfl
  · have hwarned : p.context.warnings ≠ [] := by
      rw [hwarnings]
      exact fun hempty => hsome (List.map_eq_nil_iff.mp hempty)
    obtain ⟨hanswer, htype, hbody⟩ := hwarn hwarned
    refine ⟨hleft.trans hanswer, (hheaders _ (by decide)).trans htype, ?_⟩
    intro links document
    have hdocument : Flow.warningsDocument p.context.path p.context.warnings = document := by
      rw [hpath, hwarnings, Keyed.reservedKeyWarnings, Flow.warningsDocument, List.map_map]
      rfl
    have hreads := Flow.spelled?_bodyOf_warningsDocument p.context.path p.context.warnings
    rw [hdocument] at hbody hreads
    refine ⟨hsent.trans hbody, ?_⟩
    rw [hsent, hbody, Option.bind_some, hreads]
  · have hquiet : p.context.warnings = [] := by
      rw [hwarnings]
      exact List.map_eq_nil_iff.mpr hnone
    obtain ⟨hanswer, hbody⟩ := hplain hquiet
    exact ⟨hleft.trans hanswer, hsent.trans hbody⟩

/-- A visitor who stores a document with keys that belong to the gateway. -/
def markedVisit : Visit :=
  ⟨shopRequest .put "\x7b\"a\": 1, \"_c\": 1, \"_id\": 1, \"_b\": 1\x7d", firstVersion, "first",
    .ok ()⟩

/-- Two keys are taken from a document that is stored for the first time, and the visitor is warned
of both in order. -/
theorem warnings_of_reserved_keys_shop :
    let served := markedVisit.serve permissiveSettings (fun reading => reading)
      ⟨.ofSettings permissiveSettings, 0⟩
    served.1.status = .created ∧
      served.1.body.bind Json.spelled? = some (.object
        [("_links", .object [("self", .object [("href", .string "/shop")])]),
          ("_warnings", .array [.string "Reserved field _b was filtered out from the request",
            .string "Reserved field _c was filtered out from the request"])]) ∧
      ∃ stored, served.2.state.databases.get? "shop" = some stored ∧
        stored.get? "a" = some (.natural 1) ∧ stored.get? "_c" = none := by
  intro served
  have hspelled : Json.spelled? markedVisit.request.body.bytes =
      some (.object [("_b", .natural 1), ("_c", .natural 1), ("_id", .natural 1),
        ("a", .natural 1)]) := by rfl
  have hadmitted : Admitted permissiveSettings "shop" markedVisit.request :=
    ⟨by decide, by decide, none, by decide +kernel⟩
  have hsuccess : served.1.status.isSuccess = true := by decide +kernel
  obtain ⟨-, -, ⟨stored, hstored, -, hnone, hkept⟩, hwarned, -⟩ :=
    warnings_of_reserved_keys permissiveSettings (fun reading => reading) markedVisit
      ⟨.ofSettings permissiveSettings, 0⟩ "shop" _ hadmitted (by decide) hspelled hsuccess
  obtain ⟨hstatus, -, -, hbody⟩ := hwarned (by decide)
  exact ⟨hstatus, hbody, stored, hstored, hkept "a" _ rfl (by decide) (by decide),
    hnone "_c" (by decide) (by decide)⟩

end Gateway

end DocumentGateway
