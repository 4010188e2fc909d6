import DocumentGateway.Proofs.Flow.JsonIntake
import DocumentGateway.Proofs.Gateway.Entries
import DocumentGateway.Proofs.Gateway.Precondition
import DocumentGateway.Proofs.Gateway.Telling
import DocumentGateway.Proofs.Text.Cut

/-!
# The tag that is current

Clients get the version of a database from three places: from the answer to a write, from a read and
from a conflict. While requests are answered one after another all three tell the version that is
stored, and whoever sends it back, as he got it or in quotes, writes over that version.
-/

namespace DocumentGateway.Gateway

open DocumentGateway.Flow (Accepted Context Passage Stage)

/-- A text says a version: bare or in double quotes, with any blanks around it. -/
inductive Says (version text : String) : Prop where
  | bare {before after : List Char} (blanks : ∀ c ∈ before ++ after, c = ' ' ∨ c = '\t')
      (spelled : text.toList = before ++ version.toList ++ after)
  | quoted {before after : List Char} (blanks : ∀ c ∈ before ++ after, c = ' ' ∨ c = '\t')
      (spelled : text.toList = before ++ '"' :: (version.toList ++ ['"']) ++ after)

/-- No character of a version token is a quote or a blank. -/
theorem plain_of_mem {bytes : Bytes} {c : Char} (h : c ∈ (versionToken bytes).toList) :
    c ≠ '"' ∧ c ≠ ' ' ∧ c ≠ '\t' := by
  have hdigit : ∀ n < 16, Text.hexDigit n ≠ '"' ∧ Text.hexDigit n ≠ ' ' ∧
      Text.hexDigit n ≠ '\t' := by decide
  obtain ⟨n, hn, rfl⟩ := exists_hexDigit_of_mem h
  exact hdigit n hn

theorem trim_blanks {before kept after : List Char}
    (hblanks : ∀ c ∈ before ++ after, c = ' ' ∨ c = '\t')
    (hkept : ∀ c ∈ kept, c ≠ ' ' ∧ c ≠ '\t') :
    Text.trim (fun c => c = ' ' || c = '\t') (before ++ kept ++ after) = kept := by
  refine Text.trim_of_kept (fun c hc => ?_) (fun c hc => ?_) (fun c hc => ?_)
  · simpa using hblanks c (List.mem_append_left _ hc)
  · simpa using hkept c hc
  · simpa using hblanks c (List.mem_append_right _ hc)

theorem trim_quotes (before after : List Char) {kept : List Char}
    (hquotes : ∀ c ∈ before ++ after, c = '"') (hkept : ∀ c ∈ kept, c ≠ '"') :
    Text.trim (· = '"') (before ++ kept ++ after) = kept := by
  refine Text.trim_of_kept (fun c hc => ?_) (fun c hc => ?_) (fun c hc => ?_)
  · simpa using hquotes c (List.mem_append_left _ hc)
  · simpa using hkept c hc
  · simpa using hquotes c (List.mem_append_right _ hc)

/-- A text is read as the version that it says. -/
theorem etagOfText?_of_says {bytes : Bytes} {text : String} (h : Says (versionToken bytes) text)
    (hne : versionToken bytes ≠ "") : Context.etagOfText? text = some (versionToken bytes) := by
  have hunquoted : ∀ c ∈ (versionToken bytes).toList, c ≠ '"' := fun c hc => (plain_of_mem hc).1
  have hunblank : ∀ c ∈ (versionToken bytes).toList, c ≠ ' ' ∧ c ≠ '\t' :=
    fun c hc => (plain_of_mem hc).2
  generalize versionToken bytes = version at h hne hunquoted hunblank ⊢
  have htrimmed : Text.trim (· = '"') (Text.trim (fun c => c = ' ' || c = '\t') text.toList) =
      version.toList := by
    cases h with
    | bare blanks spelled =>
      rw [spelled, trim_blanks blanks hunblank]
      simpa using trim_quotes [] [] (by simp) hunquoted
    | quoted blanks spelled =>
      rw [spelled, trim_blanks blanks]
      · exact trim_quotes ['"'] ['"'] (by simp) hunquoted
      · intro c hc
        simp only [List.mem_cons, List.mem_append, List.not_mem_nil, or_false] at hc
        rcases hc with rfl | hc | rfl
        · decide
        · exact hunblank c hc
        · decide
  have hnonempty : version.toList ≠ [] := by simpa using hne
  simp only [Context.etagOfText?, htrimmed]
  rw [if_neg (by simpa using hnonempty), String.ofList_toList]

/-- Some content may be written by a method: a document whose transforms are well-formed, or, by
PUT, nothing. -/
inductive Fitting (verb : Http.Verb) : Content → Prop where
  | nothing (replacing : verb = .put) : Fitting verb .absent
  | document (writing : verb = .put ∨ verb = .patch) {d : Document} {transforms : List Transform}
      (formed : Transform.ofDocument d = .ok transforms) : Fitting verb (.single d)

theorem Fitting.verb {verb : Http.Verb} {content : Content} (h : Fitting verb content) :
    verb = .put ∨ verb = .patch := by
  cases h with
  | nothing replacing => exact .inl replacing
  | document writing => exact writing

/-- The transforms of a document are not reserved, so that they stay when it loses its reserved
keys. -/
theorem ofDocument_withoutReserved (d : Document) :
    Transform.ofDocument d.withoutReserved = Transform.ofDocument d := by
  refine Transform.ofDocument_congr ?_
  rw [Keyed.withoutReserved, Keyed.get?_filterKeys, if_pos (by decide)]

/-- What fits the method of a request is sent to be written. -/
theorem dispatch_of_fitting {p : Passage} {content : Content} (hresource : p.context.resource = .db)
    (hname : Flow.isWritableName p.context.db = true)
    (hcontent : p.context.content = content.withoutReserved)
    (h : Fitting p.context.verb content) :
    ∃ mode d, Flow.dispatch Flow.Task.stage p = Flow.write mode Stage.stop p ∧
      Flow.writableDocument mode p.context = .ok d := by
  unfold Flow.dispatch
  cases h with
  | nothing replacing =>
    refine ⟨.replace, [], ?_, ?_⟩
    · rw [hresource, replacing]
      rfl
    · rw [Flow.writableDocument_eq_ok_iff, hcontent]
      exact ⟨hname, rfl, [], rfl⟩
  | @document writing d transforms formed =>
    have hwritable : ∀ mode, Flow.writableDocument mode p.context = .ok d.withoutReserved := by
      intro mode
      rw [Flow.writableDocument_eq_ok_iff, hcontent]
      refine ⟨hname, ?_, transforms, (ofDocument_withoutReserved d).trans formed⟩
      cases mode <;> rfl
    rcases writing with hverb | hverb
    · refine ⟨.replace, _, ?_, hwritable _⟩
      rw [hresource, hverb]
      rfl
    · refine ⟨.merge, _, ?_, hwritable _⟩
      rw [hresource, hverb]
      rfl

section

variable {db version : String} {stored : Document} {v : Visit} {clock : Nat → Nat} {s : Clocked}
  {p : Passage}

/-- A write for the version that is stored is answered with success. -/
theorem run_write_of_current {mode : Flow.WriteMode} {d : Document}
    (hopen : p.exchange.ended = false) (hd : Flow.writableDocument mode p.context = .ok d)
    (hstored : s.state.databases.get? p.context.db = some stored)
    (hversion : stored.text? etagField = some version) (hetag : p.context.etag = some version)
    (hseen : p.context.props = some stored) :
    (responseOf ((Flow.write mode Stage.stop p).run (v.answer clock) s).1).status.isSuccess =
      true := by
  have hsuccess : (s.state.databases.upsert p.context.db (Flow.writeOf mode p.context d)
      v.etag).1.status.isSuccess = true :=
    Store.Database.success_of_current hstored hversion hetag (by simp [Flow.writeOf, hseen])
  have hrecorded : ∀ result, (p.record result).exchange.ended = false :=
    fun result => (Flow.ended_record p result).trans hopen
  unfold Flow.write
  simp only [hd, Flow.Program.run_call]
  change (responseOf ((Flow.afterWrite Stage.stop p (s.state.databases.upsert p.context.db
    (Flow.writeOf mode p.context d) v.etag).1).run (v.answer clock) _).1).status.isSuccess = true
  rw [Flow.afterWrite_of_success Stage.stop p hsuccess]
  exact (Flow.response_acknowledge (hrecorded _) hsuccess).1

/-- A write of acceptable content that has been admitted, for the version that is stored, is
answered with success. -/
theorem run_afterAdmission_of_current (reading : Flow.BodyReading) {body : Http.Body}
    {content : Content} (hcoherent : s.state.Coherent) (hopen : p.exchange.ended = false)
    (hbody : p.exchange.body = some body) (hresource : p.context.resource = .db)
    (hprops : p.context.props = none)
    (haccepted : Accepted reading.body p.exchange.contentTypes p.context.verb body content)
    (hfitting : Fitting p.context.verb content)
    (hname : Flow.isWritableName p.context.db = true)
    (hstored : s.state.databases.get? p.context.db = some stored)
    (hversion : stored.text? etagField = some version) (hetag : p.context.etag = some version) :
    (responseOf ((Flow.afterAdmission reading p).run (v.answer clock) s).1).status.isSuccess =
      true := by
  have hverb : p.context.verb ≠ .get ∧ p.context.verb ≠ .options ∧ p.context.verb ≠ .delete := by
    rcases hfitting.verb with hv | hv <;> simp [hv]
  have hfile : Flow.bringsFile p.context = false := by
    simp [Flow.bringsFile, hresource]
  let taken : Passage := ⟨p.exchange.takeBody.2, p.context.takingIn content⟩
  have hnamed : p.context.db = "" → s.state.databases.get? p.context.db = none := by
    intro hempty
    rw [hempty] at hname
    cases hname
  rw [Flow.afterAdmission, Flow.intake_of_accepted _ hbody hverb hfile haccepted]
  obtain ⟨s', hsame, hlookup⟩ := run_lookup (Flow.dispatch Flow.Task.stage) taken v clock s
    hcoherent hprops hnamed
  rw [hlookup]
  let found : Passage := { taken with context := { taken.context with
    props := s.state.databases.get? p.context.db } }
  obtain ⟨mode, d, hdispatch, hd⟩ :=
    dispatch_of_fitting (p := found) hresource hname rfl hfitting
  change (responseOf ((Flow.dispatch Flow.Task.stage found).run (v.answer clock)
    s').1).status.isSuccess = true
  rw [hdispatch]
  refine run_write_of_current hopen hd ?_ hversion hetag hstored
  rw [hsame]
  exact hstored

end

/-- A request for a database may be made. -/
structure Admitted (settings : Setup) (db : String) (r : Http.Request) : Prop where
  path : hasPath r.head.uri = true
  address : Flow.segments r.head.uri.path = [db]
  admitted : ∃ caller, settings.security.rules.judge r.head.headers r.head.method
    (Flow.joinPath [db]) = .admitted caller

/-- A request may be made, and it writes a database with content that is accepted and may be
written. -/
structure Writes (settings : Setup) (db : String) (r : Http.Request) : Prop
    extends Admitted settings db r where
  content : ∃ content, Accepted (bodyReading settings).body (Http.Exchange.ofRequest r).contentTypes
    r.head.method.verb r.body content ∧ Fitting r.head.method.verb content

/-- A request is made for a version: the first tag that it carries says it. -/
def MadeFor (version : String) (r : Http.Request) : Prop :=
  ∃ tag text, r.head.headers.first? "if-match" = some tag ∧ tag.text? = some text ∧
    Says version text

/-- A write made for the version that is stored is answered with success. -/
theorem serve_of_current {settings : Setup} (clock : Nat → Nat) {v : Visit} {s : Clocked}
    {db : String} {bytes : Bytes} {stored : Document} (h : Writes settings db v.request)
    (hcoherent : s.state.Coherent) (hwell : Store.WellKept db stored)
    (hstored : s.state.databases.get? db = some stored)
    (hversion : stored.text? etagField = some (versionToken bytes))
    (hmade : MadeFor (versionToken bytes) v.request) (hne : versionToken bytes ≠ "") :
    (v.serve settings clock s).1.status.isSuccess = true := by
  obtain ⟨caller, hadmitted⟩ := h.admitted
  obtain ⟨content, haccepted, hfitting⟩ := h.content
  let admitted := admittedPassage settings v.request caller
  have hresource : admitted.context.resource = .db := congrArg Flow.Resource.ofSegments h.address
  have hname : admitted.context.db = db := congrArg (fun names => names.head?.getD "") h.address
  have hetag : admitted.context.etag = some (versionToken bytes) := by
    obtain ⟨tag, text, htag, htext, hsays⟩ := hmade
    change Context.etagOfHeaders? v.request.head.headers = _
    rw [Context.etagOfHeaders?, htag, Option.bind_some, htext, Option.bind_some]
    exact etagOfText?_of_says hsays hne
  rw [serve_of_admitted clock s h.path h.address hadmitted]
  refine run_afterAdmission_of_current (p := admitted) (bodyReading settings) hcoherent rfl rfl
    hresource rfl haccepted hfitting ?_ ?_ hversion hetag
  · rw [hname]
    exact Flow.isWritableName_iff.mpr hwell.named
  · rw [hname]
    exact hstored

/-- A GET request that may be made is answered with success and the version that is stored. -/
theorem read_of_current {settings : Setup} (clock : Nat → Nat) {v : Visit} {s : Clocked}
    {db version : String} {stored : Document} {value : Http.HeaderValue}
    (h : Admitted settings db v.request) (hget : v.request.head.method = .get)
    (hcoherent : s.state.Coherent) (hnamed : db ≠ "")
    (hstored : s.state.databases.get? db = some stored)
    (hversion : stored.text? etagField = some version)
    (hvalue : Http.HeaderValue.ofText? version = some value) :
    let response := (v.serve settings clock s).1
    response.status = .ok ∧ response.headers.get? "etag" = some value := by
  intro response
  obtain ⟨caller, hjudged⟩ := h.admitted
  obtain ⟨hstatus, hetag, -⟩ := serve_of_get clock hget h.path h.address hjudged hcoherent
    fun hempty => absurd hempty hnamed
  rw [hstored] at hstatus hetag
  obtain ⟨hok, hshown, -⟩ := response_showProps (x := .ofRequest v.request) rfl
    (Flow.joinPath [db]) hversion hvalue
  exact ⟨hstatus.trans hok, hetag.trans hshown⟩

/-- A request is the last one in a history that wrote a database, with what was served later. -/
structure LastWriter (db : String) (history : List Served) (last : Served) (later : List Served) :
    Prop where
  split : ∃ before, history = before ++ last :: later
  writes : last.replaces db = true ∨ last.merges db = true
  latest : ∀ e ∈ later, ¬(e.replaces db = true ∨ e.merges db = true)

/-- What a history has told of the version of a database: the last write told it, and so has every
response since that told one. -/
inductive Voiced (db : String) (history : List Served) : Option String → Prop where
  | never : Voiced db history none
  | since {last : Served} {later : List Served} {bytes : Bytes}
      (writer : LastWriter db history last later)
      (told : last.response.headers.get? "etag" = Http.HeaderValue.ofText? (versionToken bytes))
      (echoed : ∀ e ∈ later, addressedDb e.request = db → Tells e.request e.response →
        e.response.headers.get? "etag" = Http.HeaderValue.ofText? (versionToken bytes)) :
      Voiced db history (some (versionToken bytes))

theorem LastWriter.snoc {db : String} {history later : List Served} {last e : Served}
    (h : LastWriter db history last later) (he : ¬(e.replaces db = true ∨ e.merges db = true)) :
    LastWriter db (history ++ [e]) last (later ++ [e]) := by
  obtain ⟨before, rfl⟩ := h.split
  exact ⟨⟨before, by simp⟩, h.writes,
    List.forall_mem_append.mpr ⟨h.latest, List.forall_mem_singleton.mpr he⟩⟩

namespace Voiced

variable {db : String} {history : List Served} {version? : Option String} {e : Served}

/-- What does not write a database, and tells no other version of it, leaves what has been told. -/
theorem spare (h : Voiced db history version?)
    (hidle : ¬(e.replaces db = true ∨ e.merges db = true))
    (hecho : addressedDb e.request = db → Tells e.request e.response →
      e.response.headers.get? "etag" = version?.bind Http.HeaderValue.ofText?) :
    Voiced db (history ++ [e]) version? := by
  cases h with
  | never => exact .never
  | since writer told echoed =>
    simp only [Option.bind_some] at hecho
    refine .since (writer.snoc hidle) told ?_
    exact List.forall_mem_append.mpr ⟨echoed, List.forall_mem_singleton.mpr hecho⟩

/-- One more request that is served carries what has been told on. -/
theorem serve (settings : Setup) (clock : Nat → Nat) {v : Visit} {s : Clocked}
    (h : Voiced db history (s.state.databases.version? db)) (hcoherent : s.state.Coherent)
    (htoken : ∃ bytes, v.etag = versionToken bytes) :
    Voiced db (history ++ [⟨v.request, (v.serve settings clock s).1⟩])
      ((v.serve settings clock s).2.state.databases.version? db) := by
  have hecho : addressedDb v.request = db → Tells v.request (v.serve settings clock s).1 →
      (v.serve settings clock s).1.headers.get? "etag" =
        (s.state.databases.version? db).bind Http.HeaderValue.ofText? := by
    rintro rfl htells
    exact etag_of_tells settings clock v hcoherent htells
  rcases serve_cases settings clock v s with
    ⟨hfailure, hsame⟩ | ⟨hwriting, hsuccess, hetag, result, hwrote⟩
  · rw [hsame]
    refine h.spare (fun hwrites => hfailure ?_) hecho
    exact ((Served.replaces_or_merges_iff _ _).mp hwrites).2
  · by_cases hdb : addressedDb v.request = db
    · subst hdb
      obtain ⟨bytes, htoken⟩ := htoken
      rw [hwrote.version? fun w hw => hw.ordered, htoken]
      rw [htoken] at hetag
      have hwrites := (Served.replaces_or_merges_iff (addressedDb v.request)
        ⟨v.request, (v.serve settings clock s).1⟩).mpr ⟨rfl, hwriting, hsuccess⟩
      exact .since ⟨⟨history, rfl⟩, hwrites, fun _ hm => nomatch hm⟩ hetag fun _ hm => nomatch hm
    · have hsame : (v.serve settings clock s).2.state.databases.version? db =
          s.state.databases.version? db := by
        rw [Store.Database.version?, hwrote.get?_of_ne (Ne.symm hdb)]
        rfl
      rw [hsame]
      refine h.spare (fun hwrites => hdb ?_) hecho
      exact ((Served.replaces_or_merges_iff _ _).mp hwrites).1

end Voiced

/-- A session carries what has been told on, request by request. -/
theorem voiced_session (settings : Setup) (clock : Nat → Nat) (visits : List Visit) {db : String}
    {history : List Served} {s : Clocked} (hcoherent : s.state.Coherent)
    (h : Voiced db history (s.state.databases.version? db))
    (htokens : ∀ v ∈ visits, ∃ bytes, v.etag = versionToken bytes) :
    let (responses, after) := session settings clock visits s
    after.state.Coherent ∧
      Voiced db (history ++ servedTo visits responses) (after.state.databases.version? db) := by
  induction visits generalizing history s with
  | nil =>
    refine ⟨hcoherent, ?_⟩
    change Voiced db (history ++ []) _
    rwa [List.append_nil]
  | cons v rest ih =>
    have hrest := ih (coherent_serve settings clock v hcoherent)
      (h.serve settings clock hcoherent (htokens v List.mem_cons_self))
      fun w hw => htokens w (List.mem_cons_of_mem _ hw)
    dsimp only at hrest ⊢
    rw [List.append_assoc] at hrest
    exact hrest

/-- After any session that begins with nothing stored, under any settings and whenever copies
expire, every database that exists has a current tag: the last write to it told the tag, and so has
every response since that was a success in answer to GET, or a conflict. A GET request that may be
made is answered with success, and with that tag; so is a conflict; and a write that may be made,
with content that is accepted and may be written, succeeds if it is made for what the tag says. -/
theorem current_tag_usable (settings : Setup) (clock : Nat → Nat) (visits : List Visit)
    (db : String)
    (htokens : ∀ visit ∈ visits, ∃ bytes, bytes.length = 16 ∧ visit.etag = versionToken bytes)
    (hexists :
      ((sessionFromStart settings clock visits).2.state.databases.get? db).isSome = true) :
    let (responses, s) := sessionFromStart settings clock visits
    ∃ last later value version, LastWriter db (servedTo visits responses) last later ∧
      last.response.headers.get? "etag" = some value ∧ value.text? = some version ∧
      (∀ e ∈ later, addressedDb e.request = db → Tells e.request e.response →
        e.response.headers.get? "etag" = some value) ∧
      ∀ v : Visit,
        let response := (v.serve settings clock s).1
        (Admitted settings db v.request → v.request.head.method = .get →
          response.status = .ok ∧ response.headers.get? "etag" = some value) ∧
        (addressedDb v.request = db → response.status = .conflict →
          response.headers.get? "etag" = some value) ∧
        (Writes settings db v.request → MadeFor version v.request →
          response.status.isSuccess = true) := by
  have hstart : Voiced db [] ((State.ofSettings settings).databases.version? db) := .never
  have hsession := voiced_session settings clock visits (s := ⟨.ofSettings settings, 0⟩)
    (State.coherent_initial _ _) hstart fun v hv => (htokens v hv).imp fun _ h => h.2
  have hwell := wellKept_session settings clock visits (s := ⟨.ofSettings settings, 0⟩)
    (fun _ hm => nomatch hm) fun v hv => by
      obtain ⟨bytes, hlength, htoken⟩ := htokens v hv
      rw [htoken]
      exact versionToken_ne_empty hlength
  unfold sessionFromStart at hexists ⊢
  generalize session settings clock visits ⟨.ofSettings settings, 0⟩ = outcome
    at hsession hwell hexists ⊢
  obtain ⟨responses, s⟩ := outcome
  obtain ⟨hcoherent, hvoiced⟩ := hsession
  dsimp only at hcoherent hvoiced hwell hexists ⊢
  obtain ⟨stored, hstored⟩ := Option.isSome_iff_exists.mp hexists
  have hkept : Store.WellKept db stored := hwell _ (Keyed.mem_of_get? hstored)
  obtain ⟨version, hne, hfield⟩ := hkept.version
  have hversion : stored.text? etagField = some version := by
    rw [Keyed.text?, hfield]
    rfl
  have hcurrent : s.state.databases.version? db = some version := by
    rw [Store.Database.version?, hstored]
    exact hversion
  rw [hcurrent] at hvoiced
  cases hvoiced with
  | @since last later bytes writer told echoed =>
    obtain ⟨value, hvalue, htext⟩ := Http.exists_value_of_text (isTextChar_versionToken bytes)
    refine ⟨last, later, value, _, writer, told.trans hvalue, htext,
      fun e he haddressed htells => (echoed e he haddressed htells).trans hvalue, fun v => ?_⟩
    refine ⟨fun hadmitted hget => ?_, fun haddressed hconflict => ?_, fun hwrites hmade => ?_⟩
    · exact read_of_current clock hadmitted hget hcoherent hkept.named.1 hstored hversion hvalue
    · subst haddressed
      rw [etag_of_tells settings clock v hcoherent (.inr hconflict), hcurrent, Option.bind_some,
        hvalue]
    · exact serve_of_current clock hwrites hcoherent hkept hstored hversion hmade hne

/-- A database that was stored and then changed: a reader gets a tag, and whoever sends it back just
so writes. -/
theorem current_tag_usable_shop :
    let (responses, s) := sessionFromStart permissiveSettings (fun reading => reading) shopVisits
    ∃ last later value, LastWriter "shop" (servedTo shopVisits responses) last later ∧
      last.response.headers.get? "etag" = some value ∧
      (shopReader.serve permissiveSettings (fun reading => reading) s).1.headers.get? "etag" =
        some value ∧
      ((taggedVisit value).serve permissiveSettings
        (fun reading => reading) s).1.status.isSuccess = true := by
  have htokens : ∀ visit ∈ shopVisits, ∃ bytes, bytes.length = 16 ∧
      visit.etag = versionToken bytes := by
    intro visit hm
    simp only [shopVisits, List.mem_cons, List.not_mem_nil, or_false] at hm
    rcases hm with rfl | rfl
    · exact ⟨List.replicate 16 0, rfl, rfl⟩
    · exact ⟨List.replicate 16 1, rfl, rfl⟩
  have husable := current_tag_usable permissiveSettings (fun reading => reading) shopVisits "shop"
    htokens (by decide +kernel)
  have hreads : Admitted permissiveSettings "shop" shopReader.request :=
    ⟨by decide, by decide, none, by decide +kernel⟩
  have hwrites : ∀ value, Writes permissiveSettings "shop" (taggedVisit value).request := by
    intro value
    have hpath : hasPath (taggedVisit firstVersion).request.head.uri = true := by decide
    have haddress : Flow.segments (taggedVisit firstVersion).request.head.uri.path = ["shop"] := by
      decide
    refine ⟨⟨hpath, haddress, none, rfl⟩, .absent, ⟨⟨rfl, Nat.zero_le _⟩, .empty rfl, ?_, ?_⟩,
      .nothing rfl⟩
    · exact fun _ hd => (List.not_mem_nil hd).elim
    · exact fun _ _ hd => (List.not_mem_nil hd).elim
  generalize sessionFromStart permissiveSettings (fun reading => reading) shopVisits = outcome
    at husable ⊢
  obtain ⟨responses, s⟩ := outcome
  obtain ⟨last, later, value, version, hwriter, htold, htext, _, hnext⟩ := husable
  obtain ⟨hget, _, _⟩ := hnext shopReader
  obtain ⟨_, _, hput⟩ := hnext (taggedVisit value)
  refine ⟨last, later, value, hwriter, htold, (hget hreads rfl).2, hput (hwrites value) ?_⟩
  have hblanks : ∀ c ∈ ([] ++ [] : List Char), c = ' ' ∨ c = '\t' := by simp
  exact ⟨value, version, rfl, htext, .bare hblanks (by simp)⟩

end DocumentGateway.Gateway
