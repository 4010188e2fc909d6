import DocumentGateway.Proofs.Flow.Hal
import DocumentGateway.Proofs.Gateway.Legible
import DocumentGateway.Proofs.Store.Stamped

/-!
# Reads tell the history of writes

What is stored under a name follows from the requests that were served and from how they were
answered: from the last PUT that was a success, and from the PATCH requests that were one after it,
in their order. Each request that is served carries this from the history before it to the one that
it ends, and a session carries it from the start to any read, which finds in the cache or past it
what is stored.
-/

namespace DocumentGateway.Gateway

open DocumentGateway.Flow (Passage Stage)

/-- A request with the response that it was given. -/
structure Served where
  /-- The request. -/
  request : Http.Request
  /-- Its response. -/
  response : Http.Response

namespace Served

/-- Whether a request for a database was made with a method and answered with success. -/
def succeeds (verb : Http.Verb) (db : String) (e : Served) : Bool :=
  e.request.head.method.verb = verb && addressedDb e.request = db && e.response.status.isSuccess

/-- Whether a request has replaced a database, or created it. -/
abbrev replaces (db : String) (e : Served) : Bool := e.succeeds .put db

/-- Whether a request has been merged into a database. -/
abbrev merges (db : String) (e : Served) : Bool := e.succeeds .patch db

/-- What a request has sent of a document, apart from the keys that begin with an underscore. -/
def sent (e : Served) : Document := (sentDocument e.request).unmarked

/-- A database has been written by a success in answer to a request for it that writes. -/
theorem replaces_or_merges_iff (db : String) (e : Served) :
    e.replaces db = true ∨ e.merges db = true ↔
      addressedDb e.request = db ∧ isWriting e.request = true ∧
        e.response.status.isSuccess = true := by
  simp only [replaces, merges, succeeds, isWriting, Bool.and_eq_true, Bool.or_eq_true,
    decide_eq_true_eq]
  grind

/-- A request that has written has merged if its write does, and replaced if not. -/
theorem replaces_and_merges_eq {settings : Setup} {r : Http.Request} {w : Store.Write}
    (hw : WrittenFor settings r w) (hwriting : isWriting r = true) {response : Http.Response}
    (hsuccess : response.status.isSuccess = true) :
    replaces (addressedDb r) ⟨r, response⟩ = !w.patching ∧
      merges (addressedDb r) ⟨r, response⟩ = w.patching := by
  simp only [isWriting, Bool.or_eq_true, decide_eq_true_eq] at hwriting
  rw [hw.patching]
  rcases hwriting with hverb | hverb <;> simp [succeeds, hverb, hsuccess]

end Served

/-- What some visits have been given, each with its response. -/
def servedTo (visits : List Visit) (responses : List Http.Response) : List Served :=
  List.zipWith (fun v response => ⟨v.request, response⟩) visits responses

/-- What a PUT has sent, and laid over it in order what has been merged later. -/
def propsSince (db : String) (put : Served) (later : List Served) : Document :=
  (later.filter (Served.merges db)).foldl (fun props e => Keyed.overlay props e.sent) put.sent

/-- The last write of a PUT and of what has been merged later. -/
def lastWrite (db : String) (put : Served) (later : List Served) : Served :=
  (later.filter (Served.merges db)).getLastD put

/-- A PUT is the last one in a history that replaced a database, with what was served later. -/
structure LastPut (db : String) (history : List Served) (put : Served) (later : List Served) :
    Prop where
  split : ∃ before, history = before ++ put :: later
  replaces : put.replaces db = true
  latest : ∀ e ∈ later, e.replaces db = false

/-- What a history leaves under a name: nothing, if it was never written, and else what has been
sent since the last PUT, in the version that was told for the last write. -/
inductive Remembered (db : String) (history : List Served) : Option Document → Prop where
  | never (unwritten : ∀ e ∈ history, e.replaces db = false) : Remembered db history none
  | since {put : Served} {later : List Served} {version : String} (named : db ≠ "")
      (last : LastPut db history put later) (token : ∃ bytes, version = versionToken bytes)
      (told : (lastWrite db put later).response.headers.get? "etag" =
        Http.HeaderValue.ofText? version) :
      Remembered db history
        (some ((propsSince db put later).insert etagField (.string version)))

variable {db : String} {history later : List Served} {put e : Served}

theorem ordered_sent (e : Served) : Keyed.Ordered e.sent :=
  (ordered_sentDocument e.request).unmarked

theorem ordered_propsSince (db : String) (put : Served) (later : List Served) :
    Keyed.Ordered (propsSince db put later) := by
  unfold propsSince
  generalize later.filter (Served.merges db) = merged
  have hput := ordered_sent put
  generalize put.sent = props at hput ⊢
  induction merged generalizing props with
  | nil => exact hput
  | cons e rest ih => exact ih _ (hput.overlay _)

theorem propsSince_snoc (db : String) (put : Served) (later : List Served) (e : Served) :
    propsSince db put (later ++ [e]) =
      if e.merges db then Keyed.overlay (propsSince db put later) e.sent
      else propsSince db put later := by
  by_cases h : e.merges db = true <;> simp [propsSince, List.filter_append, h]

theorem lastWrite_snoc (db : String) (put : Served) (later : List Served) (e : Served) :
    lastWrite db put (later ++ [e]) = if e.merges db then e else lastWrite db put later := by
  by_cases h : e.merges db = true <;> simp [lastWrite, List.filter_append, h]

theorem LastPut.snoc (h : LastPut db history put later) (he : e.replaces db = false) :
    LastPut db (history ++ [e]) put (later ++ [e]) := by
  obtain ⟨before, rfl⟩ := h.split
  exact ⟨⟨before, by simp⟩, h.replaces,
    List.forall_mem_append.mpr ⟨h.latest, List.forall_mem_singleton.mpr he⟩⟩

theorem LastPut.self (he : e.replaces db = true) : LastPut db (history ++ [e]) e [] :=
  ⟨⟨history, rfl⟩, he, fun _ hm => nomatch hm⟩

namespace Remembered

variable {stored : Option Document}

/-- What does not write to a database leaves what is remembered of it. -/
theorem spare (h : Remembered db history stored)
    (hidle : ¬(e.replaces db = true ∨ e.merges db = true)) :
    Remembered db (history ++ [e]) stored := by
  obtain ⟨hput, hpatch⟩ : e.replaces db = false ∧ e.merges db = false := by simpa using hidle
  cases h with
  | never unwritten =>
    exact .never (List.forall_mem_append.mpr ⟨unwritten, List.forall_mem_singleton.mpr hput⟩)
  | @since put later _ named last token told =>
    have hprops := propsSince_snoc db put later e
    rw [hpatch, if_neg Bool.false_ne_true] at hprops
    rw [← hprops]
    refine .since named (last.snoc hput) token ?_
    rwa [lastWrite_snoc, hpatch, if_neg Bool.false_ne_true]

/-- A PUT is remembered instead of all that was before. -/
theorem replace {version : String} (named : db ≠ "") (he : e.replaces db = true)
    (token : ∃ bytes, version = versionToken bytes)
    (told : e.response.headers.get? "etag" = Http.HeaderValue.ofText? version) :
    Remembered db (history ++ [e])
      (some (Store.Database.stamped (sentDocument e.request).withoutReserved version)) := by
  rw [Store.Database.stamped_withoutReserved]
  exact .since named (LastPut.self he) token told

/-- A PATCH is remembered together with what was before. -/
theorem merge {document : Document} {version : String}
    (h : Remembered db history (some document)) (hput : e.replaces db = false)
    (he : e.merges db = true) (token : ∃ bytes, version = versionToken bytes)
    (told : e.response.headers.get? "etag" = Http.HeaderValue.ofText? version) :
    Remembered db (history ++ [e]) (some (Keyed.overlay document
      (Store.Database.stamped (sentDocument e.request).withoutReserved version))) := by
  cases h with
  | @since put later old named last =>
    have hprops := propsSince_snoc db put later e
    rw [he, if_pos rfl] at hprops
    rw [Store.Database.overlay_stamped (ordered_propsSince db put later)
      (ordered_sentDocument e.request), ← Served.sent, ← hprops]
    refine .since named (last.snoc hput) token ?_
    rwa [lastWrite_snoc, he, if_pos rfl]

/-- Nothing is remembered without a name. -/
theorem eq_none_of_nameless (h : Remembered db history stored) (hempty : db = "") :
    stored = none := by
  cases h with
  | never => rfl
  | since named => exact absurd hempty named

/-- What is remembered is nothing if and only if no PUT has been a success. -/
theorem eq_none_iff (h : Remembered db history stored) :
    stored = none ↔ ∀ e ∈ history, e.replaces db = false := by
  cases h with
  | never unwritten => exact iff_of_true rfl unwritten
  | @since put later _ named last =>
    obtain ⟨before, hsplit⟩ := last.split
    refine iff_of_false (Option.some_ne_none _) fun hnever => ?_
    have hput := hnever put (by simp [hsplit])
    rw [last.replaces] at hput
    cases hput

/-- A write that succeeds carries what is remembered on. -/
theorem write {settings : Setup} {r : Http.Request} {response : Http.Response}
    {databases : Store.Database} {w : Store.Write} {fresh : String}
    (h : Remembered (addressedDb r) history (databases.get? (addressedDb r)))
    (hw : WrittenFor settings r w) (hwriting : isWriting r = true)
    (hsuccess : response.status.isSuccess = true)
    (hwritten : (databases.upsert (addressedDb r) w fresh).1.status.isSuccess = true)
    (token : ∃ bytes, fresh = versionToken bytes)
    (told : response.headers.get? "etag" = Http.HeaderValue.ofText? fresh) :
    Remembered (addressedDb r) (history ++ [⟨r, response⟩])
      ((databases.upsert (addressedDb r) w fresh).2.get? (addressedDb r)) := by
  have named : addressedDb r ≠ "" := by
    intro hempty
    have hname := hw.name
    rw [hempty] at hname
    cases hname
  obtain ⟨hput, hpatch⟩ := Served.replaces_and_merges_eq hw hwriting hsuccess
  have hu := Store.Database.upserted databases (addressedDb r) w fresh
  generalize databases.upsert (addressedDb r) w fresh = outcome at hu hwritten ⊢
  cases hu with
  | missing | conflict => cases hwritten
  | created _ replacing | replaced _ _ replacing =>
    -- A PUT is remembered alike whether it has created or replaced.
    rw [Keyed.get?_insert_self, hw.content]
    exact .replace named (by rw [hput, replacing]; rfl) token told
  | merged found _ patching =>
    rw [found] at h
    rw [Keyed.get?_insert_self, hw.content]
    exact h.merge (by rw [hput, patching]; rfl) (hpatch.trans patching) token told

/-- One more request that is served carries what is remembered on. -/
theorem serve (settings : Setup) (clock : Nat → Nat) {v : Visit} {s : Clocked}
    (h : Remembered db history (s.state.databases.get? db))
    (htoken : ∃ bytes, v.etag = versionToken bytes) :
    Remembered db (history ++ [⟨v.request, (v.serve settings clock s).1⟩])
      ((v.serve settings clock s).2.state.databases.get? db) := by
  rcases serve_cases settings clock v s with
    ⟨hfailure, hsame⟩ | ⟨hwriting, hsuccess, hetag, result, hwrote⟩
  · rw [hsame]
    refine h.spare fun hwrites => hfailure ?_
    exact ((Served.replaces_or_merges_iff _ _).mp hwrites).2
  · by_cases hdb : addressedDb v.request = db
    · subst hdb
      obtain ⟨w, hw, hresult, hdatabases⟩ := hwrote.write
      rw [← hdatabases]
      exact h.write hw hwriting hsuccess (hresult ▸ hwrote.success) htoken hetag
    · rw [hwrote.get?_of_ne (Ne.symm hdb)]
      refine h.spare fun hwrites => hdb ?_
      exact ((Served.replaces_or_merges_iff _ _).mp hwrites).1

end Remembered

/-- A session carries what is remembered on, request by request. -/
theorem remembered_session (settings : Setup) (clock : Nat → Nat) (visits : List Visit)
    {s : Clocked} (h : Remembered db history (s.state.databases.get? db))
    (htokens : ∀ v ∈ visits, ∃ bytes, v.etag = versionToken bytes) :
    let (responses, after) := session settings clock visits s
    Remembered db (history ++ servedTo visits responses) (after.state.databases.get? db) := by
  -- Each visit is one more step of the history, so what was served before it has to vary.
  induction visits generalizing history s with
  | nil =>
    change Remembered db (history ++ []) _
    rwa [List.append_nil]
  | cons v rest ih =>
    have hrest := ih (h.serve settings clock (htokens v List.mem_cons_self))
      fun w hw => htokens w (List.mem_cons_of_mem _ hw)
    dsimp only at hrest ⊢
    rw [List.append_assoc] at hrest
    exact hrest

/-- From the start a session remembers what it has served. -/
theorem remembered_sessionFromStart (settings : Setup) (clock : Nat → Nat)
    (visits : List Visit) (db : String)
    (htokens : ∀ v ∈ visits, ∃ bytes, v.etag = versionToken bytes) :
    let (responses, after) := sessionFromStart settings clock visits
    Remembered db (servedTo visits responses) (after.state.databases.get? db) := by
  have hstart : Remembered db [] ((State.ofSettings settings).databases.get? db) :=
    .never fun _ hm => nomatch hm
  exact remembered_session settings clock visits (s := ⟨.ofSettings settings, 0⟩) hstart htokens

/-- The response to a read, by the properties that it finds. -/
def readResponse (x : Http.Exchange) (path : String) : Option Document → Http.Response
  | none => (x.conclude .notFound "db does not exist").response
  | some props => (Flow.showProps x path props).response

theorem exists_present (p : Passage) :
    ∃ result, Flow.present Stage.stop p = .done result ∧
      responseOf result = readResponse p.exchange p.context.path p.context.props := by
  unfold Flow.present
  cases p.context.props with
  | none => exact ⟨_, rfl, rfl⟩
  | some props => exact ⟨_, rfl, rfl⟩

/-- A lookup finds what is stored, in the cache or past it, and leaves it as it is. -/
theorem run_lookup (next : Stage) (p : Passage) (v : Visit) (clock : Nat → Nat) (s : Clocked)
    (hcoherent : s.state.Coherent) (hprops : p.context.props = none)
    (hnamed : p.context.db = "" → s.state.databases.get? p.context.db = none) :
    ∃ s' : Clocked, s'.state.databases = s.state.databases ∧
      (Flow.lookup next p).run (v.answer clock) s =
        (next { p with context := { p.context with
          props := s.state.databases.get? p.context.db } }).run (v.answer clock) s' := by
  unfold Flow.lookup
  split
  · -- Without a name nothing is looked up, but then nothing is stored either.
    rename_i hempty
    refine ⟨s, rfl, ?_⟩
    rw [hnamed (String.isEmpty_iff.mp hempty), ← hprops]
  · obtain ⟨hread, hsame, _⟩ := run_currentProps v clock p.context.db s hcoherent
    refine ⟨((Flow.currentProps p.context.db).run (v.answer clock) s).2, hsame, ?_⟩
    rw [Flow.Program.run_bind, hread]

theorem intake_of_get (reading : Flow.BodyReading) (next : Stage) {p : Passage}
    (hverb : p.context.verb = .get) : Flow.intake reading next p = next p := by
  unfold Flow.intake
  rw [hverb]

theorem dispatch_of_get {p : Passage} (hverb : p.context.verb = .get)
    (hresource : p.context.resource = .db) :
    Flow.dispatch Flow.Task.stage p = Flow.present Stage.stop p := by
  unfold Flow.dispatch
  rw [hverb, hresource]
  rfl

/-- A read that has been admitted is answered with what is stored. -/
theorem run_afterAdmission_of_get (reading : Flow.BodyReading) {p : Passage} (v : Visit)
    (clock : Nat → Nat) (s : Clocked) (hcoherent : s.state.Coherent)
    (hverb : p.context.verb = .get) (hresource : p.context.resource = .db)
    (hprops : p.context.props = none)
    (hnamed : p.context.db = "" → s.state.databases.get? p.context.db = none) :
    responseOf ((Flow.afterAdmission reading p).run (v.answer clock) s).1 =
      readResponse p.exchange p.context.path (s.state.databases.get? p.context.db) := by
  obtain ⟨s', _, hlookup⟩ := run_lookup (Flow.dispatch Flow.Task.stage) p v clock s hcoherent
    hprops hnamed
  rw [Flow.afterAdmission, intake_of_get reading _ hverb, hlookup]
  let found : Passage :=
    { p with context := { p.context with props := s.state.databases.get? p.context.db } }
  obtain ⟨result, hpresent, hresponse⟩ := exists_present found
  have hdispatch : Flow.dispatch Flow.Task.stage found = Flow.present Stage.stop found :=
    dispatch_of_get hverb hresource
  rw [hdispatch, hpresent]
  exact hresponse

/-- Unless it answers a HEAD request, a response leaves with its status, its body and all its
headers but the identifier's. -/
theorem dressed_of_not_head {r : Http.Request} (hmethod : r.head.method ≠ .head)
    (fresh : Http.HeaderValue) (response : Http.Response) :
    (dressed r fresh response).status = response.status ∧
      (∀ name, name ≠ requestIdHeader →
        (dressed r fresh response).headers.get? name = response.headers.get? name) ∧
      (dressed r fresh response).body = response.body :=
  ⟨rfl, fun _ hname => Keyed.get?_insert_of_ne _ _ hname.symm, if_neg hmethod⟩

/-- The passage of a request that has been admitted. -/
def admittedPassage (settings : Setup) (r : Http.Request) (caller : Option Access.Account) :
    Passage :=
  let begun := passageOf settings r
  ⟨begun.exchange, { begun.context with account := caller }⟩

/-- A request for a database that may be made is served as the stages after admission end. -/
theorem serve_eq_of_admitted {settings : Setup} (clock : Nat → Nat) {v : Visit} (s : Clocked)
    {caller : Option Access.Account} (hpath : hasPath v.request.head.uri = true)
    (hdb : Flow.segments v.request.head.uri.path = [db])
    (hadmitted : settings.security.rules.judge v.request.head.headers v.request.head.method
      (Flow.joinPath [db]) = .admitted caller) :
    v.serve settings clock s =
      let ended := (Flow.afterAdmission (bodyReading settings)
        (admittedPassage settings v.request caller)).run (v.answer clock) s
      (dressed v.request v.fresh (responseOf ended.1), ended.2) := by
  have hverdict : Flow.verdict settings.security.rules (passageOf settings v.request) =
      .admitted caller := by
    rw [← hadmitted, ← hdb]
    rfl
  have hchain : Flow.chain settings.security.rules (bodyReading settings)
      (passageOf settings v.request) =
        Flow.afterAdmission (bodyReading settings) (admittedPassage settings v.request caller) := by
    rw [Flow.chain, Flow.admission, hverdict]
    rfl
  rw [Visit.serve, serve, if_pos hpath, respond, hchain, Flow.Program.run_bind,
    Flow.Program.run_bind, Flow.Program.run_done, Flow.Program.run_done]

theorem serve_of_admitted {settings : Setup} (clock : Nat → Nat) {v : Visit} (s : Clocked)
    {caller : Option Access.Account} (hpath : hasPath v.request.head.uri = true)
    (hdb : Flow.segments v.request.head.uri.path = [db])
    (hadmitted : settings.security.rules.judge v.request.head.headers v.request.head.method
      (Flow.joinPath [db]) = .admitted caller) :
    (v.serve settings clock s).1 = dressed v.request v.fresh
      (responseOf ((Flow.afterAdmission (bodyReading settings)
        (admittedPassage settings v.request caller)).run (v.answer clock) s).1) :=
  congrArg Prod.fst (serve_eq_of_admitted clock s hpath hdb hadmitted)

/-- A read that may be made is answered with what is stored. -/
theorem serve_of_get {settings : Setup} (clock : Nat → Nat) {v : Visit} {s : Clocked}
    {caller : Option Access.Account} (hget : v.request.head.method = .get)
    (hpath : hasPath v.request.head.uri = true)
    (hdb : Flow.segments v.request.head.uri.path = [db])
    (hadmitted : settings.security.rules.judge v.request.head.headers v.request.head.method
      (Flow.joinPath [db]) = .admitted caller)
    (hcoherent : s.state.Coherent) (hnamed : db = "" → s.state.databases.get? db = none) :
    let response := (v.serve settings clock s).1
    let read := readResponse (.ofRequest v.request) (Flow.joinPath [db])
      (s.state.databases.get? db)
    response.status = read.status ∧ response.headers.get? "etag" = read.headers.get? "etag" ∧
      response.body = read.body := by
  let admitted := admittedPassage settings v.request caller
  have hverb : admitted.context.verb = .get := by
    change v.request.head.method.verb = .get
    rw [hget]
    rfl
  have hresource : admitted.context.resource = .db := congrArg Flow.Resource.ofSegments hdb
  have hname : admitted.context.db = db := congrArg (fun names => names.head?.getD "") hdb
  have hjoined : admitted.context.path = Flow.joinPath [db] := congrArg Flow.joinPath hdb
  have hresponse := run_afterAdmission_of_get (bodyReading settings) v clock s hcoherent hverb
    hresource rfl (by rwa [hname])
  rw [hname, hjoined] at hresponse
  have hserved : (v.serve settings clock s).1 = dressed v.request v.fresh (readResponse
      (.ofRequest v.request) (Flow.joinPath [db]) (s.state.databases.get? db)) := by
    rw [serve_of_admitted clock s hpath hdb hadmitted, hresponse]
    rfl
  have hmethod : v.request.head.method ≠ .head := by
    rw [hget]
    decide
  obtain ⟨hstatus, hheaders, hbody⟩ := dressed_of_not_head hmethod v.fresh (readResponse
    (.ofRequest v.request) (Flow.joinPath [db]) (s.state.databases.get? db))
  simp only [hserved]
  exact ⟨hstatus, hheaders "etag" (by decide), hbody⟩

/-- Properties that are shown are sent whole, in the version that they carry. -/
theorem response_showProps {x : Http.Exchange} (hopen : x.ended = false) (path : String)
    {props : Document} {value : Http.HeaderValue} {version : String}
    (hversion : props.text? etagField = some version)
    (hvalue : Http.HeaderValue.ofText? version = some value) :
    (Flow.showProps x path props).response.status = .ok ∧
      (Flow.showProps x path props).response.headers.get? "etag" = some value ∧
      (Flow.showProps x path props).response.body =
        some (Flow.bodyOf (Flow.shownDocument path props)) := by
  simp [Flow.showProps, Flow.setEtag, hversion, hvalue, Http.Exchange.setHeader,
    Http.Exchange.setStatus, Http.Exchange.send, Http.Exchange.sendAs, Http.Exchange.amend, hopen,
    Keyed.get?_insert]

/-- After any session that begins with nothing stored, under any settings and whenever copies
expire, a GET request for a database that its caller may make is answered as the responses before
tell: it is not found if and only if no PUT on the database was a success; and else it is a success
that tells the version that was told for the last write. Its body is a text that stands for what has
been sent since the last such PUT, with that version and a link to the path of the request. -/
theorem read_of_history (settings : Setup) (clock : Nat → Nat) (visits : List Visit) (v : Visit)
    {caller : Option Access.Account}
    (htokens : ∀ visit ∈ visits, ∃ bytes, visit.etag = versionToken bytes)
    (hget : v.request.head.method = .get) (hpath : hasPath v.request.head.uri = true)
    (hdb : Flow.segments v.request.head.uri.path = [db])
    (hadmitted : settings.security.rules.judge v.request.head.headers v.request.head.method
      (Flow.joinPath [db]) = .admitted caller) :
    let (responses, s) := sessionFromStart settings clock visits
    let history := servedTo visits responses
    let response := (v.serve settings clock s).1
    (response.status = .notFound ↔ ∀ e ∈ history, e.replaces db = false) ∧
    ((∃ e ∈ history, e.replaces db = true) →
      ∃ put later value version, LastPut db history put later ∧
        (lastWrite db put later).response.headers.get? "etag" = some value ∧
        value.text? = some version ∧
        response.status = .ok ∧
        response.headers.get? "etag" = some value ∧
        let links : Json.Value :=
          .object [("self", .object [("href", .string (Flow.joinPath [db]))])]
        let document := ((propsSince db put later).insert etagField (.string version)).insert
          "_links" links
        response.body = some (Flow.bodyOf document) ∧
        response.body.bind Json.readExactly? = some (.object document)) := by
  have hremembered := remembered_sessionFromStart settings clock visits db htokens
  have hpresentable := presentable_sessionFromStart settings clock visits
  generalize sessionFromStart settings clock visits = outcome at hremembered hpresentable ⊢
  obtain ⟨responses, s⟩ := outcome
  have hlegible := hpresentable.legible db
  obtain ⟨hstatus, hetag, hbody⟩ := serve_of_get clock hget hpath hdb hadmitted
    hpresentable.coherent hremembered.eq_none_of_nameless
  dsimp only at hremembered hlegible hstatus hetag hbody ⊢
  rw [hstatus, hetag, hbody]
  have hunwritten := hremembered.eq_none_iff
  generalize s.state.databases.get? db = stored at hremembered hlegible hunwritten ⊢
  cases hremembered with
  | never unwritten =>
    refine ⟨iff_of_true (Http.Exchange.status_conclude rfl _ _) unwritten, ?_⟩
    rintro ⟨e, hm, he⟩
    rw [unwritten e hm] at he
    cases he
  | @since put later version named last token told =>
    obtain ⟨bytes, rfl⟩ := token
    obtain ⟨value, hvalue, htext⟩ := Http.exists_value_of_text (isTextChar_versionToken bytes)
    obtain ⟨hok, hversion, hshown⟩ := response_showProps (x := .ofRequest v.request) rfl
      (Flow.joinPath [db]) (Store.text?_insert_self (propsSince db put later) etagField _) hvalue
    rw [readResponse, hok, hversion, hshown]
    refine ⟨iff_of_false (by decide) fun hnever => ?_, fun _ => ?_⟩
    · cases hunwritten.mpr hnever
    · have hreads := Flow.readExactly?_bodyOf
        (Flow.legible_shownDocument (Flow.joinPath [db]) (hlegible _ rfl))
      refine ⟨put, later, value, _, last, told.trans hvalue, htext, rfl, rfl, rfl, ?_⟩
      rw [Option.bind_some]
      exact hreads

/-- A request for one database that brings a text as JSON. -/
def shopRequest (method : Http.Method) (text : String) : Http.Request :=
  .ofJson method "/shop" (.ofBytes (Text.Utf8.encode text))

/-- A visitor who stores a document, and one who changes it. -/
def shopVisits : List Visit :=
  [⟨shopRequest .put "\x7b\"a\": 1, \"b\": 1, \"_c\": 1\x7d", firstVersion,
      versionToken (List.replicate 16 0), .ok ()⟩,
    ⟨shopRequest .patch "\x7b\"b\": 2\x7d", firstVersion,
      versionToken (List.replicate 16 1), .ok ()⟩]

/-- A visitor who reads what is stored. -/
def shopReader : Visit := ⟨shopRequest .get "", firstVersion, "unused", .ok ()⟩

/-- A document that was stored and then changed. -/
theorem read_of_history_shop :
    let (responses, s) := sessionFromStart permissiveSettings (fun reading => reading) shopVisits
    let response := (shopReader.serve permissiveSettings (fun reading => reading) s).1
    ∃ put later version, LastPut "shop" (servedTo shopVisits responses) put later ∧
      response.status = .ok ∧
      response.body.bind Json.readExactly? =
        some (.object (((propsSince "shop" put later).insert etagField (.string version)).insert
          "_links" (.object [("self", .object [("href", .string "/shop")])]))) := by
  have htokens : ∀ visit ∈ shopVisits, ∃ bytes, visit.etag = versionToken bytes := by
    intro visit hm
    simp only [shopVisits, List.mem_cons, List.not_mem_nil, or_false] at hm
    rcases hm with rfl | rfl
    · exact ⟨_, rfl⟩
    · exact ⟨_, rfl⟩
  have hadmitted : permissiveSettings.security.rules.judge shopReader.request.head.headers
      shopReader.request.head.method (Flow.joinPath ["shop"]) = .admitted none := by
    decide +kernel
  have hread := read_of_history permissiveSettings (fun reading => reading) shopVisits shopReader
    htokens rfl (by decide) (by decide) hadmitted
  have hwritten : ∃ e ∈ servedTo shopVisits
      (sessionFromStart permissiveSettings (fun reading => reading) shopVisits).1,
      e.replaces "shop" = true := by
    decide +kernel
  have hjoined : Flow.joinPath ["shop"] = "/shop" := by decide
  generalize sessionFromStart permissiveSettings (fun reading => reading) shopVisits = outcome
    at hread hwritten ⊢
  obtain ⟨responses, s⟩ := outcome
  obtain ⟨put, later, _, version, hlast, _, _, hok, _, _, hbody⟩ := hread.2 hwritten
  rw [hjoined] at hbody
  exact ⟨put, later, version, hlast, hok, hbody⟩

end DocumentGateway.Gateway
