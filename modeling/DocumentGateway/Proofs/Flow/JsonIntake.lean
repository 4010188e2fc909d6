import DocumentGateway.Proofs.Document.Identifier
import DocumentGateway.Proofs.Flow.Intake
import DocumentGateway.Proofs.Http.Exchange
import DocumentGateway.Proofs.Json.Blank

/-!
# Which JSON bodies are taken in

A body is either accepted with some content or refused for its first fault, and never both.
`Brought` says what bytes bring, `Accepted` what is asked of a body and its content, and `Faulty`
which fault counts when something is missing. A request goes on exactly once if its body is
accepted, with the content less the keys that belong to the gateway, and is answered with the fault
otherwise.
-/

namespace DocumentGateway.Flow

/-- What the bytes of a body bring: nothing if there are none; nothing or the documents that they
spell if they are sent as JSON. -/
inductive Brought (contentTypes : List String) (text : Bytes) : Content → Prop
  | empty (h : text = []) : Brought contentTypes text .absent
  | blank (htype : hasMediaType contentTypes jsonTypes = true)
      (h : text.all Text.isSpaceByte = true) : Brought contentTypes text .absent
  | single (htype : hasMediaType contentTypes jsonTypes = true) {d : Document}
      (h : Json.spelled? text = some (.object d)) : Brought contentTypes text (.single d)
  | many (htype : hasMediaType contentTypes jsonTypes = true) {ds : List Document}
      (h : Json.spelled? text = some (.array (ds.map .object))) :
      Brought contentTypes text (.many ds)

/-- A body arrives whole and keeps to the limit. -/
structure Arrives (limit : Nat) (body : Http.Body) : Prop where
  whole : body.fails = false
  short : body.bytes.length ≤ limit

/-- A body is accepted with some content: it arrives, it brings the content, a path can carry every
identifier, and what is posted has no reserved one. -/
structure Accepted (limit : Nat) (contentTypes : List String) (verb : Http.Verb) (body : Http.Body)
    (content : Content) : Prop where
  arrives : Arrives limit body
  brought : Brought contentTypes body.bytes content
  addressed : ∀ d ∈ content.documents, d.Addressed
  unreserved : verb = .post → ∀ d ∈ content.documents, ∀ id, ¬d.NamesReserved id

/-- The first fault of a body. -/
inductive Faulty (limit : Nat) (contentTypes : List String) (verb : Http.Verb) (body : Http.Body) :
    BodyError → Prop
  | unreadable (h : body.fails = true ∨ limit < body.bytes.length) :
      Faulty limit contentTypes verb body .unreadableBody
  | untyped (harrives : Arrives limit body) (hsome : body.bytes ≠ [])
      (htype : hasMediaType contentTypes jsonTypes = false) :
      Faulty limit contentTypes verb body .unsupportedJsonContentType
  | notJson (harrives : Arrives limit body) (htype : hasMediaType contentTypes jsonTypes = true)
      (hblank : body.bytes.all Text.isSpaceByte = false)
      (hobject : ∀ fields, Json.spelled? body.bytes ≠ some (.object fields))
      (harray : ∀ items, Json.spelled? body.bytes ≠ some (.array items)) :
      Faulty limit contentTypes verb body .invalidJson
  | notAnObject (harrives : Arrives limit body)
      (htype : hasMediaType contentTypes jsonTypes = true) {items : List Json.Value}
      (harray : Json.spelled? body.bytes = some (.array items)) {item : Json.Value}
      (hitem : item ∈ items) (hobject : ∀ fields, item ≠ .object fields) :
      Faulty limit contentTypes verb body .notAnObject
  | unsupportedId (harrives : Arrives limit body) {content : Content}
      (hbrought : Brought contentTypes body.bytes content) {before after : List Document}
      {d : Document} (hdocuments : content.documents = before ++ d :: after)
      (hbefore : ∀ earlier ∈ before, earlier.Addressed) {id : Json.Value}
      (hid : d.get? idField = some id) (haddressable : ¬Identifier.Addressable id) :
      Faulty limit contentTypes verb body (.unsupportedId ⟨id.typeName⟩)
  | reservedId (hverb : verb = .post) (harrives : Arrives limit body) {content : Content}
      (hbrought : Brought contentTypes body.bytes content)
      (haddressed : ∀ d ∈ content.documents, d.Addressed) {before after : List Document}
      {d : Document} (hdocuments : content.documents = before ++ d :: after)
      (hbefore : ∀ earlier ∈ before, ∀ id, ¬earlier.NamesReserved id) {id : String}
      (hid : d.NamesReserved id) :
      Faulty limit contentTypes verb body (.reservedId id)

/-- What is handed on of some content: nothing of nothing, several documents as they are, and of one
document all but what is under keys that begin with an underscore, the identifier's apart. -/
inductive HandedOn : Content → Content → Prop
  | absent : HandedOn .absent .absent
  | single {d left : Document} (ordered : Keyed.Ordered left)
      (kept : ∀ key, left.get? key =
        if key.toList.head? = some '_' ∧ key ≠ "_id" then none else d.get? key) :
      HandedOn (.single d) (.single left)
  | many (ds : List Document) : HandedOn (.many ds) (.many ds)

section Reading

variable {limit : Nat} {contentTypes : List String} {verb : Http.Verb} {body : Http.Body}

/-- The names in a document that a body brings are in order. -/
theorem Brought.ordered {text : Bytes} {d : Document}
    (h : Brought contentTypes text (.single d)) : Keyed.Ordered d := by
  cases h with
  | single _ h => exact Json.ordered_of_read h

/-- What is handed on is the content without the keys that belong to the gateway. -/
theorem handedOn_withoutReserved {text : Bytes} {content : Content}
    (h : Brought contentTypes text content) : HandedOn content content.withoutReserved := by
  cases content with
  | absent => exact .absent
  | single d => exact .single (Keyed.Ordered.filterKeys h.ordered _) (Keyed.get?_withoutReserved d)
  | many ds => exact .many ds

theorem read?_of_arrives (h : Arrives limit body) : body.read? limit = some body.bytes :=
  Http.Body.read?_eq_some_iff.mpr ⟨h.whole, h.short, rfl⟩

theorem arrives_or_not (limit : Nat) (body : Http.Body) :
    Arrives limit body ∨ (body.fails = true ∨ limit < body.bytes.length) := by
  by_cases hfails : body.fails = true
  · exact .inr (.inl hfails)
  · by_cases hlong : limit < body.bytes.length
    · exact .inr (.inr hlong)
    · exact .inl ⟨Bool.eq_false_iff.mpr hfails, Nat.not_lt.mp hlong⟩

theorem read?_of_not_arrives (h : body.fails = true ∨ limit < body.bytes.length) :
    body.read? limit = none := Http.Body.read?_eq_none_iff.mpr h

/-- Documents only are taken for documents. -/
theorem objects?_eq_some_iff {items : List Json.Value} {ds : List Document} :
    objects? items = some ds ↔ items = ds.map .object := by
  induction items generalizing ds with
  | nil => cases ds <;> simp [objects?]
  | cons item rest ih =>
    cases item with
    | object fields =>
      cases ds with
      | nil => simp [objects?, Content.object?, Option.bind_eq_some_iff]
      | cons d ds =>
        simp only [objects?, Content.object?, Option.bind_eq_bind, Option.bind_some,
          Option.pure_def, Option.bind_eq_some_iff, Option.some.injEq, List.cons.injEq,
          List.map_cons, Json.Value.object.injEq, ← ih]
        constructor
        · rintro ⟨others, hothers, rfl, rfl⟩
          exact ⟨rfl, hothers⟩
        · rintro ⟨rfl, hothers⟩
          exact ⟨ds, hothers, rfl, rfl⟩
    | null | bool | number | string | array => cases ds <;> simp [objects?, Content.object?]

theorem objects?_eq_none_iff {items : List Json.Value} :
    objects? items = none ↔ ∃ item ∈ items, ∀ fields, item ≠ .object fields := by
  induction items with
  | nil => simp [objects?]
  | cons item rest ih =>
    cases item with
    | object fields =>
      rw [Option.eq_none_iff_forall_ne_some] at ih
      simp [objects?, Content.object?, ih]
    | null | bool | number | string | array => simp [objects?, Content.object?]

/-- What is sent as JSON is read. -/
theorem jsonContent_of_typed (h : Arrives limit body)
    (htype : hasMediaType contentTypes jsonTypes = true)
    (hblank : body.bytes.all Text.isSpaceByte = false) :
    jsonContent limit contentTypes body = contentOfJson body.bytes := by
  rw [jsonContent, read?_of_arrives h]
  cases hbytes : body.bytes with
  | nil =>
    rw [hbytes] at hblank
    cases hblank
  | cons b rest =>
    rw [hbytes] at hblank
    simp [htype, hblank]

theorem jsonContent_of_untyped (h : Arrives limit body) (hsome : body.bytes ≠ [])
    (htype : hasMediaType contentTypes jsonTypes = false) :
    jsonContent limit contentTypes body = .error .unsupportedJsonContentType := by
  rw [jsonContent, read?_of_arrives h]
  cases hbytes : body.bytes with
  | nil => exact absurd hbytes hsome
  | cons b rest => simp [htype]

theorem contentOfJson_eq (text : Bytes) :
    contentOfJson text =
      match Json.spelled? text with
      | some (.object fields) => .ok (.single fields)
      | some (.array items) =>
        match objects? items with
        | some documents => .ok (.many documents)
        | none => .error .notAnObject
      | _ => .error .invalidJson := rfl

theorem contentOfJson_of_not_json {text : Bytes}
    (hobject : ∀ fields, Json.spelled? text ≠ some (.object fields))
    (harray : ∀ items, Json.spelled? text ≠ some (.array items)) :
    contentOfJson text = .error .invalidJson := by
  rw [contentOfJson_eq]
  split
  · rename_i fields h
    exact absurd h (hobject fields)
  · rename_i items h
    exact absurd h (harray items)
  · rfl

theorem contentOfJson_of_not_objects {text : Bytes} {items : List Json.Value} {item : Json.Value}
    (harray : Json.spelled? text = some (.array items)) (hitem : item ∈ items)
    (hobject : ∀ fields, item ≠ .object fields) : contentOfJson text = .error .notAnObject := by
  have hnone : objects? items = none := objects?_eq_none_iff.mpr ⟨item, hitem, hobject⟩
  simp only [contentOfJson_eq, harray, hnone]

/-- Bytes that spell a value are not blank. -/
theorem not_blank_of_spelled {text : Bytes} {value : Json.Value}
    (h : Json.spelled? text = some value) : text.all Text.isSpaceByte = false := by
  refine Bool.eq_false_iff.mpr fun hblank => ?_
  rw [Json.spelled?_of_blank hblank] at h
  cases h

theorem jsonContent_of_brought (harrives : Arrives limit body) {content : Content}
    (h : Brought contentTypes body.bytes content) :
    jsonContent limit contentTypes body = .ok content := by
  cases h with
  | empty h => rw [jsonContent, read?_of_arrives harrives, h]
  | blank htype h =>
    rw [jsonContent, read?_of_arrives harrives]
    cases hbytes : body.bytes with
    | nil => rfl
    | cons b rest =>
      rw [hbytes] at h
      simp [htype, h]
  | single htype h =>
    rw [jsonContent_of_typed harrives htype (not_blank_of_spelled h), contentOfJson_eq, h]
  | @many htype ds h =>
    have hobjects : objects? (ds.map .object) = some ds := objects?_eq_some_iff.mpr rfl
    rw [jsonContent_of_typed harrives htype (not_blank_of_spelled h), contentOfJson_eq, h]
    simp only [hobjects]

/-- What arrives brings something, or is refused. -/
theorem brought_or_faulty (verb : Http.Verb) (contentTypes : List String)
    (harrives : Arrives limit body) :
    (∃ content, Brought contentTypes body.bytes content) ∨
      ∃ e, Faulty limit contentTypes verb body e := by
  by_cases hempty : body.bytes = []
  · exact .inl ⟨_, .empty hempty⟩
  · cases htype : hasMediaType contentTypes jsonTypes with
    | false => exact .inr ⟨_, .untyped harrives hempty htype⟩
    | true =>
      cases hblank : body.bytes.all Text.isSpaceByte with
      | true => exact .inl ⟨_, .blank htype hblank⟩
      | false =>
        rcases hspelled : Json.spelled? body.bytes with _ | value
        · exact .inr ⟨_, .notJson harrives htype hblank (by simp [hspelled]) (by simp [hspelled])⟩
        · cases value with
          | object fields => exact .inl ⟨_, .single htype hspelled⟩
          | array items =>
            cases hitems : objects? items with
            | none =>
              obtain ⟨item, hitem, hobject⟩ := objects?_eq_none_iff.mp hitems
              exact .inr ⟨_, .notAnObject harrives htype hspelled hitem hobject⟩
            | some ds =>
              rw [objects?_eq_some_iff.mp hitems] at hspelled
              exact .inl ⟨_, .many htype hspelled⟩
          | null | bool | number | string =>
            exact .inr ⟨_, .notJson harrives htype hblank (by simp [hspelled]) (by simp [hspelled])⟩

end Reading

section Checking

theorem checkIds_of_addressed {ds : List Document} (h : ∀ d ∈ ds, d.Addressed) :
    checkIds ds = .ok () := by
  induction ds with
  | nil => rfl
  | cons d rest ih =>
    rw [checkIds, Keyed.checkId_of_addressed (h d List.mem_cons_self)]
    exact ih fun other ho => h other (List.mem_cons_of_mem _ ho)

/-- The first identifier that no path can carry counts. -/
theorem checkIds_of_not_addressable {before after : List Document} {d : Document}
    (hbefore : ∀ earlier ∈ before, earlier.Addressed) {id : Json.Value}
    (hid : d.get? idField = some id) (h : ¬Identifier.Addressable id) :
    checkIds (before ++ d :: after) = .error (.unsupportedId ⟨id.typeName⟩) := by
  induction before with
  | nil => rw [List.nil_append, checkIds, Keyed.checkId_of_not_addressable hid h]
  | cons first rest ih =>
    rw [List.cons_append, checkIds, Keyed.checkId_of_addressed (hbefore first List.mem_cons_self)]
    exact ih fun earlier he => hbefore earlier (List.mem_cons_of_mem _ he)

/-- Some documents are addressed, or there is a first one that is not. -/
theorem addressed_or_first (ds : List Document) :
    (∀ d ∈ ds, d.Addressed) ∨ ∃ before d after id, ds = before ++ d :: after ∧
      (∀ earlier ∈ before, earlier.Addressed) ∧ d.get? idField = some id ∧
      ¬Identifier.Addressable id := by
  induction ds with
  | nil => exact .inl fun _ h => nomatch h
  | cons first rest ih =>
    by_cases hfirst : first.Addressed
    · rcases ih with hall | ⟨before, d, after, id, rfl, hbefore, hid, hbad⟩
      · exact .inl (List.forall_mem_cons.mpr ⟨hfirst, hall⟩)
      · refine .inr ⟨first :: before, d, after, id, rfl, ?_, hid, hbad⟩
        exact List.forall_mem_cons.mpr ⟨hfirst, hbefore⟩
    · simp only [Keyed.Addressed, Classical.not_forall] at hfirst
      obtain ⟨id, hid, hbad⟩ := hfirst
      exact .inr ⟨[], first, rest, id, rfl, fun _ h => (nomatch h), hid, hbad⟩

/-- The context of content that was taken in. -/
def settled (content : Content) (c : Context) : Context :=
  { c with warnings := c.warnings ++ content.reservedKeyWarnings }

variable {content : Content} {c : Context}

theorem settle_of_addressed (haddressed : ∀ d ∈ content.documents, d.Addressed)
    (h : c.verb = .post → content.reservedId? = none) :
    settle content c = (.ok content.withoutReserved, settled content c) := by
  simp only [settle, checkIds_of_addressed haddressed, Content.reservedId?_withoutReserved]
  split
  · rename_i id hverb hid
    rw [h hverb] at hid
    cases hid
  · rfl

theorem settle_of_not_addressable {before after : List Document} {d : Document}
    (hdocuments : content.documents = before ++ d :: after)
    (hbefore : ∀ earlier ∈ before, earlier.Addressed) {id : Json.Value}
    (hid : d.get? idField = some id) (h : ¬Identifier.Addressable id) :
    settle content c = (.error (.unsupportedId ⟨id.typeName⟩), c) := by
  simp only [settle, hdocuments, checkIds_of_not_addressable hbefore hid h]

theorem settle_of_reserved (haddressed : ∀ d ∈ content.documents, d.Addressed)
    (hverb : c.verb = .post) {id : String} (hid : content.reservedId? = some id) :
    settle content c = (.error (.reservedId id), settled content c) := by
  simp only [settle, checkIds_of_addressed haddressed, Content.reservedId?_withoutReserved, hid]
  split
  · rename_i hsome
    cases hsome
    rfl
  · rename_i hother
    exact absurd rfl (hother id hverb)

end Checking

section Judging

variable {reading : BodyReading} {p : Passage} {body : Http.Body}

/-- What is not accepted with any content has a fault. -/
theorem accepted_or_faulty (limit : Nat) (contentTypes : List String) (verb : Http.Verb)
    (body : Http.Body) :
    (∃ content, Accepted limit contentTypes verb body content) ∨
      ∃ e, Faulty limit contentTypes verb body e := by
  rcases arrives_or_not limit body with harrives | hnot
  · rcases brought_or_faulty verb contentTypes harrives with ⟨content, hbrought⟩ | hfault
    · rcases addressed_or_first content.documents with haddressed | ⟨_, _, _, _, hfirst⟩
      · by_cases hverb : verb = .post
        · cases hid : content.reservedId? with
          | none =>
            exact .inl ⟨content, harrives, hbrought, haddressed,
              fun _ => Content.reservedId?_eq_none_iff.mp hid⟩
          | some id =>
            obtain ⟨_, _, _, hdocuments, hnames, hbefore⟩ := Content.reservedId?_eq_some_iff.mp hid
            exact .inr ⟨_, .reservedId hverb harrives hbrought haddressed hdocuments hbefore hnames⟩
        · exact .inl ⟨content, harrives, hbrought, haddressed, fun h => absurd h hverb⟩
      · obtain ⟨hdocuments, hbefore, hid, hbad⟩ := hfirst
        exact .inr ⟨_, .unsupportedId harrives hbrought hdocuments hbefore hid hbad⟩
    · exact .inr hfault
  · exact .inr ⟨_, .unreadable hnot⟩

/-- Bodies are refused as too large, as of the wrong type or as not acceptable. -/
theorem Faulty.status {limit : Nat} {contentTypes : List String} {verb : Http.Verb} {e : BodyError}
    (h : Faulty limit contentTypes verb body e) :
    e.status = .payloadTooLarge ∨ e.status = .unsupportedMediaType ∨
      e.status = .notAcceptable := by
  cases h with
  | unreadable => exact .inl rfl
  | untyped => exact .inr (.inl rfl)
  | notJson | notAnObject | unsupportedId | reservedId => exact .inr (.inr rfl)

/-- A request that brings no file is taken in by what its body holds as JSON. -/
theorem intake_of_jsonContent (reading : BodyReading) (next : Stage)
    (hbody : p.exchange.body = some body)
    (hverb : p.context.verb ≠ .get ∧ p.context.verb ≠ .options ∧ p.context.verb ≠ .delete)
    (hfile : bringsFile p.context = false) :
    intake reading next p =
      match jsonContent reading.body p.exchange.contentTypes body with
      | .error e => proceed next ⟨p.exchange.takeBody.2, p.context⟩ (.error e)
      | .ok content =>
        proceed next ⟨p.exchange.takeBody.2, (settle content p.context).2⟩
          (settle content p.context).1 := by
  have hafter : afterReading p = p.exchange.takeBody.2 := by
    simp [afterReading, takesBody, hfile]
  have hread : readContent reading p =
      .done (jsonContent reading.body p.exchange.contentTypes body, p.context) := by
    simp [readContent, hfile, hbody]
  rw [intake_of_verb reading next hverb, hread, hafter]
  cases jsonContent reading.body p.exchange.contentTypes body with
  | error | ok => rfl

/-- What a context holds once some content has been taken in. -/
def Context.takingIn (c : Context) (content : Content) : Context :=
  { c with
    content := content.withoutReserved
    warnings := c.warnings ++ content.reservedKeyWarnings }

theorem intake_of_accepted (next : Stage) (hbody : p.exchange.body = some body)
    (hverb : p.context.verb ≠ .get ∧ p.context.verb ≠ .options ∧ p.context.verb ≠ .delete)
    (hfile : bringsFile p.context = false) {content : Content}
    (h : Accepted reading.body p.exchange.contentTypes p.context.verb body content) :
    intake reading next p = next ⟨p.exchange.takeBody.2, p.context.takingIn content⟩ := by
  have hsettle := settle_of_addressed h.addressed fun hpost =>
    Content.reservedId?_eq_none_iff.mpr (h.unreserved hpost)
  rw [intake_of_jsonContent reading next hbody hverb hfile,
    jsonContent_of_brought h.arrives h.brought]
  simp only [hsettle]
  rfl

/-- The context of a fault differs from the one before by warnings at most. -/
theorem intake_of_faulty (hbody : p.exchange.body = some body)
    (hverb : p.context.verb ≠ .get ∧ p.context.verb ≠ .options ∧ p.context.verb ≠ .delete)
    (hfile : bringsFile p.context = false) {e : BodyError}
    (h : Faulty reading.body p.exchange.contentTypes p.context.verb body e) :
    ∃ warnings, ∀ next, intake reading next p =
      Passage.refuse ⟨p.exchange.takeBody.2, { p.context with warnings := warnings }⟩
        e.status e.message := by
  have hjson := fun next => intake_of_jsonContent reading next hbody hverb hfile
  cases h with
  | unreadable h =>
    refine ⟨p.context.warnings, fun next => ?_⟩
    rw [hjson, jsonContent, read?_of_not_arrives h]
    rfl
  | untyped harrives hsome htype =>
    refine ⟨p.context.warnings, fun next => ?_⟩
    rw [hjson, jsonContent_of_untyped harrives hsome htype]
    rfl
  | notJson harrives htype hblank hobject harray =>
    refine ⟨p.context.warnings, fun next => ?_⟩
    rw [hjson, jsonContent_of_typed harrives htype hblank, contentOfJson_of_not_json hobject harray]
    rfl
  | notAnObject harrives htype harray hitem hobject =>
    refine ⟨p.context.warnings, fun next => ?_⟩
    rw [hjson, jsonContent_of_typed harrives htype (not_blank_of_spelled harray),
      contentOfJson_of_not_objects harray hitem hobject]
    rfl
  | unsupportedId harrives hbrought hdocuments hbefore hid haddressable =>
    refine ⟨p.context.warnings, fun next => ?_⟩
    rw [hjson, jsonContent_of_brought harrives hbrought]
    simp only [settle_of_not_addressable hdocuments hbefore hid haddressable]
    rfl
  | @reservedId hpost harrives content hbrought haddressed before after d hdocuments hbefore
      id hid =>
    refine ⟨p.context.warnings ++ content.reservedKeyWarnings, fun next => ?_⟩
    have hsome := Content.reservedId?_eq_some_iff.mpr ⟨_, _, _, hdocuments, hid, hbefore⟩
    rw [hjson, jsonContent_of_brought harrives hbrought]
    simp only [settle_of_reserved haddressed hpost hsome]
    rfl

end Judging

/-- A request that brings no file is handed on exactly once if its body is accepted, whatever its
chunks are, and not at all otherwise. It is handed on with nothing if nothing was sent, with several
documents as they are and in order, and with one document less its keys that begin with an
underscore, the identifier's apart; and with a warning for each of these keys. Otherwise the first
fault of the body is answered with its status and message, and the exchange ends with no content
taken in. -/
theorem intake_iff_accepted (reading : BodyReading) (p : Passage) (body : Http.Body)
    (hbody : p.exchange.body = some body) (hopen : p.exchange.ended = false)
    (hverb : p.context.verb ≠ .get ∧ p.context.verb ≠ .options ∧ p.context.verb ≠ .delete)
    (hfile : bringsFile p.context = false) :
    let accepted := Accepted reading.body p.exchange.contentTypes p.context.verb body
    let faulty := Faulty reading.body p.exchange.contentTypes p.context.verb body
    ((∃ seen, intake reading (Stage.outside .next) p = Stage.outside .next seen) ↔
        ∃ content, accepted content) ∧
      ((∃ e, faulty e) ↔ ¬∃ content, accepted content) ∧
      (∀ content, accepted content → ∃ left, HandedOn content left ∧
        ∀ next, intake reading next p = next ⟨p.exchange.takeBody.2, { p.context with
          content := left
          warnings := p.context.warnings ++ content.reservedKeyWarnings }⟩) ∧
      ∀ e, faulty e → ∃ refused : Passage,
        (∀ next, intake reading next p = .done ⟨.ok (), refused⟩) ∧
        refused.exchange.ended = true ∧
        refused.context.content = p.context.content ∧
        refused.exchange.response.status = e.status ∧
        (e.status = .payloadTooLarge ∨ e.status = .unsupportedMediaType ∨
          e.status = .notAcceptable) ∧
        refused.exchange.response.body = some (Text.Utf8.encode e.message) := by
  intro accepted faulty
  have honward : ∀ content, accepted content → ∀ next, intake reading next p =
      next ⟨p.exchange.takeBody.2, p.context.takingIn content⟩ :=
    fun content h next => intake_of_accepted next hbody hverb hfile h
  have hrefused : ∀ e, faulty e → ∃ warnings, ∀ next, intake reading next p =
      Passage.refuse ⟨p.exchange.takeBody.2, { p.context with warnings := warnings }⟩
        e.status e.message := fun e h => intake_of_faulty hbody hverb hfile h
  have hnotBoth : (∃ e, faulty e) → ∀ seen,
      intake reading (Stage.outside .next) p ≠ Stage.outside .next seen := by
    rintro ⟨e, he⟩ seen hseen
    obtain ⟨_, hrefuse⟩ := hrefused e he
    rw [hrefuse] at hseen
    cases hseen
  refine ⟨⟨fun ⟨seen, hseen⟩ => ?_, fun ⟨content, h⟩ => ⟨_, honward content h _⟩⟩,
    ⟨fun he ⟨content, h⟩ => hnotBoth he _ (honward content h _), fun hnone => ?_⟩,
    fun content h => ⟨content.withoutReserved, handedOn_withoutReserved h.brought,
      honward content h⟩, fun e he => ?_⟩
  · rcases accepted_or_faulty reading.body p.exchange.contentTypes p.context.verb body with h | h
    · exact h
    · exact absurd hseen (hnotBoth h seen)
  · rcases accepted_or_faulty reading.body p.exchange.contentTypes p.context.verb body with h | h
    · exact absurd h hnone
    · exact h
  · obtain ⟨warnings, hrefuse⟩ := hrefused e he
    have htaken : p.exchange.takeBody.2.ended = false := hopen
    exact ⟨_, hrefuse, rfl, rfl, Http.Exchange.status_conclude htaken _ _, he.status,
      Http.Exchange.sent_conclude htaken _ _⟩

/-- A body is posted to a collection as JSON. -/
def postedItems (body : Http.Body) : Passage :=
  let x := Http.Exchange.ofRequest (.ofJson { token := "POST" } "/shop/items" body)
  ⟨x, .ofExchange x .optional⟩

/-- Two documents whose text is cut within a word. -/
def cutItems : Http.Body :=
  ⟨[Text.Utf8.encode "[\x7b\"_id\": nu", Text.Utf8.encode "ll, \"_a\": 1\x7d, \x7b\x7d]"], false⟩

/-- One document with an identifier and a key that belongs to the gateway. -/
def markedItem : Http.Body :=
  .ofBytes (Text.Utf8.encode "\x7b\"_id\": 1, \"_a\": 2, \"a\": 3\x7d")

/-- Two documents of which the second one has a reserved word for an identifier. -/
def reservedItems : Http.Body :=
  .ofBytes (Text.Utf8.encode "[\x7b\"_id\": 1\x7d, \x7b\"_id\": \"_NULL\"\x7d]")

/-- Two documents are handed on as they are, one document is handed on without the key that belongs
to the gateway, and two others are refused for a reserved word. -/
theorem intake_iff_accepted_items :
    (∃ context, context.content = .many [[("_a", .natural 1), ("_id", .null)], []] ∧
      ∀ next, intake (plainReading 64) next (postedItems cutItems) =
        next ⟨(postedItems cutItems).exchange.takeBody.2, context⟩) ∧
      (∃ context left, context.content = .single left ∧ left.get? "_id" = some (.natural 1) ∧
        left.get? "_a" = none ∧ left.get? "a" = some (.natural 3) ∧
        ∀ next, intake (plainReading 64) next (postedItems markedItem) =
          next ⟨(postedItems markedItem).exchange.takeBody.2, context⟩) ∧
      ∃ refused : Passage,
        (∀ next,
          intake (plainReading 64) next (postedItems reservedItems) = .done ⟨.ok (), refused⟩) ∧
        refused.exchange.response.status = .notAcceptable ∧
        refused.exchange.response.body = some (Text.Utf8.encode "id is reserved: _NULL") := by
  have hverb : Http.Verb.post ≠ .get ∧ Http.Verb.post ≠ .options ∧ Http.Verb.post ≠ .delete := by
    decide
  refine ⟨?many, ?single, ?refused⟩
  case many =>
    have hcut : Accepted 64 ["application/json"] .post cutItems
        (.many [[("_a", .natural 1), ("_id", .null)], []]) := by
      refine ⟨⟨rfl, by decide⟩, .many (by decide) rfl, ?_, ?_⟩
      · intro d hd id hid
        simp only [Content.documents, List.mem_cons, List.not_mem_nil, or_false] at hd
        rcases hd with rfl | rfl
        · cases hid
          exact .null
        · cases hid
      · intro _ d hd id hid
        simp only [Content.documents, List.mem_cons, List.not_mem_nil, or_false] at hd
        rcases hd with rfl | rfl
        · cases hid.1
        · cases hid.1
    obtain ⟨-, -, honward, -⟩ := intake_iff_accepted (plainReading 64) (postedItems cutItems)
      cutItems rfl rfl hverb (by decide +kernel)
    obtain ⟨left, hleft, hnext⟩ := honward _ hcut
    cases hleft
    exact ⟨_, rfl, hnext⟩
  case single =>
    have hmarked : Accepted 64 ["application/json"] .post markedItem
        (.single [("_a", .natural 2), ("_id", .natural 1), ("a", .natural 3)]) := by
      refine ⟨⟨rfl, by decide⟩, .single (by decide) rfl, ?_, ?_⟩
      · intro d hd id hid
        obtain rfl := List.mem_singleton.mp hd
        cases hid
        exact .number _
      · intro _ d hd id hid
        obtain rfl := List.mem_singleton.mp hd
        cases hid.1
    obtain ⟨-, -, honward, -⟩ := intake_iff_accepted (plainReading 64) (postedItems markedItem)
      markedItem rfl rfl hverb (by decide +kernel)
    obtain ⟨left, hleft, hnext⟩ := honward _ hmarked
    cases hleft with
    | single _ hkept =>
      exact ⟨_, _, rfl, (hkept "_id").trans (if_neg (by decide)),
        (hkept "_a").trans (if_pos (by decide)), (hkept "a").trans (if_neg (by decide)), hnext⟩
  case refused =>
    have hreserved : Faulty 64 ["application/json"] .post reservedItems (.reservedId "_NULL") := by
      have hbrought : Brought ["application/json"] reservedItems.bytes
          (.many ([[("_id", .natural 1)]] ++ [[("_id", .string "_NULL")]])) := .many (by decide) rfl
      refine .reservedId rfl ⟨rfl, by decide⟩ hbrought ?_ rfl ?_
        ⟨rfl, "_null", by decide, by decide⟩
      · intro d hd id hid
        simp only [Content.documents, List.mem_append, List.mem_singleton] at hd
        rcases hd with rfl | rfl
        · cases hid
          exact .number _
        · cases hid
          exact .string _
      · intro d hd id hid
        obtain rfl := List.mem_singleton.mp hd
        cases hid.1
    obtain ⟨-, -, -, hrefused⟩ := intake_iff_accepted (plainReading 64) (postedItems reservedItems)
      reservedItems rfl rfl hverb (by decide +kernel)
    obtain ⟨refused, hrefuse, -, -, hstatus, -, hbody⟩ := hrefused _ hreserved
    exact ⟨refused, hrefuse, hstatus, hbody⟩

end DocumentGateway.Flow
