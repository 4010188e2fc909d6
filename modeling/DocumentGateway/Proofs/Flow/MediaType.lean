import DocumentGateway.Proofs.Flow.Upload
import DocumentGateway.Proofs.Http.Header
import DocumentGateway.Proofs.Text.Cut

/-!
# Which content types are accepted

A `Content-Type` declares a media type before its first semicolon, without regard to case or to
blanks around it. The gateway compares the value as it is sent: it is accepted if it begins with the
name of a supported type. The two agree on values that declare their type plainly and declare none
that merely begins like a supported one. Longer types are accepted as if they were supported, and
supported ones that are not sent plainly are refused.
-/

namespace DocumentGateway.Http.HeaderValue

/-- A space or a tab. -/
def isBlankChar (c : Char) : Bool := c = ' ' || c = '\t'

/-- The media type that a value declares, in lower case. -/
def declaredType (v : HeaderValue) : String :=
  Text.lower (String.ofList
    (Text.trim isBlankChar ((Text.ofCodes v.bytes).takeWhile fun c => c != ';')))

/-- Whether a character may stand in a media type. -/
def isTypeChar (c : Char) : Bool := c != ';' && !isBlankChar c

/-- A value declares its media type plainly: it is text that begins with the type in lower case, and
behind that there is nothing or, perhaps after blanks, a semicolon. -/
inductive Plain (v : HeaderValue) (type : String) : Prop where
  | intro {blanks rest : List Char}
      (text : v.text? = some (String.ofList (type.toList ++ (blanks ++ rest))))
      (inside : ∀ c ∈ type.toList, isTypeChar c = true ∧ c.toLower = c)
      (behind : ∀ c ∈ blanks, isBlankChar c = true) (params : rest = [] ∨ rest.head? = some ';') :
      Plain v type

variable {v : HeaderValue} {type name text : String}

theorem isTypeChar_iff {c : Char} : isTypeChar c = true ↔ c ≠ ';' ∧ isBlankChar c = false := by
  simp [isTypeChar]

/-- Whether a text may stand for a media type is decided character by character. -/
theorem inside_of_all (h : (type.toList.all fun c => isTypeChar c && c.toLower == c) = true) :
    ∀ c ∈ type.toList, isTypeChar c = true ∧ c.toLower = c := by
  simpa using h

/-- What a value declares plainly is what it declares. -/
theorem Plain.declaredType_eq (h : v.Plain type) : v.declaredType = type := by
  cases h with
  | @intro blanks rest htext inside behind params =>
    have hchars : Text.ofCodes v.bytes = type.toList ++ (blanks ++ rest) := by
      rw [← (text?_eq_some_iff.mp htext).2, String.toList_ofList]
    have hbefore : (Text.ofCodes v.bytes).takeWhile (fun c => c != ';') =
        type.toList ++ blanks := by
      rw [hchars, ← List.append_assoc]
      refine Text.takeWhile_append_of_stop (fun c hc => bne_iff_ne.mpr ?_) fun c hc => ?_
      · rcases List.mem_append.mp hc with hc | hc
        · exact (isTypeChar_iff.mp (inside c hc).1).1
        · rintro rfl
          exact absurd (behind ';' hc) (by decide)
      · rw [Text.EndsPiece.eq_of_head params c hc]
        rfl
    have htrimmed : Text.trim isBlankChar (type.toList ++ blanks) = type.toList :=
      Text.trim_of_kept (List.forall_mem_nil _)
        (fun c hc => (isTypeChar_iff.mp (inside c hc).1).2) behind
    have hlower : type.toList.map Char.toLower = type.toList :=
      (List.map_congr_left fun c hc => (inside c hc).2).trans (List.map_id' _)
    rw [declaredType, hbefore, htrimmed, Text.lower, String.toList_ofList, hlower,
      String.ofList_toList]

/-- A name that may be that of a media type is at the beginning of a value if it is at the beginning
of the type that the value declares plainly. -/
theorem Plain.prefix_iff (h : v.Plain type) (htext : v.text? = some text)
    (hname : ∀ c ∈ name.toList, isTypeChar c = true) :
    name.toList <+: text.toList ↔ name.toList <+: type.toList := by
  cases h with
  | @intro blanks rest hplain inside behind params =>
    have hchars : text.toList = type.toList ++ (blanks ++ rest) := by
      rw [hplain] at htext
      cases htext
      exact String.toList_ofList
    rw [hchars]
    refine Text.prefix_append_iff_of_stop hname fun c hc => Bool.eq_false_iff.mpr fun hinside => ?_
    obtain ⟨hsemicolon, hblank⟩ := isTypeChar_iff.mp hinside
    cases blanks with
    | nil => exact hsemicolon (Text.EndsPiece.eq_of_head params c hc)
    | cons b blanks =>
      cases hc
      rw [behind c List.mem_cons_self] at hblank
      cases hblank

end DocumentGateway.Http.HeaderValue

namespace DocumentGateway.Flow

open DocumentGateway.Http (HeaderValue)

/-- The names of the media types that a request may have. -/
def supportedTypes (c : Context) : List String :=
  if bringsFile c then [multipartType, simpleFormType] else jsonTypes

/-- A request is answered with 415, and whatever comes next does not see it. -/
def Unsupported (reading : BodyReading) (p : Passage) : Prop :=
  ∃ refused : Passage, (∀ next, intake reading next p = .done ⟨.ok (), refused⟩) ∧
    refused.exchange.ended = true ∧ refused.exchange.response.status = .unsupportedMediaType

/-- A value begins with a name. -/
def BeginsWith (v : HeaderValue) (name : String) : Prop :=
  ∃ text, v.text? = some text ∧ name.toList <+: text.toList

/-- A value declares its media type plainly, and no type that is longer than a name but begins with
it. -/
def Unmistakable (names : List String) (v : HeaderValue) : Prop :=
  ∃ type, v.Plain type ∧ ∀ name ∈ names, name.toList <+: type.toList → type = name

section

variable {reading : BodyReading} {sniff : Upload.Sniffer} {p : Passage} {x : Http.Exchange}
  {e : BodyError}

theorem hasMediaType_iff (x : Http.Exchange) (names : List String) :
    hasMediaType x.contentTypes names = true ↔
      ∃ v ∈ x.request.headers.values "content-type", ∃ name ∈ names, BeginsWith v name := by
  simp only [hasMediaType, Http.Exchange.contentTypes, List.any_eq_true, List.mem_filterMap,
    List.isPrefixOf_iff_prefix, BeginsWith]
  constructor
  · rintro ⟨text, ⟨v, hv, htext⟩, name, hname, hbegins⟩
    exact ⟨v, hv, name, hname, text, htext, hbegins⟩
  · rintro ⟨v, hv, name, hname, text, htext, hbegins⟩
    exact ⟨text, ⟨v, hv, htext⟩, name, hname, hbegins⟩

/-- No name of a supported type holds a semicolon or a blank. -/
theorem isTypeChar_of_supported (c : Context) :
    ∀ name ∈ supportedTypes c, ∀ ch ∈ name.toList, HeaderValue.isTypeChar ch = true := by
  have hall : (supportedTypes c).all (·.toList.all HeaderValue.isTypeChar) = true := by
    unfold supportedTypes
    split <;> decide
  intro name hname
  exact List.all_eq_true.mp (List.all_eq_true.mp hall name hname)

/-- A value that cannot be mistaken begins with a name if the name is what it declares. -/
theorem beginsWith_iff_declared {names : List String} {v : HeaderValue}
    (hnames : ∀ name ∈ names, ∀ ch ∈ name.toList, HeaderValue.isTypeChar ch = true)
    (h : Unmistakable names v) :
    (∃ name ∈ names, BeginsWith v name) ↔ v.declaredType ∈ names := by
  obtain ⟨type, hplain, hnone⟩ := h
  rw [hplain.declaredType_eq]
  constructor
  · rintro ⟨name, hname, text, htext, hbegins⟩
    rwa [hnone name hname ((hplain.prefix_iff htext (hnames name hname)).mp hbegins)]
  · intro hmem
    have htext : ∃ text, v.text? = some text := by
      cases hplain with
      | intro htext => exact ⟨_, htext⟩
    obtain ⟨text, htext⟩ := htext
    exact ⟨type, hmem, text, htext,
      (hplain.prefix_iff htext (hnames type hmem)).mpr (List.prefix_refl _)⟩

/-- Properties that cannot be read are not acceptable. -/
theorem status_of_parseProperties {text : Option String}
    (h : Upload.parseProperties text = .error e) : e.status = .notAcceptable := by
  unfold Upload.parseProperties at h
  split at h
  · cases h
  · split at h
    · cases h
    · cases h
      rfl

/-- What is gathered from a form is complete or not acceptable. -/
theorem status_of_complete {g : Upload.Gathered} (h : g.complete sniff = .error e) :
    e.status = .notAcceptable := by
  rcases Upload.gives_or_not g.properties with ⟨d, hgives⟩ | ⟨text, htext, hnot⟩
  · cases hfile : g.file with
    | none =>
      rw [Upload.complete_of_no_file hgives hfile] at h
      cases h
      rfl
    | some file =>
      rw [Upload.complete_of_file hgives hfile] at h
      cases h
  · rw [Upload.complete_of_not_object htext hnot] at h
    cases h
    rfl

theorem status_of_multipartForm {limit : Nat} {headers : Http.Headers} {body : Option Http.Body}
    (h : multipartForm limit headers body = .error e) : e.status = .notAcceptable := by
  unfold multipartForm at h
  split at h
  · cases h
    rfl
  · split at h
    · cases h
      rfl
    · split at h
      · cases h
        rfl
      · cases h

theorem status_of_simpleFormFault (limit : Nat) (body : Option Http.Body) :
    (simpleFormFault limit body).status = .notAcceptable := by
  unfold simpleFormFault
  split
  · rfl
  · split
    · rename_i hparse
      exact status_of_parseProperties hparse
    · rfl

theorem status_of_storeUpload {form : Http.Multipart.Form}
    (h : storeUpload sniff form = .done (.error e)) : e.status = .notAcceptable := by
  rw [storeUpload_eq, roomFor] at h
  split at h
  · cases h
  · cases hending : form.ending with
    | closed =>
      rw [Upload.Gathered.read, hending] at h
      exact status_of_complete (Program.done.inj h)
    | broken opened =>
      rw [Upload.Gathered.read, hending] at h
      cases h
      rfl

/-- A form of a supported type may be at fault, but not for its type. -/
theorem status_of_readUpload
    (htype : hasMediaType x.contentTypes [multipartType, simpleFormType] = true)
    (h : readUpload reading x = .done (.error e)) : e.status = .notAcceptable := by
  unfold readUpload at h
  split at h
  · split at h
    · rename_i hform
      cases h
      exact status_of_multipartForm hform
    · exact status_of_storeUpload h
  · rename_i hmultipart
    split at h
    · cases h
      exact status_of_simpleFormFault _ _
    · rename_i hsimple
      rw [hasMediaType_pair] at htype
      simp [hmultipart, hsimple] at htype

theorem status_of_checkIds {ds : List Document} (h : checkIds ds = .error e) :
    e.status = .notAcceptable := by
  induction ds with
  | nil => cases h
  | cons d rest ih =>
    rw [checkIds] at h
    split at h
    · cases h
      rfl
    · exact ih h

/-- Content that is checked may be at fault, but not for its type. -/
theorem status_of_settle {content : Content} {c : Context} (h : (settle content c).1 = .error e) :
    e.status = .notAcceptable := by
  simp only [settle] at h
  split at h
  · rename_i hcheck
    cases h
    exact status_of_checkIds hcheck
  · split at h
    · cases h
      rfl
    · cases h

theorem eq_done_of_bind {α β : Type} {program : Program α} {f : α → Program β} {b : β}
    (h : program.bind f = .done b) : ∃ a, program = .done a ∧ f a = .done b := by
  cases program with
  | done a => exact ⟨a, rfl, h⟩
  | call => cases h

/-- If nothing comes next, what has been read was at fault, and the fault has been answered. -/
theorem status_of_proceed (hopen : p.exchange.ended = false) {read : Except BodyError Content}
    {refused : Passage} (h : proceed (Stage.outside .next) p read = .done ⟨.ok (), refused⟩) :
    ∃ e, read = .error e ∧ refused.exchange.response.status = e.status := by
  cases read with
  | ok content => cases h
  | error e =>
    refine ⟨e, rfl, ?_⟩
    cases e with
    | storage reason => cases h
    | _ =>
      cases h
      exact Http.Exchange.status_conclude hopen _ _

theorem unsupported_of_refuse (q : Passage) (message : String) (hopen : q.exchange.ended = false)
    (h : ∀ next, intake reading next p = q.refuse .unsupportedMediaType message) :
    Unsupported reading p :=
  ⟨{ q with exchange := q.exchange.conclude .unsupportedMediaType message }, h, rfl,
    Http.Exchange.status_conclude hopen _ _⟩

/-- An upload is refused for its type exactly if no value begins with the name of a form's. -/
theorem unsupported_iff_of_file (hopen : p.exchange.ended = false)
    (hfile : bringsFile p.context = true) :
    Unsupported reading p ↔
      hasMediaType p.exchange.contentTypes [multipartType, simpleFormType] = false := by
  have hverb := verb_of_bringsFile hfile
  constructor
  · rintro ⟨refused, hrefused, -, hstatus⟩
    refine Bool.eq_false_iff.mpr fun htype => ?_
    -- With nothing to come next, the request must have been refused for another fault.
    have hdone := hrefused (Stage.outside .next)
    rw [intake_of_verb reading _ hverb, readContent, if_pos hfile] at hdone
    obtain ⟨⟨read, context⟩, hread, hproceed⟩ := eq_done_of_bind hdone
    obtain ⟨uploaded, hupload, hcontent⟩ := eq_done_of_bind hread
    have hleft : (afterReading p).ended = false := by
      unfold afterReading
      split <;> exact hopen
    cases uploaded with
    | error e =>
      cases hcontent
      obtain ⟨_, hfault, hrefusal⟩ := status_of_proceed hleft hproceed
      cases hfault
      rw [hrefusal, status_of_readUpload htype hupload] at hstatus
      cases hstatus
    | ok stored =>
      cases hcontent
      obtain ⟨e, hfault, hrefusal⟩ := status_of_proceed hleft hproceed
      rw [hrefusal, status_of_settle hfault] at hstatus
      cases hstatus
  · intro htype
    obtain ⟨hmultipart, hsimple⟩ := Bool.or_eq_false_iff.mp
      ((hasMediaType_pair _ _ _).symm.trans htype)
    have hread : readContent reading p = .done (.error .unsupportedFormContentType, p.context) := by
      simp [readContent, readUpload, hfile, hmultipart, hsimple]
    have hafter : afterReading p = p.exchange := by
      simp [afterReading, takesBody, hfile, htype]
    refine unsupported_of_refuse p BodyError.unsupportedFormContentType.message hopen fun next => ?_
    rw [intake_of_verb reading next hverb, hread, hafter]
    rfl

/-- A request for a document is refused for its type exactly if no value begins with the name of a
JSON type. -/
theorem unsupported_iff_of_json {body : Http.Body} (hopen : p.exchange.ended = false)
    (hbody : p.exchange.body = some body) (harrives : Arrives reading.body body)
    (hsome : body.bytes ≠ [])
    (hverb : p.context.verb ≠ .get ∧ p.context.verb ≠ .options ∧ p.context.verb ≠ .delete)
    (hfile : bringsFile p.context = false) :
    Unsupported reading p ↔ hasMediaType p.exchange.contentTypes jsonTypes = false := by
  constructor
  · rintro ⟨refused, hrefused, -, hstatus⟩
    refine Bool.eq_false_iff.mpr fun htype => ?_
    rcases accepted_or_faulty reading.body p.exchange.contentTypes p.context.verb body with
      ⟨content, haccepted⟩ | ⟨e, hfaulty⟩
    · have hdone := hrefused (Stage.outside .next)
      rw [intake_of_accepted _ hbody hverb hfile haccepted] at hdone
      cases hdone
    · obtain ⟨warnings, hrefuse⟩ := intake_of_faulty hbody hverb hfile hfaulty
      have hdone := (hrefuse Stage.stop).symm.trans (hrefused Stage.stop)
      cases hdone
      have hopened : p.exchange.takeBody.2.ended = false := hopen
      have hfault : e.status = .unsupportedMediaType :=
        (Http.Exchange.status_conclude hopened _ _).symm.trans hstatus
      cases hfaulty with
      | untyped _ _ hnone =>
        rw [htype] at hnone
        cases hnone
      | unreadable | notJson | notAnObject | unsupportedId | reservedId => cases hfault
  · intro htype
    obtain ⟨warnings, hrefuse⟩ :=
      intake_of_faulty hbody hverb hfile (.untyped harrives hsome htype)
    exact unsupported_of_refuse ⟨p.exchange.takeBody.2, { p.context with warnings := warnings }⟩
      BodyError.unsupportedJsonContentType.message hopen hrefuse

end

/-- A request with content is answered with 415, and not handed on, exactly if no `Content-Type`
value begins with the name of a media type that it may have. Where all values declare their types
unmistakably, these are the requests of which no value declares such a type. -/
theorem unsupported_iff (reading : BodyReading) (p : Passage) (body : Http.Body)
    (hopen : p.exchange.ended = false) (hbody : p.exchange.body = some body)
    (harrives : Arrives reading.body body) (hsome : body.bytes ≠ [])
    (hverb : p.context.verb ≠ .get ∧ p.context.verb ≠ .options ∧ p.context.verb ≠ .delete) :
    let values := p.exchange.request.headers.values "content-type"
    let names := supportedTypes p.context
    (Unsupported reading p ↔ ¬∃ v ∈ values, ∃ name ∈ names, BeginsWith v name) ∧
      ((∀ v ∈ values, Unmistakable names v) →
        (Unsupported reading p ↔ ¬∃ v ∈ values, v.declaredType ∈ names)) := by
  intro values names
  have hexact : Unsupported reading p ↔ ¬∃ v ∈ values, ∃ name ∈ names, BeginsWith v name := by
    rw [← hasMediaType_iff, Bool.not_eq_true]
    cases hfile : bringsFile p.context with
    | true =>
      have hnames : names = [multipartType, simpleFormType] := if_pos hfile
      rw [hnames]
      exact unsupported_iff_of_file hopen hfile
    | false =>
      have hnames : names = jsonTypes := if_neg (Bool.eq_false_iff.mp hfile)
      rw [hnames]
      exact unsupported_iff_of_json hopen hbody harrives hsome hverb hfile
  refine ⟨hexact, fun hplain => hexact.trans (not_congr ⟨?_, ?_⟩)⟩
  · rintro ⟨v, hv, hbegins⟩
    exact ⟨v, hv, (beginsWith_iff_declared (isTypeChar_of_supported _) (hplain v hv)).mp hbegins⟩
  · rintro ⟨v, hv, hdeclared⟩
    exact ⟨v, hv, (beginsWith_iff_declared (isTypeChar_of_supported _) (hplain v hv)).mpr hdeclared⟩

/-- A document as it is sent. -/
def itemBody : Http.Body := .ofBytes (Text.Utf8.encode "\x7b\"x\": 1\x7d")

/-- A document is stored under a content type. -/
def typedItem (type : HeaderValue) : Passage :=
  let x := Http.Exchange.ofRequest ((Http.Request.ofJson .put "/shop" itemBody).labelled type)
  ⟨x, .ofExchange x .optional⟩

/-- Plain text. -/
def plainText : HeaderValue := { bytes := Text.Utf8.encode "text/plain" }

/-- JSON in a charset. -/
def jsonInUtf8 : HeaderValue := { bytes := Text.Utf8.encode "application/json ; charset=utf-8" }

/-- A patch format. -/
def jsonPatch : HeaderValue := { bytes := Text.Utf8.encode "application/json-patch+json" }

/-- JSON in another case. -/
def shoutedJson : HeaderValue := { bytes := Text.Utf8.encode "Application/JSON" }

theorem verb_typedItem (type : HeaderValue) :
    (typedItem type).context.verb ≠ .get ∧ (typedItem type).context.verb ≠ .options ∧
      (typedItem type).context.verb ≠ .delete := by
  change Http.Verb.put ≠ .get ∧ Http.Verb.put ≠ .options ∧ Http.Verb.put ≠ .delete
  decide

theorem supportedTypes_typedItem (type : HeaderValue) :
    bringsFile (typedItem type).context = false ∧
      supportedTypes (typedItem type).context = jsonTypes := by
  have hresource : (typedItem type).context.resource = .db := by
    simp only [typedItem, Context.ofExchange, Http.Exchange.ofRequest, Http.Request.labelled,
      Http.Request.ofJson]
    decide
  have hfile : bringsFile (typedItem type).context = false := by simp [bringsFile, hresource]
  exact ⟨hfile, if_neg (Bool.eq_false_iff.mp hfile)⟩

theorem arrives_itemBody : Arrives 64 itemBody := ⟨rfl, by decide⟩

/-- Plain text is refused, and JSON in a charset is not. -/
theorem unsupported_iff_plainText :
    Unsupported (plainReading 64) (typedItem plainText) ∧
      ¬Unsupported (plainReading 64) (typedItem jsonInUtf8) := by
  have hplain : Unmistakable jsonTypes plainText :=
    ⟨"text/plain", @HeaderValue.Plain.intro _ _ [] [] (by decide)
      (HeaderValue.inside_of_all (by decide)) nofun (.inl rfl), by decide⟩
  have hjson : Unmistakable jsonTypes jsonInUtf8 :=
    ⟨"application/json", @HeaderValue.Plain.intro _ _ [' '] "; charset=utf-8".toList (by decide)
      (HeaderValue.inside_of_all (by decide)) (List.forall_mem_singleton.mpr rfl)
      (.inr (by decide)), by decide⟩
  have hiff : ∀ type, Unmistakable jsonTypes type →
      (Unsupported (plainReading 64) (typedItem type) ↔
        ¬∃ v ∈ [type], v.declaredType ∈ jsonTypes) := by
    intro type htype
    obtain ⟨-, hdeclared⟩ := unsupported_iff (plainReading 64) (typedItem type) itemBody rfl
      rfl arrives_itemBody (by decide) (verb_typedItem type)
    rw [(supportedTypes_typedItem type).2] at hdeclared
    exact hdeclared (List.forall_mem_singleton.mpr htype)
  constructor
  · rw [hiff _ hplain]
    decide +kernel
  · rw [hiff _ hjson]
    decide +kernel

/-- A patch format is taken for JSON, and JSON in another case is refused. -/
theorem patch_is_taken_for_json :
    (∀ v ∈ (typedItem jsonPatch).exchange.request.headers.values "content-type",
        v.declaredType ∉ supportedTypes (typedItem jsonPatch).context) ∧
      (∀ next, intake (plainReading 64) next (typedItem jsonPatch) =
        next ⟨(typedItem jsonPatch).exchange.takeBody.2,
          (typedItem jsonPatch).context.takingIn (.single [("x", .natural 1)])⟩) ∧
      (∃ v ∈ (typedItem shoutedJson).exchange.request.headers.values "content-type",
        v.declaredType ∈ supportedTypes (typedItem shoutedJson).context) ∧
      Unsupported (plainReading 64) (typedItem shoutedJson) := by
  obtain ⟨hfile, hpatch⟩ := supportedTypes_typedItem jsonPatch
  obtain ⟨hshouted, hjson⟩ := supportedTypes_typedItem shoutedJson
  have haccepted : Accepted 64 (typedItem jsonPatch).exchange.contentTypes .put itemBody
      (.single [("x", .natural 1)]) := by
    refine ⟨arrives_itemBody, .single (by decide +kernel) rfl, ?_, nofun⟩
    intro d hd id hid
    obtain rfl := List.mem_singleton.mp hd
    cases hid
  rw [hpatch, hjson]
  refine ⟨List.forall_mem_singleton.mpr (by decide +kernel),
    fun next => intake_of_accepted next rfl (verb_typedItem _) hfile haccepted,
    ⟨shoutedJson, List.mem_singleton_self _, by decide +kernel⟩, ?_⟩
  rw [unsupported_iff_of_json rfl rfl arrives_itemBody (by decide) (verb_typedItem _) hshouted]
  decide +kernel

end DocumentGateway.Flow
