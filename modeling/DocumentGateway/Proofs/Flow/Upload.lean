import DocumentGateway.Proofs.Flow.JsonIntake
import DocumentGateway.Proofs.Http.Exchange
import DocumentGateway.Proofs.Upload.Gathering

/-!
# What becomes of an upload

A form is told by two of its parts, the first file and the first field for the properties. `Alike`
forms agree on these, whatever else they hold and in whichever order, and are received by the same
program. What a form comes to is then read off the two parts: properties that are no object, no
file, or a file with a document.
-/

namespace DocumentGateway.Upload

open DocumentGateway.Http.Multipart (Part Form)

/-- The text of the properties among some parts. -/
def propertiesText? (parts : List Part) : Option String := (firstProperties? parts).map (·.text)

/-- Two forms have the same first file, with the same name, and the same text of the properties. -/
structure Alike (left right : List Part) : Prop where
  file : (firstFile? left).map stored = (firstFile? right).map stored
  properties : propertiesText? left = propertiesText? right

/-- A part that does not count is dropped, or a file and a field change places. -/
inductive Edit : List Part → List Part → Prop
  | spare (before : List Part) {part : Part} (after : List Part)
      (hfile : part.head.isFile = false) (hproperties : holdsProperties part = false) :
      Edit (before ++ part :: after) (before ++ after)
  | laterFile (before : List Part) {part : Part} (after : List Part)
      (hfile : part.head.isFile = true) (h : (firstFile? before).isSome = true) :
      Edit (before ++ part :: after) (before ++ after)
  | laterProperties (before : List Part) {part : Part} (after : List Part)
      (hproperties : holdsProperties part = true) (h : (firstProperties? before).isSome = true) :
      Edit (before ++ part :: after) (before ++ after)
  | exchange (before : List Part) {file field : Part} (after : List Part)
      (hfile : file.head.isFile = true) (hfield : field.head.isFile = false) :
      Edit (before ++ file :: field :: after) (before ++ field :: file :: after)

/-- The properties that a field gives, if it gives any; without the field they are empty. -/
inductive Gives : Option String → Document → Prop
  | absent : Gives none []
  | object {text : String} {d : Document} (h : Json.parse? text = some (.object d)) :
      Gives (some text) d

/-- The document of an upload: the properties with the name and the media type of the file. -/
def completed (sniff : Sniffer) (file : Stored) (properties : Document) : Document :=
  putContentType sniff file.data (putFilename file.filename defaultFilename properties)

section Parts

variable {before parts after : List Part} {part : Part}

theorem firstFile?_append (before after : List Part) :
    firstFile? (before ++ after) = (firstFile? before).or (firstFile? after) :=
  List.find?_append ..

theorem firstProperties?_append (before after : List Part) :
    firstProperties? (before ++ after) = (firstProperties? before).or (firstProperties? after) :=
  List.find?_append ..

theorem holdsProperties_of_isFile (h : part.head.isFile = true) : holdsProperties part = false := by
  simp [holdsProperties, h]

theorem isFile_of_holdsProperties (h : holdsProperties part = true) :
    part.head.isFile = false := by
  simpa using (Bool.and_eq_true_iff.mp h).1

/-- Dropping a part that does not count, and changing the places of a file and a field, keeps both
parts that count. -/
theorem Edit.alike {left right : List Part} (h : Edit left right) : Alike left right := by
  have halike : firstFile? left = firstFile? right ∧
      firstProperties? left = firstProperties? right := by
    cases h with
    | spare before after hfile hproperties =>
      simp [firstFile?_append, firstProperties?_append, firstFile?_cons, firstProperties?_cons,
        hfile, hproperties]
    | laterFile before after hfile h =>
      obtain ⟨first, hfirst⟩ := Option.isSome_iff_exists.mp h
      simp [firstFile?_append, firstProperties?_append, firstProperties?_cons, hfirst,
        holdsProperties_of_isFile hfile]
    | laterProperties before after hproperties h =>
      obtain ⟨first, hfirst⟩ := Option.isSome_iff_exists.mp h
      simp [firstFile?_append, firstProperties?_append, firstFile?_cons, hfirst,
        isFile_of_holdsProperties hproperties]
    | exchange before after hfile hfield =>
      simp [firstFile?_append, firstProperties?_append, firstFile?_cons, firstProperties?_cons,
        hfile, hfield, holdsProperties_of_isFile hfile]
  exact ⟨by rw [halike.1], by rw [propertiesText?, halike.2]; rfl⟩

end Parts

section Completing

variable {sniff : Sniffer} {g : Gathered} {text : String} {d : Document} {file : Stored}

theorem parseProperties_of_gives {text : Option String} (h : Gives text d) :
    parseProperties text = .ok d := by
  cases h with
  | absent => rfl
  | object h => simp only [parseProperties, h]

/-- A field gives properties, or its text is no JSON object. -/
theorem gives_or_not (text : Option String) :
    (∃ d, Gives text d) ∨ ∃ t, text = some t ∧ ∀ d, Json.parse? t ≠ some (.object d) := by
  cases text with
  | none => exact .inl ⟨[], .absent⟩
  | some t =>
    by_cases h : ∃ d, Json.parse? t = some (.object d)
    · obtain ⟨d, h⟩ := h
      exact .inl ⟨d, .object h⟩
    · exact .inr ⟨t, rfl, fun d hd => h ⟨d, hd⟩⟩

theorem complete_of_not_object (hproperties : g.properties = some text)
    (h : ∀ d, Json.parse? text ≠ some (.object d)) :
    g.complete sniff = .error .invalidProperties := by
  -- The last case of the definition applies, since the assumption rules out the others.
  have hparse : parseProperties (some text) = .error .invalidProperties := by
    simp [parseProperties]
  rw [Gathered.complete, hproperties, hparse]
  rfl

theorem complete_of_no_file (hproperties : Gives g.properties d) (hfile : g.file = none) :
    g.complete sniff = .error .missingFile := by
  rw [Gathered.complete, parseProperties_of_gives hproperties, hfile]
  rfl

theorem complete_of_file (hproperties : Gives g.properties d) (hfile : g.file = some file) :
    g.complete sniff = .ok (completed sniff file d, file.data) := by
  rw [Gathered.complete, parseProperties_of_gives hproperties, hfile]
  rfl

theorem get?_putContentType_of_ne (data : Bytes) (d : Document) {key : String}
    (h : key ≠ contentTypeField) : (putContentType sniff data d).get? key = d.get? key := by
  unfold putContentType
  split
  · split
    · exact Keyed.get?_insert_of_ne _ _ h.symm
    · rfl
  · split
    · exact Keyed.get?_insert_of_ne _ _ h.symm
    · rfl
  · rfl

/-- All properties but the name and the media type of the file are kept. -/
theorem get?_completed (file : Stored) (d : Document) {key : String} (hname : key ≠ filenameField)
    (htype : key ≠ contentTypeField) : (completed sniff file d).get? key = d.get? key := by
  rw [completed, get?_putContentType_of_ne _ _ htype]
  exact Keyed.get?_insert_of_ne _ _ hname.symm

end Completing

end DocumentGateway.Upload

namespace DocumentGateway.Flow

open DocumentGateway.Http.Multipart (Part Form)
open DocumentGateway.Upload (Alike Edit Gathered Gives Stored completed firstFile? propertiesText?)

/-- Go on with the properties and the file of an upload, or answer why there are none. -/
def takeUpload (next : Stage) (p : Passage) : Except BodyError (Document × Bytes) → Program Result
  | .error e => proceed next p (.error e)
  | .ok (properties, file) =>
    let settled := settle (.single properties) { p.context with file := some file }
    proceed next ⟨p.exchange, settled.2⟩ settled.1

/-- What becomes of an upload whose parts are those of a form. -/
def receive (sniff : Upload.Sniffer) (next : Stage) (p : Passage) (form : Form) :
    Program Result :=
  (storeUpload sniff form).bind (takeUpload next p)

/-- A request for an upload after its body has been taken. -/
def Passage.emptied (p : Passage) : Passage := ⟨p.exchange.takeBody.2, p.context⟩

/-- An answer to every call that has room for each file. -/
def HasRoom {σ : Type} (answer : (c : Call) → σ → c.Answer × σ) : Prop :=
  ∀ s, (answer .reserve s).1 = .ok ()

/-- The state after room has been made for a file, if there is one. -/
def afterRoom {σ : Type} (answer : (c : Call) → σ → c.Answer × σ) (file : Bool) (s : σ) : σ :=
  if file then (answer .reserve s).2 else s

section Receiving

variable {reading : BodyReading} {sniff : Upload.Sniffer} {p : Passage} {form : Form} {next : Stage}

/-- Only requests that write bring a file. -/
theorem verb_of_bringsFile {c : Context} (h : bringsFile c = true) :
    c.verb ≠ .get ∧ c.verb ≠ .options ∧ c.verb ≠ .delete := by
  unfold bringsFile at h
  split at h
  · rename_i hverb _
    simp [hverb]
  · rename_i hverb _
    simp [hverb]
  · cases h

/-- A multipart upload is received as the form that the parser delivers. -/
theorem intake_of_form (hfile : bringsFile p.context = true)
    (htype : hasMediaType p.exchange.contentTypes [multipartType] = true)
    (hform : multipartForm reading.form p.exchange.request.headers p.exchange.body = .ok form) :
    intake reading next p = receive reading.sniff next p.emptied form := by
  have hafter : afterReading p = p.exchange.takeBody.2 := by
    simp [afterReading, takesBody, hasMediaType_pair, htype]
  have hupload : readUpload reading p.exchange = storeUpload reading.sniff form := by
    simp only [readUpload, htype, hform, if_true]
  rw [intake_of_verb reading next (verb_of_bringsFile hfile), hafter, readContent, if_pos hfile,
    hupload, receive, Program.bind_assoc]
  refine congrArg (storeUpload reading.sniff form).bind (funext fun read => ?_)
  cases read with
  | error | ok => rfl

/-- What a closed form comes to is told by its file and the text of its properties. -/
theorem storeUpload_of_closed (hclosed : form.ending = .closed) :
    storeUpload sniff form = roomFor (firstFile? form.parts).isSome
      (Gathered.complete sniff
        ⟨propertiesText? form.parts, (firstFile? form.parts).map Upload.stored⟩) := by
  obtain ⟨parts, ending⟩ := form
  cases hclosed
  have hreach : Upload.reachesFile ⟨parts, .closed⟩ = (firstFile? parts).isSome := by
    simp [Upload.reachesFile, Upload.isSome_firstFile?]
  rw [storeUpload_eq, hreach]
  simp [Gathered.read, Gathered.after, Gathered.empty, propertiesText?, Except.bind]

/-- Alike forms are received by the same program. -/
theorem receive_of_alike {other : Form} (hclosed : form.ending = .closed)
    (hother : other.ending = .closed) (h : Alike form.parts other.parts) :
    receive sniff next p other = receive sniff next p form := by
  have hsome : (firstFile? form.parts).isSome = (firstFile? other.parts).isSome := by
    simpa using congrArg Option.isSome h.file
  rw [receive, receive, storeUpload_of_closed hclosed, storeUpload_of_closed hother, h.file,
    h.properties, hsome]

/-- Where there is room, a closed form is received as what it comes to. -/
theorem run_receive (hclosed : form.ending = .closed) {σ : Type}
    {answer : (c : Call) → σ → c.Answer × σ} (hroom : HasRoom answer) (s : σ) :
    (receive sniff next p form).run answer s =
      (takeUpload next p (Gathered.complete sniff
        ⟨propertiesText? form.parts, (firstFile? form.parts).map Upload.stored⟩)).run answer
          (afterRoom answer (firstFile? form.parts).isSome s) := by
  rw [receive, storeUpload_of_closed hclosed, roomFor, afterRoom]
  cases (firstFile? form.parts).isSome with
  | false => rfl
  | true =>
    simp only [if_true, withRoom, Program.call_bind, Program.run_call, hroom s]
    rfl

/-- A form that is at fault is answered with its fault, whatever would come next. -/
theorem receive_of_fault (hclosed : form.ending = .closed) (hopen : p.exchange.ended = false)
    {σ : Type} {answer : (c : Call) → σ → c.Answer × σ} (hroom : HasRoom answer) {e : BodyError}
    (hfault : Gathered.complete sniff
      ⟨propertiesText? form.parts, (firstFile? form.parts).map Upload.stored⟩ = .error e)
    (hstorage : ∀ reason, e ≠ .storage reason) :
    ∃ refused : Passage, refused.exchange.ended = true ∧
      refused.exchange.response.status = e.status ∧
      refused.exchange.response.body = some (Text.Utf8.encode e.message) ∧
      ∀ next s, (receive sniff next p form).run answer s =
        (⟨.ok (), refused⟩, afterRoom answer (firstFile? form.parts).isSome s) := by
  refine ⟨{ p with exchange := p.exchange.conclude e.status e.message }, rfl,
    Http.Exchange.status_conclude hopen _ _, Http.Exchange.sent_conclude hopen _ _,
    fun next s => ?_⟩
  rw [run_receive hclosed hroom, hfault]
  cases e with
  | storage reason => exact absurd rfl (hstorage reason)
  | _ => rfl

end Receiving

/-- Only two parts of a closed form count, the first file and the first field for the properties.
Forms that agree on them are received by the same program, so that any other part can be added,
dropped or moved, and these two can change places. Where there is room for a file, properties that
are no JSON object are refused before a file that is missing, and neither is handed on; otherwise
the file is stored as its chunks have it, and the document is that of the properties, completed. -/
theorem receive_of_two_parts (reading : BodyReading) (p : Passage) (form : Form)
    (hclosed : form.ending = .closed) (hopen : p.exchange.ended = false) :
    let file := (firstFile? form.parts).map Upload.stored
    let text := propertiesText? form.parts
    (bringsFile p.context = true → hasMediaType p.exchange.contentTypes [multipartType] = true →
        multipartForm reading.form p.exchange.request.headers p.exchange.body = .ok form →
        ∀ next, intake reading next p = receive reading.sniff next p.emptied form) ∧
      (∀ other : Form, other.ending = .closed → Alike form.parts other.parts →
        ∀ next, receive reading.sniff next p.emptied other =
          receive reading.sniff next p.emptied form) ∧
      (∀ parts, Edit form.parts parts ∨ Edit parts form.parts →
        ∀ next, receive reading.sniff next p.emptied ⟨parts, .closed⟩ =
          receive reading.sniff next p.emptied form) ∧
      ∀ {σ : Type} (answer : (c : Call) → σ → c.Answer × σ), HasRoom answer →
        (∀ t, text = some t → (∀ d, Json.parse? t ≠ some (.object d)) →
          ∃ refused : Passage, refused.exchange.ended = true ∧
            refused.exchange.response.status = .notAcceptable ∧
            refused.exchange.response.body =
              some (Text.Utf8.encode BodyError.invalidProperties.message) ∧
            ∀ next s, (receive reading.sniff next p.emptied form).run answer s =
              (⟨.ok (), refused⟩, afterRoom answer file.isSome s)) ∧
        (∀ d, Gives text d → file = none →
          ∃ refused : Passage, refused.exchange.ended = true ∧
            refused.exchange.response.status = .notAcceptable ∧
            refused.exchange.response.body =
              some (Text.Utf8.encode BodyError.missingFile.message) ∧
            ∀ next s, (receive reading.sniff next p.emptied form).run answer s =
              (⟨.ok (), refused⟩, s)) ∧
        (∀ d part, Gives text d → firstFile? form.parts = some part →
          let settled := settle (.single (completed reading.sniff (Upload.stored part) d))
            { p.context with file := some part.chunks.flatten }
          (∀ next s, (receive reading.sniff next p.emptied form).run answer s =
            (proceed next ⟨p.emptied.exchange, settled.2⟩ settled.1).run answer
              (answer .reserve s).2) ∧
          settled.2.file = some part.chunks.flatten ∧
          (∀ content, settled.1 = .ok content →
            content = .single (completed reading.sniff (Upload.stored part) d).withoutReserved) ∧
          ∀ key, key ≠ Upload.filenameField → key ≠ Upload.contentTypeField →
            (completed reading.sniff (Upload.stored part) d).get? key = d.get? key) := by
  intro file text
  have hemptied : p.emptied.exchange.ended = false := hopen
  refine ⟨fun hfile htype hform next => intake_of_form hfile htype hform,
    fun other hother h next => receive_of_alike hclosed hother h, fun parts h next => ?_,
    fun answer hroom => ⟨fun t htext hobject => ?_, fun d hgives hnone => ?_,
      fun d part hgives hfirst => ?_⟩⟩
  · rcases h with h | h
    · exact receive_of_alike hclosed rfl h.alike
    · exact (receive_of_alike rfl hclosed h.alike).symm
  · rw [Option.isSome_map]
    exact receive_of_fault hclosed hemptied hroom (Upload.complete_of_not_object htext hobject)
      nofun
  · have hfirst : (firstFile? form.parts).isSome = false := by
      simpa [file] using hnone
    have hfault : Gathered.complete reading.sniff ⟨text, file⟩ = .error .missingFile :=
      Upload.complete_of_no_file hgives hnone
    have hrefused := receive_of_fault hclosed hemptied hroom hfault nofun
    rwa [hfirst] at hrefused
  · have hcomplete : Gathered.complete reading.sniff ⟨text, file⟩ =
        .ok (completed reading.sniff (Upload.stored part) d, part.chunks.flatten) :=
      Upload.complete_of_file hgives (by simp [file, hfirst])
    refine ⟨fun next s => ?_, ?_, fun content hcontent => eq_of_settle hcontent,
      fun key hname htype => Upload.get?_completed _ d hname htype⟩
    · rw [run_receive hclosed hroom, hcomplete, hfirst]
      rfl
    · obtain ⟨warnings, hsettled⟩ := exists_warnings_of_settle
        (.single (completed reading.sniff (Upload.stored part) d))
        { p.context with file := some part.chunks.flatten }
      exact congrArg Context.file hsettled

/-- The head of a field. -/
def fieldHead (name : String) : Http.Multipart.PartHead := ⟨some name, none, none⟩

/-- A file of three bytes that comes in one piece. -/
def wholeFile : Part := ⟨⟨some "f", some "a.bin", none⟩, [[0x78, 0x79, 0x7A]]⟩

/-- The same file in several pieces. -/
def pieces : Part := ⟨⟨some "g", some "a.bin", none⟩, [[0x78], [], [0x79, 0x7A]]⟩

/-- A field with the properties of the file. -/
def numbered : Part := ⟨fieldHead "properties", [Text.Utf8.encode "\x7b\"n\": 1\x7d"]⟩

/-- A part as it is sent. -/
def sentPart (disposition data : String) : Bytes :=
  Text.Utf8.encode "--b\r\n" ++ Text.Utf8.encode "Content-Disposition: form-data; " ++
    Text.Utf8.encode disposition ++ Text.Utf8.encode "\r\n\r\n" ++ Text.Utf8.encode data ++
    Text.Utf8.encode "\r\n"

/-- A form with a note, a file and its properties, as it is sent. -/
def sentForm : Bytes :=
  sentPart "name=note" "hello" ++ sentPart "name=f; filename=a.bin" "xyz" ++
    sentPart "name=properties" "\x7b\"n\": 1\x7d" ++ Text.Utf8.encode "--b--"

/-- The media type of the form. -/
def sentFormType : Http.HeaderValue :=
  { bytes := Text.Utf8.encode "multipart/form-data; boundary=b" }

/-- The form is put to a file. -/
def sentUpload : Passage :=
  let x := Http.Exchange.ofRequest
    ((Http.Request.ofJson .put "/shop/pics.files/a" (.ofBytes sentForm)).labelled sentFormType)
  ⟨x, .ofExchange x .optional⟩

/-- The form as the parser delivers it. -/
def readForm : Form :=
  ⟨[⟨fieldHead "note", [Text.Utf8.encode "hello"]⟩, wholeFile, numbered], .closed⟩

/-- A world that has room for files and nothing else. -/
def roomOnly : (c : Call) → Unit → c.Answer × Unit
  | .cached _, _ => (none, ())
  | .generation _, _ => ((0 : Nat), ())
  | .remember _ _ _, _ => (false, ())
  | .forget _, _ => ((), ())
  | .load _, _ => (.ok none, ())
  | .upsert _ _, _ => (.ok ⟨.notFound, none⟩, ())
  | .reserve, _ => (.ok (), ())
  | .handOver _ p, _ => (⟨.ok (), p⟩, ())

/-- A form that arrives is the one that its bytes spell at its boundary. -/
theorem multipartForm_of_read {x : Http.Exchange} {limit : Nat} {boundary : String}
    {body : Http.Body} {text : Bytes} (hbody : x.body = some body)
    (hboundary : formBoundary? x.request.headers = some boundary)
    (harrives : body.read? limit = some text) {form : Form}
    (hread : Http.Multipart.read (Text.Utf8.encode boundary) text = form) :
    multipartForm limit x.request.headers x.body = .ok form := by
  simp only [multipartForm, hbody, hboundary, harrives, hread]

theorem formBoundary?_sentUpload :
    formBoundary? sentUpload.exchange.request.headers = some "b" := by
  decide +kernel

theorem multipartForm_sentUpload :
    multipartForm 512 sentUpload.exchange.request.headers sentUpload.exchange.body =
      .ok readForm :=
  multipartForm_of_read rfl formBoundary?_sentUpload (by decide +kernel : _ = some sentForm)
    (by decide +kernel)

/-- A form is received like one whose file comes in pieces behind the properties and that has no
note, and its file and properties are handed on. A list for properties is refused as such even where
there is no file. -/
theorem receive_of_two_parts_sent :
    (∀ next, intake (plainReading 512) next sentUpload =
        receive noMediaType next sentUpload.emptied readForm) ∧
      (∀ next, receive noMediaType next sentUpload.emptied ⟨[numbered, pieces], .closed⟩ =
        receive noMediaType next sentUpload.emptied readForm) ∧
      (∃ seen : Passage,
        (∀ next, (receive noMediaType next sentUpload.emptied readForm).run roomOnly () =
          (next seen).run roomOnly ()) ∧
        seen.context.file = some [0x78, 0x79, 0x7A] ∧
        ∃ d, seen.context.content = .single d ∧ d.get? "n" = some (.natural 1)) ∧
      ∃ refused : Passage, refused.exchange.response.status = .notAcceptable ∧
        ∀ next, (receive noMediaType next sentUpload.emptied
            ⟨[⟨fieldHead "properties", [Text.Utf8.encode "[]"]⟩], .closed⟩).run roomOnly () =
          (⟨.ok (), refused⟩, ()) := by
  have hroom : HasRoom roomOnly := fun _ => rfl
  have halike : Alike readForm.parts [numbered, pieces] := ⟨by decide +kernel, by decide +kernel⟩
  have hgives : Gives (propertiesText? readForm.parts) [("n", .natural 1)] := .object (by rfl)
  obtain ⟨hintake, hother, -, houtcome⟩ :=
    receive_of_two_parts (plainReading 512) sentUpload readForm rfl rfl
  obtain ⟨-, -, hstored⟩ := houtcome roomOnly hroom
  obtain ⟨hrun, hfile, hcontent, hkept⟩ := hstored _ wholeFile hgives rfl
  refine ⟨hintake (by decide +kernel) (by decide +kernel) multipartForm_sentUpload,
    hother _ rfl halike, ⟨_, fun next => hrun next (), hfile, _, rfl, ?_⟩, ?_⟩
  · rw [Keyed.withoutReserved, Keyed.get?_filterKeys, hkept _ (by decide) (by decide)]
    rfl
  · obtain ⟨-, -, -, hlist⟩ := receive_of_two_parts (plainReading 512) sentUpload
      ⟨[⟨fieldHead "properties", [Text.Utf8.encode "[]"]⟩], .closed⟩ rfl rfl
    have hparse : Json.parse? "[]" = some (.array []) := by rfl
    have hnot : ∀ d, Json.parse? "[]" ≠ some (.object d) := by simp [hparse]
    obtain ⟨refused, -, hstatus, -, hrefused⟩ := (hlist roomOnly hroom).1 "[]" (by rfl) hnot
    exact ⟨refused, hstatus, fun next => hrefused next ()⟩

/-- A form with the file and with properties that a text gives, as it is sent. -/
def describedForm (properties : String) : Bytes :=
  sentPart "name=f; filename=a.bin" "xyz" ++ sentPart "name=properties" properties ++
    Text.Utf8.encode "--b--"

/-- Such a form is put to a file. -/
def describedUpload (properties : String) : Passage :=
  let x := Http.Exchange.ofRequest ((Http.Request.ofJson .put "/shop/pics.files/a"
    (.ofBytes (describedForm properties))).labelled sentFormType)
  ⟨x, .ofExchange x .optional⟩

/-- Such a form as the parser delivers it. -/
def describedParts (properties : String) : Form :=
  ⟨[wholeFile, ⟨fieldHead "properties", [Text.Utf8.encode properties]⟩], .closed⟩

/-- Such a form arrives if it is short enough and its bytes spell it. -/
theorem multipartForm_describedUpload (properties : String)
    (hshort : (Http.Body.ofBytes (describedForm properties)).read? 512 =
      some (describedForm properties))
    (hread : Http.Multipart.read (Text.Utf8.encode "b") (describedForm properties) =
      describedParts properties) :
    multipartForm (plainReading 512).form (describedUpload properties).exchange.request.headers
      (describedUpload properties).exchange.body = .ok (describedParts properties) := by
  have hbody : (describedUpload properties).exchange.body =
      some (.ofBytes (describedForm properties)) := rfl
  have hheaders : (describedUpload properties).exchange.request.headers =
      sentUpload.exchange.request.headers := rfl
  have hboundary := formBoundary?_sentUpload
  rw [← hheaders] at hboundary
  exact multipartForm_of_read hbody hboundary hshort hread

end DocumentGateway.Flow
