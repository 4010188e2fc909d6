import DocumentGateway.Proofs.Flow.Upload

/-!
# How an upload is described

The document of an upload is that of its properties with a name and a media type. A name can come
from two sources, the properties before the form, and a source that leaves it empty should count as
none; the properties are not asked that way, since an empty name in them hides that of the form. The
media type is found in the file where the properties tell none, and nothing else is touched.
-/

namespace DocumentGateway.Upload

/-- A name, unless it is empty. -/
def usable (name : Option String) : Option String := name.filter fun text => !text.isEmpty

/-- The name that the two sources of an upload tell: that of the properties, else that of the form,
else the default, an empty name being none. -/
def toldFilename (form : Option String) (properties : Document) : String :=
  ((usable (properties.text? filenameField)).or (usable form)).getD defaultFilename

/-- The properties give the file an empty name. -/
def LeavesUnnamed (properties : Document) : Prop :=
  properties.text? filenameField = some ""

/-- A document describes a file with some properties: it names the file as told, unless the
properties leave it unnamed, tells a media type that has been found where the properties tell none,
and is like the properties in everything else. -/
structure Describes (sniff : Sniffer) (file : Stored) (properties document : Document) : Prop where
  told : ¬LeavesUnnamed properties →
    document.get? filenameField = some (.string (toldFilename file.filename properties))
  unnamed : LeavesUnnamed properties →
    document.get? filenameField = some (.string defaultFilename)
  kept : ∀ type, properties.get? contentTypeField = some type → type ≠ .null →
    document.get? contentTypeField = some type
  found : properties.get? contentTypeField = none ∨
      properties.get? contentTypeField = some .null →
    document.get? contentTypeField =
      ((sniff file.data).map .string).or (properties.get? contentTypeField)
  others : ∀ key, key ≠ filenameField → key ≠ contentTypeField →
    document.get? key = properties.get? key

variable {sniff : Sniffer} {file : Stored} {d : Document}

theorem usable_of_ne {name : String} (h : name ≠ "") : usable (some name) = some name := by
  simp [usable, Option.filter, h]

theorem getD_usable (name : Option String) :
    (match name with
      | some text => if text.isEmpty then defaultFilename else text
      | none => defaultFilename) = (usable name).getD defaultFilename := by
  cases name with
  | none => rfl
  | some text =>
    by_cases h : text = ""
    · subst h
      rfl
    · simp [usable_of_ne h, h]

/-- The name that is chosen is that of the properties, be it empty, else that of the form, and the
default in place of an empty one. -/
theorem chooseFilename_eq (form : Option String) (d : Document) :
    chooseFilename form defaultFilename d =
      (usable ((d.text? filenameField).or form)).getD defaultFilename := by
  rw [chooseFilename, Keyed.text?]
  cases d.get? filenameField with
  | none => exact getD_usable form
  | some value =>
    cases value with
    | string name => exact getD_usable (some name)
    | _ => exact getD_usable form

/-- Unless the properties leave the file unnamed, the name is chosen as told. -/
theorem chooseFilename_of_not_unnamed (form : Option String) (h : ¬LeavesUnnamed d) :
    chooseFilename form defaultFilename d = toldFilename form d := by
  rw [chooseFilename_eq, toldFilename]
  cases hname : d.text? filenameField with
  | none => rfl
  | some name =>
    have hne : name ≠ "" := fun hempty => h (hname.trans (congrArg some hempty))
    rw [Option.some_or, usable_of_ne hne]
    rfl

theorem chooseFilename_of_unnamed (form : Option String) (h : LeavesUnnamed d) :
    chooseFilename form defaultFilename d = defaultFilename := by
  rw [chooseFilename_eq, h]
  rfl

/-- A media type that the properties tell stays. -/
theorem get?_putContentType_of_told (data : Bytes) {type : Json.Value}
    (h : d.get? contentTypeField = some type) (hnull : type ≠ .null) :
    (putContentType sniff data d).get? contentTypeField = some type := by
  rw [putContentType, h]
  cases type with
  | null => exact absurd rfl hnull
  | _ => exact h

/-- Where the properties tell no media type, the one that is found is put in. -/
theorem get?_putContentType_of_untold (data : Bytes)
    (h : d.get? contentTypeField = none ∨ d.get? contentTypeField = some .null) :
    (putContentType sniff data d).get? contentTypeField =
      ((sniff data).map .string).or (d.get? contentTypeField) := by
  cases hmedia : sniff data with
  | none =>
    rw [Option.map_none, Option.none_or]
    rcases h with h | h <;> simp only [putContentType, h, hmedia]
  | some type =>
    have hput : putContentType sniff data d = d.insert contentTypeField (.string type) := by
      rcases h with h | h <;> simp only [putContentType, h, hmedia]
    rw [hput]
    exact Keyed.get?_insert_self _ _ _

/-- The document of an upload describes its file. -/
theorem describes_completed (sniff : Sniffer) (file : Stored) (d : Document) :
    Describes sniff file d (completed sniff file d) := by
  have hname : (completed sniff file d).get? filenameField =
      some (.string (chooseFilename file.filename defaultFilename d)) := by
    rw [completed, get?_putContentType_of_ne _ _ (by decide)]
    exact Keyed.get?_insert_self _ _ _
  have htype : (putFilename file.filename defaultFilename d).get? contentTypeField =
      d.get? contentTypeField := Keyed.get?_insert_of_ne _ _ (by decide)
  constructor
  case told =>
    intro h
    rw [hname, chooseFilename_of_not_unnamed _ h]
  case unnamed =>
    intro h
    rw [hname, chooseFilename_of_unnamed _ h]
  case kept => exact fun type h hnull => get?_putContentType_of_told _ (htype.trans h) hnull
  case found =>
    intro h
    rw [← htype] at h ⊢
    exact get?_putContentType_of_untold _ h
  case others => exact fun key => get?_completed file d

/-- What has been gathered comes to a document exactly if there are properties and a file. -/
theorem complete_eq_ok_iff {g : Gathered} {document : Document} {data : Bytes} :
    g.complete sniff = .ok (document, data) ↔
      ∃ d file, Gives g.properties d ∧ g.file = some file ∧ document = completed sniff file d ∧
        data = file.data := by
  constructor
  · intro h
    rcases gives_or_not g.properties with ⟨d, hgives⟩ | ⟨text, htext, hnot⟩
    · cases hfile : g.file with
      | none =>
        rw [complete_of_no_file hgives hfile] at h
        cases h
      | some file =>
        rw [complete_of_file hgives hfile] at h
        cases h
        exact ⟨d, file, hgives, rfl, rfl, rfl⟩
    · rw [complete_of_not_object htext hnot] at h
      cases h
  · rintro ⟨d, file, hgives, hfile, rfl, rfl⟩
    exact complete_of_file hgives hfile

end DocumentGateway.Upload

namespace DocumentGateway.Flow

open DocumentGateway.Upload (Describes Gathered Gives LeavesUnnamed completed firstFile?
  propertiesText? toldFilename)

section Accepting

variable {sniff : Upload.Sniffer} {form : Http.Multipart.Form} {document : Document} {data : Bytes}
  {σ : Type} {answer : (c : Call) → σ → c.Answer × σ} {s : σ}

/-- A form that breaks off comes to nothing. -/
theorem storeUpload_of_broken {opened : Option Http.Multipart.PartHead}
    (h : form.ending = .broken opened) :
    ((storeUpload sniff form).run answer s).1 ≠ .ok (document, data) := by
  obtain ⟨parts, ending⟩ := form
  cases h
  have hread : (Gathered.empty.read ⟨parts, .broken opened⟩).bind (·.complete sniff) =
      .error .unreadableForm := rfl
  rw [storeUpload_eq, hread, roomFor]
  intro hok
  split at hok
  · rw [withRoom, Program.run_call] at hok
    split at hok <;> cases hok
  · cases hok

/-- A form that is closed comes to a document exactly if it holds a file and properties and there is
room for the file. -/
theorem storeUpload_of_closed_eq_ok_iff (h : form.ending = .closed) :
    ((storeUpload sniff form).run answer s).1 = .ok (document, data) ↔
      ∃ part d, firstFile? form.parts = some part ∧ Gives (propertiesText? form.parts) d ∧
        (answer .reserve s).1 = .ok () ∧ document = completed sniff (Upload.stored part) d ∧
        data = part.data := by
  rw [storeUpload_of_closed h]
  cases hfirst : firstFile? form.parts with
  | none =>
    change Gathered.complete sniff ⟨propertiesText? form.parts, none⟩ = _ ↔ _
    rw [Upload.complete_eq_ok_iff]
    constructor
    · rintro ⟨d, file, -, hfile, -⟩
      cases hfile
    · rintro ⟨part, d, hpart, -⟩
      cases hpart
  | some part =>
    rw [Option.isSome_some, roomFor, if_pos rfl, withRoom, Program.run_call]
    cases (answer .reserve s).1 with
    | error reason =>
      constructor
      · intro hnone
        cases hnone
      · rintro ⟨_, _, -, -, hnone, -⟩
        cases hnone
    | ok room =>
      change Gathered.complete sniff ⟨propertiesText? form.parts, some (Upload.stored part)⟩ = _ ↔ _
      rw [Upload.complete_eq_ok_iff]
      constructor
      · rintro ⟨d, file, hgives, hfile, hdocument, hdata⟩
        cases hfile
        exact ⟨part, d, rfl, hgives, rfl, hdocument, hdata⟩
      · rintro ⟨_, d, hpart, hgives, -, hdocument, hdata⟩
        cases hpart
        exact ⟨d, _, hgives, rfl, hdocument, hdata⟩

end Accepting

/-- An upload is accepted exactly if it is a closed multipart form with a file and with properties
that are an object, or without properties, and there is room for the file. Its document then
describes the file: under a name that is told, unless the properties leave the file unnamed, under
the media type that is told or found, and with everything else as the properties have it. -/
theorem upload_is_described (reading : BodyReading) (x : Http.Exchange) {σ : Type}
    (answer : (c : Call) → σ → c.Answer × σ) (s : σ) (document : Document) (data : Bytes) :
    (((readUpload reading x).run answer s).1 = .ok (document, data) ↔
      hasMediaType x.contentTypes [multipartType] = true ∧
      ∃ form part d, multipartForm reading.form x.request.headers x.body = .ok form ∧
        form.ending = .closed ∧ firstFile? form.parts = some part ∧
        Gives (propertiesText? form.parts) d ∧ (answer .reserve s).1 = .ok () ∧
        document = completed reading.sniff (Upload.stored part) d ∧ data = part.data) ∧
      ∀ (file : Upload.Stored) (d : Document),
        Describes reading.sniff file d (completed reading.sniff file d) := by
  refine ⟨?_, Upload.describes_completed reading.sniff⟩
  unfold readUpload
  by_cases htype : hasMediaType x.contentTypes [multipartType] = true
  · rw [if_pos htype]
    cases hform : multipartForm reading.form x.request.headers x.body with
    | error e =>
      constructor
      · intro hnone
        cases hnone
      · rintro ⟨-, form, _, _, hnone, -⟩
        cases hnone
    | ok form =>
      cases hending : form.ending with
      | closed =>
        rw [storeUpload_of_closed_eq_ok_iff hending]
        constructor
        · rintro ⟨part, d, haccepted⟩
          exact ⟨htype, form, part, d, rfl, hending, haccepted⟩
        · rintro ⟨-, _, part, d, hsame, -, haccepted⟩
          cases hsame
          exact ⟨part, d, haccepted⟩
      | broken opened =>
        constructor
        · exact fun hok => absurd hok (storeUpload_of_broken hending)
        · rintro ⟨-, _, part, d, hsame, hclosed, -⟩
          cases hsame
          rw [hending] at hclosed
          cases hclosed
  · rw [if_neg htype]
    constructor
    · intro hok
      split at hok <;> cases hok
    · exact fun h => absurd h.1 htype

/-- Properties that leave the file unnamed, as they are sent. -/
def unnamedProperties : String := "\x7b\"filename\": \"\"\x7d"

/-- A file that the form names gets the default name, since the properties leave it unnamed. -/
theorem form_name_is_hidden :
    toldFilename (some "a.bin") [("filename", .string "")] = "a.bin" ∧
      ∃ document, ((readUpload (plainReading 512)
          (describedUpload unnamedProperties).exchange).run roomOnly ()).1 =
            .ok (document, [0x78, 0x79, 0x7A]) ∧
        document.get? "filename" = some (.string "file") := by
  let d : Document := [("filename", .string "")]
  have hgives : Gives (propertiesText? (describedParts unnamedProperties).parts) d :=
    .object (by rfl)
  have harrives := multipartForm_describedUpload unnamedProperties (by decide +kernel)
    (by decide +kernel)
  have hupload : readUpload (plainReading 512) (describedUpload unnamedProperties).exchange =
      storeUpload noMediaType (describedParts unnamedProperties) := by
    rw [readUpload, if_pos (by decide +kernel), harrives]
    rfl
  have hdescribes := Upload.describes_completed noMediaType (Upload.stored wholeFile) d
  refine ⟨by decide, completed noMediaType (Upload.stored wholeFile) d, ?_, hdescribes.unnamed rfl⟩
  rw [hupload, storeUpload_of_closed_eq_ok_iff rfl]
  exact ⟨wholeFile, d, rfl, hgives, rfl, rfl, rfl⟩

end DocumentGateway.Flow
