import DocumentGateway.Proofs.Gateway.AllOrNothing

/-!
# Writes for a version

A write that names a version is applied to that version or not at all. A request names one by a tag
whose value counts as text and is not empty without the blanks and quotes around it. A tag that says
nothing readable is taken for no tag: then the request is refused where a version is required, and
writes over any version where none is.
-/

namespace DocumentGateway.Gateway

/-- The text of a tag without the blanks around it and the quotes around that, if its value counts
as text. -/
def bareTag? (value : Http.HeaderValue) : Option String :=
  value.text?.map fun text =>
    String.ofList (Text.trim (· = '"') (Text.trim (fun c => c = ' ' || c = '\t') text.toList))

variable {settings : Setup} {r : Http.Request} {value : Http.HeaderValue}

/-- The version that a request names is what its tag says, unless that is empty. -/
theorem versionMeant?_of_first? (h : r.head.headers.first? "if-match" = some value) :
    versionMeant? r = (bareTag? value).filter (· ≠ "") := by
  rw [versionMeant?, Flow.Context.etagOfHeaders?, h, Option.bind_some, bareTag?]
  cases value.text? with
  | none => rfl
  | some text =>
    rw [Option.bind_some, Option.map_some, Flow.Context.etagOfText?, Option.filter_some]
    simp [List.isEmpty_iff]

/-- A write for a request with a tag is applied to the version that the tag says, if the tag is
heeded. -/
theorem bareTag?_of_upsert {databases : Store.Database} {w : Store.Write} {fresh stored : String}
    (hw : WrittenFor settings r w) (hvalue : r.head.headers.first? "if-match" = some value)
    (hheeded : (∃ tag, bareTag? value = some tag ∧ tag ≠ "") ∨ isVersionRequired settings r = true)
    (hstored : databases.version? (addressedDb r) = some stored)
    (h : (databases.upsert (addressedDb r) w fresh).1.status.isSuccess = true) :
    bareTag? value = some stored := by
  have hcurrent := Store.Database.isStale_of_upsert hstored h
  rw [hw.etag, hw.checkEtag, versionMeant?_of_first? hvalue] at hcurrent
  rcases hheeded with ⟨tag, htag, hne⟩ | hrequired
  · rw [htag, Option.filter_some, if_pos (decide_eq_true hne)] at hcurrent
    rw [htag, Store.Database.eq_of_isStale_eq_false hcurrent]
  · rw [hrequired] at hcurrent
    cases htag : (bareTag? value).filter (· ≠ "") with
    | none =>
      rw [htag] at hcurrent
      cases hcurrent
    | some tag =>
      rw [htag] at hcurrent
      rw [(Option.filter_eq_some_iff.mp htag).1, Store.Database.eq_of_isStale_eq_false hcurrent]

/-- Under any settings, in any state in which the database addressed has a version, and whenever
copies expire: a PUT or PATCH request with a tag changes that database only if the tag says its
version, and in every other case it leaves all databases as they are and is answered without
success. That presupposes that the tag is heeded: it says something, or a version is required. -/
theorem tagged_write_guarded (settings : Setup) (clock : Nat → Nat) (v : Visit) (s : Clocked)
    {value : Http.HeaderValue} {stored : String}
    (hwriting : isWriting v.request = true)
    (hvalue : v.request.head.headers.first? "if-match" = some value)
    (hheeded : (∃ tag, bareTag? value = some tag ∧ tag ≠ "") ∨
      isVersionRequired settings v.request = true)
    (hstored : s.state.databases.version? (addressedDb v.request) = some stored) :
    let (response, after) := v.serve settings clock s
    let db := addressedDb v.request
    (after.state.databases.get? db ≠ s.state.databases.get? db → bareTag? value = some stored) ∧
    (bareTag? value ≠ some stored →
      after.state.databases = s.state.databases ∧ response.status.isSuccess = false) := by
  dsimp only
  rcases serve_cases settings clock v s with
    ⟨hfailure, hsame⟩ | ⟨_, _, _, result, hwrote⟩
  · refine ⟨fun hchanged => absurd (by rw [hsame]) hchanged, fun _ => ⟨hsame, ?_⟩⟩
    exact Bool.eq_false_iff.mpr fun hsuccess => hfailure ⟨hwriting, hsuccess⟩
  · obtain ⟨w, hw, hresult, _⟩ := hwrote.write
    have htag : bareTag? value = some stored :=
      bareTag?_of_upsert hw hvalue hheeded hstored (hresult ▸ hwrote.success)
    exact ⟨fun _ => htag, fun hother => absurd htag hother⟩

/-- The state in which one database is stored, in a version. -/
def shopInVersion (version : String) : Clocked :=
  ⟨⟨[("shop", [("_etag", .string version)])], .empty true 60⟩, 0⟩

/-- One of the rivals, with a tag of their own. -/
def taggedVisit (tag : Http.HeaderValue) : Visit :=
  let headers := (rivals 1).request.head.headers.map fun h => { h with value := tag }
  ⟨putRequest "/shop" headers, firstVersion, "second", .ok ()⟩

/-- A tag that says another version. -/
theorem tagged_write_guarded_other :
    let s := shopInVersion "zeroth"
    let served := (taggedVisit firstVersion).serve permissiveSettings (fun reading => reading) s
    served.2.state.databases = s.state.databases ∧ served.1.status.isSuccess = false := by
  intro s served
  have hstored : s.state.databases.version? (addressedDb (taggedVisit firstVersion).request) =
      some "zeroth" := by decide
  have hheeded : ∃ tag, bareTag? firstVersion = some tag ∧ tag ≠ "" :=
    ⟨"first", by decide, by decide⟩
  exact (tagged_write_guarded permissiveSettings (fun reading => reading)
    (taggedVisit firstVersion) s (by decide) rfl (.inl hheeded) hstored).2 (by decide)

/-- A tag of a byte that does not count as text, and one of quotes alone: both write over a version
that they do not say. -/
theorem unheeded_tag_overwrites :
    let unreadable : Http.HeaderValue := { bytes := [0xE9] }
    let quotes : Http.HeaderValue := { bytes := [0x22, 0x22] }
    let s := shopInVersion "first"
    let served := fun tag =>
      (taggedVisit tag).serve permissiveSettings (fun reading => reading) s
    s.state.databases.version? "shop" = some "first" ∧
    bareTag? unreadable ≠ some "first" ∧ (served unreadable).1.status = .noContent ∧
    (served unreadable).2.state.databases.version? "shop" = some "second" ∧
    bareTag? quotes ≠ some "first" ∧ (served quotes).1.status = .noContent ∧
    (served quotes).2.state.databases.version? "shop" = some "second" := by
  decide +kernel

end DocumentGateway.Gateway
