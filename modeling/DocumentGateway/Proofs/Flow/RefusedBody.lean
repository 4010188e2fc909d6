import DocumentGateway.Proofs.Flow.Upload

/-!
# What a refused body leaves behind

The context of a request is filled while its body is taken in: with the file as soon as an upload
has been read, with the content when all checks have passed. A fault of the body or of the upload
comes before both. A fault of an identifier comes after the file, which then stays, although the
request is refused and no later stage is asked.
-/

namespace DocumentGateway.Flow

/-- How a body is refused for a reason: with an answer, or with a failure if the reason is that a
file could not be stored. The response is made in the exchange after the body has been read. -/
inductive Refusal (x : Http.Exchange) : BodyError → Result → Prop
  | answered {e : BodyError} (c : Context) (h : ∀ reason, e ≠ .storage reason) :
      Refusal x e ⟨.ok (), ⟨x.conclude e.status e.message, c⟩⟩
  | failed (reason : String) (c : Context) :
      Refusal x (.storage reason) ⟨.error (.io reason), ⟨x, c⟩⟩

/-- The upload that a request brings has been read, with some properties and a file. -/
def UploadRead {σ : Type} (reading : BodyReading) (p : Passage)
    (answer : (c : Call) → σ → c.Answer × σ) (s : σ) (properties : Document) (file : Bytes) :
    Prop :=
  bringsFile p.context = true ∧
    ((readUpload reading p.exchange).run answer s).1 = .ok (properties, file)

/-- What a body that is refused for a reason leaves behind: the content as it was, and the file as
it was unless an upload has been read; then the reason is an identifier, and the file is that of the
upload. -/
structure LeavesBehind {σ : Type} (reading : BodyReading) (p : Passage)
    (answer : (c : Call) → σ → c.Answer × σ) (s : σ) (e : BodyError) (c : Context) : Prop where
  content : c.content = p.context.content
  untouched : (∀ properties file, ¬UploadRead reading p answer s properties file) →
    c.file = p.context.file
  attached : ∀ properties file, UploadRead reading p answer s properties file →
    c.file = some file ∧ ((∃ error, e = .unsupportedId error) ∨ ∃ id, e = .reservedId id)

variable {reading : BodyReading} {next : Stage} {p : Passage} {σ : Type}
  {answer : (c : Call) → σ → c.Answer × σ} {s : σ}

/-- What may have been read of a body: a fault or content, in the context as it was, or an upload
with its file put into the context. -/
inductive Reading {σ : Type} (reading : BodyReading) (p : Passage)
    (answer : (c : Call) → σ → c.Answer × σ) (s : σ) : Except BodyError Content × Context → Prop
  | plain (read : Except BodyError Content)
      (h : ∀ properties file, ¬UploadRead reading p answer s properties file) :
      Reading reading p answer s (read, p.context)
  | upload {properties : Document} {file : Bytes}
      (h : UploadRead reading p answer s properties file) :
      Reading reading p answer s (.ok (.single properties), { p.context with file := some file })

theorem reading_readContent (reading : BodyReading) (p : Passage)
    (answer : (c : Call) → σ → c.Answer × σ) (s : σ) :
    Reading reading p answer s ((readContent reading p).run answer s).1 := by
  unfold readContent
  by_cases hfile : bringsFile p.context = true
  · rw [if_pos hfile, Program.run_bind]
    cases hread : ((readUpload reading p.exchange).run answer s).1 with
    | error e =>
      refine .plain (.error e) fun properties file h => ?_
      rw [UploadRead, hread] at h
      cases h.2
    | ok stored => exact .upload ⟨hfile, hread⟩
  · have hnone : ∀ properties file, ¬UploadRead reading p answer s properties file :=
      fun _ _ h => hfile h.1
    rw [if_neg hfile]
    cases p.exchange.body with
    | none => exact .plain _ hnone
    | some body => exact .plain _ hnone

/-- Where no upload has been read, nothing but content and file as they were is asked for. -/
theorem LeavesBehind.of_not_read {e : BodyError} {c : Context}
    (hnone : ∀ properties file, ¬UploadRead reading p answer s properties file)
    (hcontent : c.content = p.context.content) (hfile : c.file = p.context.file) :
    LeavesBehind reading p answer s e c :=
  ⟨hcontent, fun _ => hfile, fun properties file hread => absurd hread (hnone properties file)⟩

/-- A fault of the body or of the upload leaves the context as it was. -/
theorem Reading.leavesBehind_of_error {e : BodyError} {c : Context}
    (h : Reading reading p answer s (.error e, c)) : LeavesBehind reading p answer s e c := by
  cases h with
  | plain _ hnone => exact .of_not_read hnone rfl rfl

/-- Content that is refused after it has been read has an identifier that is at fault. -/
theorem identifier_of_settle {content : Content} {c : Context} {e : BodyError}
    (h : (settle content c).1 = .error e) :
    (∃ error, e = .unsupportedId error) ∨ ∃ id, e = .reservedId id := by
  rcases addressed_or_first content.documents with
    haddressed | ⟨before, d, after, id, hdocuments, hbefore, hid, hbad⟩
  · simp only [settle, checkIds_of_addressed haddressed] at h
    split at h
    · cases h
      exact .inr ⟨_, rfl⟩
    · cases h
  · rw [settle_of_not_addressable hdocuments hbefore hid hbad] at h
    cases h
    exact .inl ⟨_, rfl⟩

/-- A fault is told whatever stage comes next. -/
theorem exists_refusal (q : Passage) (e : BodyError) :
    ∃ result, Refusal q.exchange e result ∧ result.passage.context = q.context ∧
      ∀ next, proceed next q (.error e) = .done result := by
  cases e with
  | storage reason => exact ⟨_, .failed reason q.context, rfl, fun _ => rfl⟩
  | _ => exact ⟨_, .answered q.context nofun, rfl, fun _ => rfl⟩

/-- A fault that is found in what has been read leaves the content as it was and the file as it was
read. -/
theorem Reading.leavesBehind_of_settle {content : Content} {c : Context} {e : BodyError}
    (h : Reading reading p answer s (.ok content, c)) (hfault : (settle content c).1 = .error e) :
    LeavesBehind reading p answer s e (settle content c).2 := by
  obtain ⟨warnings, hsettled⟩ := exists_warnings_of_settle content c
  rw [hsettled]
  cases h with
  | plain _ hnone => exact .of_not_read hnone rfl rfl
  | upload hread =>
    refine ⟨rfl, fun hnone => absurd hread (hnone _ _), fun properties file hsame => ?_⟩
    have hread' := hread.2.symm.trans hsame.2
    cases hread'
    exact ⟨rfl, identifier_of_settle hfault⟩

/-- A request goes on to the next stage. -/
def GoesOn {σ : Type} (reading : BodyReading) (p : Passage) (answer : (c : Call) → σ → c.Answer × σ)
    (s : σ) : Prop :=
  ∃ (seen : Passage) (s' : σ), ∀ next,
    (intake reading next p).run answer s = (next seen).run answer s'

/-- A request ends alike whatever stage comes next: its body is refused, and some of its context is
left behind. -/
def IsRefused {σ : Type} (reading : BodyReading) (p : Passage)
    (answer : (c : Call) → σ → c.Answer × σ) (s : σ) (ended : Result × σ) : Prop :=
  (∀ next, (intake reading next p).run answer s = ended) ∧
    ∃ e, Refusal (afterReading p) e ended.1 ∧
      LeavesBehind reading p answer s e ended.1.passage.context

theorem isRefused_of_proceed {c : Context} {e : BodyError} {s' : σ}
    (hrun : ∀ next, (intake reading next p).run answer s =
      (proceed next ⟨afterReading p, c⟩ (.error e)).run answer s')
    (hleaves : LeavesBehind reading p answer s e c) :
    ∃ ended, IsRefused reading p answer s ended := by
  obtain ⟨result, hrefusal, hcontext, hproceed⟩ := exists_refusal ⟨afterReading p, c⟩ e
  refine ⟨(result, s'), fun next => ?_, e, hrefusal, ?_⟩
  · rw [hrun, hproceed]
    rfl
  · rw [hcontext]
    exact hleaves

theorem intake_of_no_content
    (h : ¬(p.context.verb ≠ .get ∧ p.context.verb ≠ .options ∧ p.context.verb ≠ .delete))
    (next : Stage) : intake reading next p = next p := by
  unfold intake
  split
  · rfl
  · rfl
  · rfl
  · rename_i hget hoptions hdelete
    exact absurd ⟨hget, hoptions, hdelete⟩ h

theorem goesOn_or_isRefused (reading : BodyReading) (p : Passage)
    (answer : (c : Call) → σ → c.Answer × σ) (s : σ) :
    GoesOn reading p answer s ∨ ∃ ended, IsRefused reading p answer s ended := by
  by_cases hverb : p.context.verb ≠ .get ∧ p.context.verb ≠ .options ∧ p.context.verb ≠ .delete
  case neg =>
    exact .inl ⟨p, s, fun next =>
      congrArg (Program.run answer · s) (intake_of_no_content hverb next)⟩
  have hreading := reading_readContent reading p answer s
  generalize houtcome : (readContent reading p).run answer s = outcome at hreading
  obtain ⟨⟨read, c⟩, s'⟩ := outcome
  cases read with
  | error e =>
    have hrun : ∀ next, (intake reading next p).run answer s =
        (proceed next ⟨afterReading p, c⟩ (.error e)).run answer s' := by
      intro next
      rw [intake_of_verb reading next hverb, Program.run_bind, houtcome]
    exact .inr (isRefused_of_proceed hrun hreading.leavesBehind_of_error)
  | ok content =>
    have hrun : ∀ next, (intake reading next p).run answer s =
        (proceed next ⟨afterReading p, (settle content c).2⟩ (settle content c).1).run answer
          s' := by
      intro next
      rw [intake_of_verb reading next hverb, Program.run_bind, houtcome]
    cases hsettled : (settle content c).1 with
    | error e =>
      rw [hsettled] at hrun
      exact .inr (isRefused_of_proceed hrun (hreading.leavesBehind_of_settle hsettled))
    | ok settled =>
      rw [hsettled] at hrun
      exact .inl ⟨_, s', hrun⟩

/-- What goes on does not end alike. -/
theorem GoesOn.not_alike (h : GoesOn reading p answer s) {ended : Result × σ} :
    ¬∀ next, (intake reading next p).run answer s = ended := by
  obtain ⟨seen, s', hruns⟩ := h
  intro halike
  have hsame := (halike Stage.stop).trans (halike fun q => .done ⟨.error (.io ""), q⟩).symm
  rw [hruns, hruns] at hsame
  cases hsame

/-- Whatever the world answers, a request goes on to the next stage or ends alike whatever comes
next. One that ends is refused for a reason, with an answer or a failure, and its content is as it
was. Its file is as it was unless an upload has been read: then it is refused for an identifier in
the properties, and the file is that of the upload. -/
theorem refused_body_leaves (reading : BodyReading) (p : Passage)
    (answer : (c : Call) → σ → c.Answer × σ) (s : σ) :
    (GoesOn reading p answer s ∨
      ∃ ended, ∀ next, (intake reading next p).run answer s = ended) ∧
      ∀ ended, (∀ next, (intake reading next p).run answer s = ended) →
        ∃ e, Refusal (afterReading p) e ended.1 ∧
          LeavesBehind reading p answer s e ended.1.passage.context := by
  rcases goesOn_or_isRefused reading p answer s with hgoes | ⟨ended, halike, hrefused⟩
  · exact ⟨.inl hgoes, fun ended halike => absurd halike hgoes.not_alike⟩
  · refine ⟨.inr ⟨ended, halike⟩, fun other hother => ?_⟩
    obtain rfl : other = ended := (hother Stage.stop).symm.trans (halike Stage.stop)
    exact hrefused

/-- Properties under an identifier that no path can carry, as they are sent. -/
def faultyProperties : String := "\x7b\"_id\": \x7b\x7d\x7d"

/-- An upload with these properties. -/
def faultyUpload : Passage := describedUpload faultyProperties

/-- The document that the upload comes to. -/
def faultyDocument : Document :=
  Upload.completed noMediaType (Upload.stored wholeFile) [("_id", .object [])]

/-- The upload after it has been refused: its file has been put into the context. -/
def refusedUpload : Passage :=
  ⟨faultyUpload.emptied.exchange.conclude .notAcceptable
    (BodyError.unsupportedId ⟨"object"⟩).message,
    { faultyUpload.context with file := some [0x78, 0x79, 0x7A] }⟩

theorem multipartForm_faultyUpload :
    multipartForm (plainReading 512).form faultyUpload.exchange.request.headers
      faultyUpload.exchange.body = .ok (describedParts faultyProperties) :=
  multipartForm_describedUpload faultyProperties (by decide +kernel) (by decide +kernel)

theorem complete_faultyUpload :
    Upload.Gathered.complete noMediaType
      ⟨Upload.propertiesText? (describedParts faultyProperties).parts,
        (Upload.firstFile? (describedParts faultyProperties).parts).map Upload.stored⟩ =
        .ok (faultyDocument, [0x78, 0x79, 0x7A]) := by
  have hgives : Upload.Gives
      (Upload.propertiesText? (describedParts faultyProperties).parts)
      [("_id", .object [])] := .object (by rfl)
  exact Upload.complete_of_file hgives rfl

theorem settle_faultyDocument (c : Context) :
    settle (.single faultyDocument) c = (.error (.unsupportedId ⟨"object"⟩), c) := by
  have hdocuments : (Content.single faultyDocument).documents = [] ++ faultyDocument :: [] := rfl
  have hid : faultyDocument.get? idField = some (.object []) :=
    Upload.get?_completed _ _ (by decide) (by decide)
  have hfaulty : ¬Identifier.Addressable (.object []) := by
    intro h
    cases h
  exact settle_of_not_addressable hdocuments (List.forall_mem_nil _) hid hfaulty

theorem run_faultyUpload (next : Stage) :
    (intake (plainReading 512) next faultyUpload).run roomOnly () =
      (⟨.ok (), refusedUpload⟩, ()) := by
  have hintake : intake (plainReading 512) next faultyUpload =
      receive noMediaType next faultyUpload.emptied (describedParts faultyProperties) :=
    intake_of_form (by decide +kernel) (by decide +kernel) multipartForm_faultyUpload
  rw [hintake, run_receive rfl (fun _ => rfl), complete_faultyUpload]
  let c : Context := { faultyUpload.context with file := some [0x78, 0x79, 0x7A] }
  change (proceed next ⟨faultyUpload.emptied.exchange, (settle (.single faultyDocument) c).2⟩
    (settle (.single faultyDocument) c).1).run roomOnly () = _
  rw [settle_faultyDocument]
  rfl

theorem uploadRead_faultyUpload :
    UploadRead (plainReading 512) faultyUpload roomOnly () faultyDocument [0x78, 0x79, 0x7A] := by
  refine ⟨rfl, ?_⟩
  rw [readUpload, if_pos (by decide +kernel), multipartForm_faultyUpload]
  change ((storeUpload noMediaType (describedParts faultyProperties)).run roomOnly ()).1 = _
  rw [storeUpload_of_closed rfl, complete_faultyUpload]
  rfl

/-- An upload under a faulty identifier has been read, and is refused with the file attached. -/
theorem refused_body_leaves_upload :
    ∃ e, (∀ next, (intake (plainReading 512) next faultyUpload).run roomOnly () =
        (⟨.ok (), refusedUpload⟩, ())) ∧
      UploadRead (plainReading 512) faultyUpload roomOnly () faultyDocument [0x78, 0x79, 0x7A] ∧
      Refusal (afterReading faultyUpload) e ⟨.ok (), refusedUpload⟩ ∧
      refusedUpload.context.content = faultyUpload.context.content ∧
      refusedUpload.context.file = some [0x78, 0x79, 0x7A] := by
  obtain ⟨-, hrefused⟩ := refused_body_leaves (plainReading 512) faultyUpload roomOnly ()
  obtain ⟨e, hrefusal, hleaves⟩ := hrefused _ run_faultyUpload
  obtain ⟨hfile, -⟩ := hleaves.attached _ _ uploadRead_faultyUpload
  exact ⟨e, run_faultyUpload, uploadRead_faultyUpload, hrefusal, hleaves.content, hfile⟩

/-- An upload under a faulty identifier is refused, and its file stays in the context. -/
theorem refused_upload_keeps_file :
    faultyUpload.context.file = none ∧
      ∃ refused : Passage,
        (∀ next, (intake (plainReading 512) next faultyUpload).run roomOnly () =
          (⟨.ok (), refused⟩, ())) ∧
        refused.exchange.ended = true ∧ refused.exchange.response.status = .notAcceptable ∧
        refused.context.file = some [0x78, 0x79, 0x7A] :=
  ⟨rfl, refusedUpload, run_faultyUpload, rfl, Http.Exchange.status_conclude rfl _ _, rfl⟩

end DocumentGateway.Flow
