import DocumentGateway.Flow.Intake
import DocumentGateway.Flow.Write
import DocumentGateway.Proofs.Flow.Protocol
import DocumentGateway.Proofs.Json.Legible
import DocumentGateway.Proofs.Upload.Gathering

/-!
# What is taken in

A JSON body brings the document that it spells, without the reserved keys, however much of it is
blank; the names in that document are in order, each once. And whatever is found out about a request
on the way, what it says by itself stays: its method, what it addresses and the version it was made
for.
-/

namespace DocumentGateway.Flow

/-- No file tells its media type. -/
def noMediaType : Upload.Sniffer := fun _ => none

/-- Bodies are read up to a limit, and no file tells its media type. -/
def plainReading (limit : Nat) : BodyReading := ⟨⟨limit, limit⟩, noMediaType⟩

theorem hasMediaType_pair (contentTypes : List String) (a b : String) :
    hasMediaType contentTypes [a, b] =
      (hasMediaType contentTypes [a] || hasMediaType contentTypes [b]) := by
  induction contentTypes with
  | nil => rfl
  | cons sent rest ih =>
    simp only [hasMediaType, List.any_cons, List.any_nil, Bool.or_false] at ih ⊢
    rw [ih]
    ac_rfl

/-- Requests that may bring content have it read, and go on with what was read. -/
theorem intake_of_verb (reading : BodyReading) (next : Stage) {p : Passage}
    (hverb : p.context.verb ≠ .get ∧ p.context.verb ≠ .options ∧ p.context.verb ≠ .delete) :
    intake reading next p = (readContent reading p).bind fun (read, context) =>
      match read with
      | .error e => proceed next ⟨afterReading p, context⟩ (.error e)
      | .ok content =>
        proceed next ⟨afterReading p, (settle content context).2⟩ (settle content context).1 := by
  unfold intake
  split
  · rename_i hget
    exact absurd hget hverb.1
  · rename_i hoptions
    exact absurd hoptions hverb.2.1
  · rename_i hdelete
    exact absurd hdelete hverb.2.2
  · rfl

/-- The document that some bytes spell; bytes that spell none count as an empty one. -/
def spelledDocument (text : Bytes) : Document :=
  if text.all Text.isSpaceByte then []
  else
    match (Text.Utf8.decode? text).bind Json.read? with
    | some (.object fields) => fields
    | _ => []

theorem ordered_spelledDocument (text : Bytes) : Keyed.Ordered (spelledDocument text) := by
  unfold spelledDocument
  split
  · exact Keyed.ordered_nil
  · split
    · rename_i fields hread
      exact Json.ordered_of_read hread
    · exact Keyed.ordered_nil

/-- Whichever way some content is written, it is written as one document. -/
def Brings (content : Content) (d : Document) : Prop :=
  ∀ mode d', documentOf mode content = .ok d' → d' = d

theorem brings_absent : Brings .absent [] := by
  intro mode d' h
  cases mode with
  | replace => exact (Except.ok.inj h).symm
  | merge => cases h

theorem brings_single (d : Document) : Brings (.single d) d := by
  intro mode d' h
  cases mode with
  | replace | merge => exact (Except.ok.inj h).symm

theorem brings_many (ds : List Document) (d : Document) : Brings (.many ds) d := by
  intro mode d' h
  cases mode with
  | replace | merge => cases h

/-- A JSON body brings the document that it spells. -/
theorem brings_of_jsonContent {limit : Nat} {contentTypes : List String} {body : Http.Body}
    {content : Content} (h : jsonContent limit contentTypes body = .ok content) :
    Brings content.withoutReserved (spelledDocument body.bytes).withoutReserved := by
  unfold jsonContent at h
  split at h
  · cases h
  · rename_i hread
    cases h
    rw [(Http.Body.read?_eq_some_iff.mp hread).2.2]
    exact brings_absent
  · rename_i text _ hread
    rw [(Http.Body.read?_eq_some_iff.mp hread).2.2, spelledDocument]
    split at h
    · cases h
    · split at h
      · rename_i hblank
        cases h
        rw [if_pos hblank]
        exact brings_absent
      · rename_i hblank
        rw [if_neg hblank]
        unfold contentOfJson at h
        split at h
        · rename_i fields hvalue
          cases h
          rw [hvalue]
          exact brings_single _
        · split at h
          · cases h
            exact brings_many _ _
          · cases h
        · cases h

/-- A context agrees with another one on all that a request says by itself. -/
def Context.Agrees (c c₀ : Context) : Prop :=
  c = { c₀ with
    content := c.content, file := c.file, props := c.props, result := c.result,
    account := c.account, warnings := c.warnings }

/-- Whatever is found out about a request, what it says by itself stays. -/
theorem Context.Agrees.learn {c c₀ : Context} (h : c.Agrees c₀) (content : Content)
    (file : Option Bytes) (props : Option Document) (result : Option Store.WriteResult)
    (account : Option Access.Account) (warnings : List String) :
    Context.Agrees { c with
      content := content, file := file, props := props, result := result, account := account,
      warnings := warnings } c₀ := by
  unfold Context.Agrees at h ⊢
  rw [h]

theorem agrees_settle {c c₀ : Context} (h : c.Agrees c₀) (content : Content) :
    (settle content c).2.Agrees c₀ := by
  simp only [settle]
  split
  · exact h
  · split
    · exact h.learn _ _ _ _ _ _
    · exact h.learn _ _ _ _ _ _

/-- Checking some content finds out nothing but warnings. -/
theorem exists_warnings_of_settle (content : Content) (c : Context) :
    ∃ warnings, (settle content c).2 = { c with warnings := warnings } := by
  simp only [settle]
  split
  · exact ⟨_, rfl⟩
  · split
    · exact ⟨_, rfl⟩
    · exact ⟨_, rfl⟩

theorem eq_of_settle {content settled : Content} {c : Context}
    (h : (settle content c).1 = .ok settled) : settled = content.withoutReserved := by
  simp only [settle] at h
  split at h
  · cases h
  · split at h
    · cases h
    · cases h
      rfl

/-- Reading the content of a request asks for nothing but room for a file, and finds out nothing but
the file. Unless the request brings a file, its content is what its body holds as JSON. -/
theorem obeys_readContent {db : String} {kind : Store.Write → Prop} (reading : BodyReading)
    (p : Passage) {c₀ : Context} (h : p.context.Agrees c₀) :
    (readContent reading p).Obeys db kind
      (fun ψ read => ψ = .idle ∧ read.2.Agrees c₀ ∧
        (bringsFile p.context = false → ∀ body, p.exchange.body = some body →
          read.1 = jsonContent reading.body p.exchange.contentTypes body)) .idle := by
  have hform : ∀ form,
      (storeUpload reading.sniff form).Obeys db kind (fun ψ _ => ψ = .idle) .idle := by
    intro form
    rw [storeUpload_eq, roomFor]
    split
    · intro room
      refine ⟨.idle, .room room, ?_⟩
      cases room with
      | error reason => exact rfl
      | ok => exact rfl
    · exact rfl
  have hupload : (readUpload reading p.exchange).Obeys db kind (fun ψ _ => ψ = .idle) .idle := by
    unfold readUpload
    split
    · split
      · exact rfl
      · exact hform _
    · split
      · exact rfl
      · exact rfl
  unfold readContent
  split
  · rename_i hfile
    refine hupload.bind fun ψ read hread => ?_
    subst hread
    cases read with
    | error e => exact ⟨rfl, h, fun hnone => by simp [hfile] at hnone⟩
    | ok stored => exact ⟨rfl, h.learn _ _ _ _ _ _, fun hnone => by simp [hfile] at hnone⟩
  · split
    · rename_i hbody
      exact ⟨rfl, h, fun _ body hsome => by simp [hbody] at hsome⟩
    · rename_i body hbody
      refine ⟨rfl, h, fun _ body' hsome => ?_⟩
      rw [hbody] at hsome
      cases hsome
      rfl

end DocumentGateway.Flow
