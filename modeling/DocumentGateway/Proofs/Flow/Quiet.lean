import DocumentGateway.Flow.Chain

/-!
# Who asks for credentials

Admission alone answers with 401 and with a challenge. A response without either stays so through
all stages after admission, whatever the world answers, as long as the database does not answer a
write with 401 itself.
-/

namespace DocumentGateway.Flow

variable {α β σ : Type} {fair : (c : Call) → c.Answer → Prop}

/-- Whatever fair answers a program gets, it ends with a value that fits. -/
def Program.Every (fair : (c : Call) → c.Answer → Prop) (fits : α → Prop) : Program α → Prop
  | .done value => fits value
  | .call c next => ∀ answer, fair c answer → (next answer).Every fair fits

namespace Program.Every

/-- Every program ends with some value. -/
theorem trivial (p : Program α) : p.Every fair fun _ => True := by
  induction p with
  | done value => exact True.intro
  | call c next ih => exact fun answer _ => ih answer

theorem bind {fits : α → Prop} {fits' : β → Prop} {p : Program α} {f : α → Program β}
    (h : p.Every fair fits) (hf : ∀ value, fits value → (f value).Every fair fits') :
    (p.bind f).Every fair fits' := by
  induction p with
  | done value => exact hf value h
  | call c next ih => exact fun answer ha => ih answer (h answer ha)

/-- A run with fair answers ends with a value that fits. -/
theorem run {fits : α → Prop} {p : Program α} (h : p.Every fair fits)
    {answer : (c : Call) → σ → c.Answer × σ} (hfair : ∀ c s, fair c (answer c s).1) (s : σ) :
    fits (p.run answer s).1 := by
  induction p generalizing s with
  | done value => exact h
  | call c next ih => exact ih _ (h _ (hfair c s)) _

end Program.Every

/-- The name of the header that holds a challenge. -/
def challengeHeader : String := "www-authenticate"

/-- A response does not ask for credentials. -/
structure Quiet (response : Http.Response) : Prop where
  status : response.status ≠ .unauthorized
  unchallenged : response.headers.get? challengeHeader = none

/-- The database does not ask for credentials. -/
def FairAnswer : (c : Call) → c.Answer → Prop
  | .upsert _ _, .ok result => result.status ≠ .unauthorized
  | _, _ => True

section Answering

variable {x : Http.Exchange}

/-- A change that keeps a response quiet may be made. -/
theorem Quiet.amend (h : Quiet x.response) {change : Http.Response → Http.Response}
    (hchange : Quiet x.response → Quiet (change x.response)) : Quiet (x.amend change).response := by
  unfold Http.Exchange.amend
  split
  · exact h
  · exact hchange h

theorem Quiet.setStatus (h : Quiet x.response) {status : Http.Status}
    (hs : status ≠ .unauthorized) : Quiet (x.setStatus status).response :=
  h.amend fun hx => ⟨hs, hx.unchallenged⟩

theorem Quiet.setHeader (h : Quiet x.response) {name : String} (hname : name ≠ challengeHeader)
    (value : Http.HeaderValue) : Quiet (x.setHeader name value).response :=
  h.amend fun hx => ⟨hx.status, (Keyed.get?_insert_of_ne _ _ hname).trans hx.unchallenged⟩

theorem Quiet.send (h : Quiet x.response) (type : Http.MediaType) (body : Bytes) :
    Quiet (x.send type body).response :=
  h.amend fun hx =>
    ⟨hx.status, (Keyed.get?_insert_of_ne _ _ (by decide)).trans hx.unchallenged⟩

theorem Quiet.conclude (h : Quiet x.response) {status : Http.Status}
    (hs : status ≠ .unauthorized) (message : String) :
    Quiet (x.conclude status message).response :=
  (h.setStatus hs).send _ _

theorem Quiet.setEtag (h : Quiet x.response) (etag : Option String) :
    Quiet (Flow.setEtag x etag).response := by
  unfold Flow.setEtag
  split
  · exact h.setHeader (by decide) _
  · exact h

theorem Quiet.showProps (h : Quiet x.response) (path : String) (props : Document) :
    Quiet (Flow.showProps x path props).response :=
  ((h.setEtag _).setStatus (by decide)).send _ _

theorem Quiet.acknowledge {p : Passage} (h : Quiet p.exchange.response) {status : Http.Status}
    (hs : status ≠ .unauthorized) : Quiet (p.acknowledge status).exchange.response := by
  unfold Passage.acknowledge
  split
  · exact h.setStatus hs
  · refine (h.setStatus ?_).send _ _
    split
    · decide
    · exact hs

end Answering

/-- A stage never makes a quiet response ask for credentials. -/
def KeepsQuiet (stage : Stage) : Prop :=
  ∀ p : Passage, Quiet p.exchange.response →
    (stage p).Every FairAnswer fun r => Quiet r.passage.exchange.response

variable {next : Stage}

theorem keepsQuiet_stop : KeepsQuiet Stage.stop := fun _ h => h

theorem every_refuse {p : Passage} (h : Quiet p.exchange.response) {status : Http.Status}
    (hs : status ≠ .unauthorized) (message : String) :
    (p.refuse status message).Every FairAnswer fun r => Quiet r.passage.exchange.response :=
  h.conclude hs message

/-- To end the exchange does not change its response. -/
theorem every_finish {p : Program Result}
    (h : p.Every FairAnswer fun r => Quiet r.passage.exchange.response) :
    (p.bind fun r => .done r.finish).Every FairAnswer
      fun r => Quiet r.passage.exchange.response := by
  refine h.bind fun r hr => ?_
  obtain ⟨outcome, p⟩ := r
  cases outcome with
  | ok | error => exact hr

theorem keepsQuiet_present (hnext : KeepsQuiet next) : KeepsQuiet (present next) := by
  intro p h
  unfold present
  cases p.context.props with
  | none => exact every_refuse h (by decide) _
  | some props => exact every_finish (hnext _ (h.showProps _ _))

theorem every_afterWrite (hnext : KeepsQuiet next) {p : Passage}
    (h : Quiet p.exchange.response) {result : Store.WriteResult}
    (hs : result.status ≠ .unauthorized) :
    (afterWrite next p result).Every FairAnswer fun r => Quiet r.passage.exchange.response := by
  have hrecord : Quiet (p.record result).exchange.response := h.setEtag _
  simp only [afterWrite]
  split
  · exact every_refuse hrecord (by decide) _
  · split
    · exact every_refuse hrecord hs _
    · exact fun _ _ => every_finish (hnext _ (hrecord.acknowledge hs))

theorem keepsQuiet_write (mode : WriteMode) (hnext : KeepsQuiet next) :
    KeepsQuiet (write mode next) := by
  intro p h
  unfold write
  cases writableDocument mode p.context with
  | error e => exact every_refuse h (by decide) _
  | ok d =>
    intro answer ha
    match answer with
    | .error e => exact h
    | .ok result => exact every_afterWrite hnext h ha

theorem keepsQuiet_dispatch : KeepsQuiet (dispatch Task.stage) := by
  intro p h
  unfold dispatch
  cases Task.of? p.context.resource p.context.verb with
  | none => exact every_refuse h (by decide) _
  | some task =>
    cases task with
    | replace => exact keepsQuiet_write .replace keepsQuiet_stop p h
    | merge => exact keepsQuiet_write .merge keepsQuiet_stop p h
    | present => exact keepsQuiet_present keepsQuiet_stop p h

theorem keepsQuiet_lookup (hnext : KeepsQuiet next) : KeepsQuiet (lookup next) := by
  intro p h
  unfold lookup
  split
  · exact hnext p h
  · refine (Program.Every.trivial _).bind fun read _ => ?_
    match read with
    | .error e => exact h
    | .ok props => exact hnext _ h

theorem keepsQuiet_proceed (hnext : KeepsQuiet next) {p : Passage}
    (h : Quiet p.exchange.response) (read : Except BodyError Content) :
    (proceed next p read).Every FairAnswer fun r => Quiet r.passage.exchange.response := by
  match read with
  | .ok content => exact hnext _ h
  | .error e =>
    cases e with
    | storage reason => exact h
    | _ => exact every_refuse h (by simp only [BodyError.status]; decide) _

theorem keepsQuiet_intake (reading : BodyReading) (hnext : KeepsQuiet next) :
    KeepsQuiet (intake reading next) := by
  intro p h
  have hread : Quiet (afterReading p).response := by
    unfold afterReading
    split <;> exact h
  unfold intake
  split
  · exact hnext p h
  · exact hnext p h
  · exact hnext p h
  · refine (Program.Every.trivial _).bind fun (read, context) _ => ?_
    match read with
    | .error e => exact keepsQuiet_proceed hnext hread _
    | .ok content => exact keepsQuiet_proceed hnext hread _

/-- No stage after admission asks for credentials. -/
theorem keepsQuiet_afterAdmission (reading : BodyReading) : KeepsQuiet (afterAdmission reading) :=
  keepsQuiet_intake reading (keepsQuiet_lookup keepsQuiet_dispatch)

end DocumentGateway.Flow
