import DocumentGateway.Flow.Chain

/-!
# What stages see of a request's head

After admission, all that is still read of the head of a request are its content types; whatever
else is needed has been noted in the context. So a request with another head that has the same
content types is handled by the same calls and answered by the same response. This is said as an
equation for each stage: to change the head before a stage is to change it after.
-/

namespace DocumentGateway

namespace Http.Exchange

variable (x : Exchange) (head : RequestHead)

/-- The exchange of a request with another head. -/
def withHead : Exchange := { x with request := head }

@[simp] theorem amend_withHead (change : Response → Response) :
    (x.withHead head).amend change = (x.amend change).withHead head := by
  by_cases h : x.ended = true <;> simp [amend, withHead, h]

@[simp] theorem conclude_withHead (status : Status) (message : String) :
    (x.withHead head).conclude status message = (x.conclude status message).withHead head := by
  simp only [conclude, setStatus, send, sendAs, amend_withHead]
  rfl

end Http.Exchange

namespace Flow

open Http (RequestHead)

/-- Two heads have the same content types. -/
def SameTypes (head head' : RequestHead) : Prop :=
  head.headers.values "content-type" = head'.headers.values "content-type"

/-- A passage whose request has another head. -/
def Passage.withHead (p : Passage) (head : RequestHead) : Passage :=
  { p with exchange := p.exchange.withHead head }

/-- A result whose request has another head. -/
def Result.withHead (r : Result) (head : RequestHead) : Result :=
  { r with passage := r.passage.withHead head }

variable {head : RequestHead} {next : Stage}

@[simp] theorem context_withHead (p : Passage) : (p.withHead head).context = p.context := rfl

@[simp] theorem exchange_withHead (p : Passage) :
    (p.withHead head).exchange = p.exchange.withHead head := rfl

@[simp] theorem finish_withHead (r : Result) :
    (r.withHead head).finish = r.finish.withHead head := by
  obtain ⟨outcome, p⟩ := r
  cases outcome with
  | ok | error => rfl

theorem refuse_withHead (p : Passage) (status : Http.Status) (message : String) :
    (p.withHead head).refuse status message =
      (p.refuse status message).bind fun r => .done (r.withHead head) := by
  simp only [Passage.refuse, exchange_withHead, Http.Exchange.conclude_withHead]
  rfl

/-- A stage handles a request with another head of the same content types as it handles the request,
and leaves the other head. -/
def Blind (head : RequestHead) (stage : Stage) : Prop :=
  ∀ p : Passage, SameTypes p.exchange.request head →
    stage (p.withHead head) = (stage p).bind fun r => .done (r.withHead head)

theorem blind_stop : Blind head Stage.stop := fun _ _ => rfl

/-- After a stage that is blind the exchange may be ended. -/
theorem Blind.finish (hnext : Blind head next) {p : Passage}
    (h : SameTypes p.exchange.request head) :
    ((next (p.withHead head)).bind fun r => .done r.finish) =
      ((next p).bind fun r => .done r.finish).bind fun r => .done (r.withHead head) := by
  rw [hnext p h, Program.bind_assoc, Program.bind_assoc]
  simp only [Program.done_bind, finish_withHead]

section Answering

variable (x : Http.Exchange) (p : Passage)

@[simp] theorem setEtag_withHead (etag : Option String) :
    setEtag (x.withHead head) etag = (setEtag x etag).withHead head := by
  simp only [setEtag, Http.Exchange.setHeader, Http.Exchange.amend_withHead]
  split <;> rfl

@[simp] theorem request_setEtag (etag : Option String) :
    (setEtag x etag).request = x.request := by
  unfold setEtag
  split
  · exact Http.Exchange.request_amend _ _
  · rfl

@[simp] theorem showProps_withHead (path : String) (props : Document) :
    showProps (x.withHead head) path props = (showProps x path props).withHead head := by
  simp only [showProps, Http.Exchange.setStatus, Http.Exchange.send, Http.Exchange.sendAs,
    setEtag_withHead, Http.Exchange.amend_withHead]

@[simp] theorem request_showProps (path : String) (props : Document) :
    (showProps x path props).request = x.request := by
  simp only [showProps, Http.Exchange.setStatus, Http.Exchange.send, Http.Exchange.sendAs,
    Http.Exchange.request_amend, request_setEtag]

@[simp] theorem record_withHead (result : Store.WriteResult) :
    (p.withHead head).record result = (p.record result).withHead head := by
  simp only [Passage.record, Passage.withHead, setEtag_withHead]

@[simp] theorem acknowledge_withHead (status : Http.Status) :
    (p.withHead head).acknowledge status = (p.acknowledge status).withHead head := by
  simp only [Passage.acknowledge, sendWarnings, Http.Exchange.setStatus, Http.Exchange.send,
    Http.Exchange.sendAs, Http.Exchange.amend_withHead, Passage.withHead]
  split <;> rfl

@[simp] theorem request_acknowledge (status : Http.Status) :
    (p.acknowledge status).exchange.request = p.exchange.request := by
  simp only [Passage.acknowledge, sendWarnings, Http.Exchange.setStatus, Http.Exchange.send,
    Http.Exchange.sendAs]
  split <;> simp only [Http.Exchange.request_amend]

end Answering

theorem blind_present (hnext : Blind head next) : Blind head (present next) := by
  intro p h
  simp only [present, context_withHead, exchange_withHead, showProps_withHead]
  cases p.context.props with
  | none => exact refuse_withHead _ _ _
  | some props =>
    have htypes : SameTypes (showProps p.exchange p.context.path props).request head := by
      rwa [request_showProps]
    let shown : Passage := { p with exchange := showProps p.exchange p.context.path props }
    exact hnext.finish (p := shown) htypes

theorem afterWrite_withHead (hnext : Blind head next) {p : Passage}
    (h : SameTypes p.exchange.request head) (result : Store.WriteResult) :
    afterWrite next (p.withHead head) result =
      (afterWrite next p result).bind fun r => .done (r.withHead head) := by
  have hrecord : (p.record result).exchange.request = p.exchange.request := request_setEtag _ _
  have htypes : SameTypes ((p.record result).acknowledge result.status).exchange.request head := by
    rwa [request_acknowledge, hrecord]
  simp only [afterWrite, record_withHead]
  split
  · exact refuse_withHead _ _ _
  · split
    · exact refuse_withHead _ _ _
    · rw [acknowledge_withHead, hnext.finish htypes]
      rfl

theorem blind_write (mode : WriteMode) (hnext : Blind head next) :
    Blind head (write mode next) := by
  intro p h
  simp only [write, context_withHead]
  cases writableDocument mode p.context with
  | error e => exact refuse_withHead _ _ _
  | ok d =>
    refine congrArg (Program.call _) (funext fun answer => ?_)
    match answer with
    | .error e => rfl
    | .ok result => exact afterWrite_withHead hnext h result

theorem blind_dispatch : Blind head (dispatch Task.stage) := by
  intro p h
  simp only [dispatch, context_withHead]
  cases Task.of? p.context.resource p.context.verb with
  | none => exact refuse_withHead _ _ _
  | some task =>
    cases task with
    | replace => exact blind_write .replace blind_stop p h
    | merge => exact blind_write .merge blind_stop p h
    | present => exact blind_present blind_stop p h

theorem blind_lookup (hnext : Blind head next) : Blind head (lookup next) := by
  intro p h
  unfold lookup
  by_cases hdb : p.context.db.isEmpty = true
  · have hdb' : (p.withHead head).context.db.isEmpty = true := hdb
    rw [if_pos hdb, if_pos hdb']
    exact hnext p h
  · have hdb' : ¬(p.withHead head).context.db.isEmpty = true := hdb
    rw [if_neg hdb, if_neg hdb', Program.bind_assoc]
    refine congrArg (Program.bind _) (funext fun read => ?_)
    match read with
    | .error e => rfl
    | .ok props => exact hnext { p with context := { p.context with props := props } } h

section Reading

variable {p : Passage}

theorem contentTypes_withHead (h : SameTypes p.exchange.request head) :
    (p.exchange.withHead head).contentTypes = p.exchange.contentTypes :=
  congrArg (List.filterMap Http.HeaderValue.text?) h.symm

theorem formBoundary?_withHead (h : SameTypes p.exchange.request head) :
    formBoundary? (p.exchange.withHead head).request.headers =
      formBoundary? p.exchange.request.headers :=
  congrArg (fun values : List Http.HeaderValue =>
    (values.head?.bind Http.HeaderValue.text?).bind Http.MimeType.formBoundary?) h.symm

/-- The content of a request with another head is read alike. -/
theorem readContent_withHead (reading : BodyReading) (h : SameTypes p.exchange.request head) :
    readContent reading (p.withHead head) = readContent reading p := by
  simp only [readContent, readUpload, multipartForm, context_withHead, exchange_withHead,
    contentTypes_withHead h, formBoundary?_withHead h]
  rfl

theorem afterReading_withHead (h : SameTypes p.exchange.request head) :
    afterReading (p.withHead head) = (afterReading p).withHead head := by
  have htakes : takesBody (p.withHead head) = takesBody p := by
    simp only [takesBody, context_withHead, exchange_withHead, contentTypes_withHead h]
  rw [afterReading, afterReading, htakes]
  cases takesBody p with
  | true | false => rfl

theorem request_afterReading (p : Passage) :
    (afterReading p).request = p.exchange.request := by
  unfold afterReading
  split <;> rfl

end Reading

theorem proceed_withHead (hnext : Blind head next) {p : Passage}
    (h : SameTypes p.exchange.request head) (read : Except BodyError Content) :
    proceed next (p.withHead head) read =
      (proceed next p read).bind fun r => .done (r.withHead head) := by
  match read with
  | .ok content => exact hnext { p with context := { p.context with content := content } } h
  | .error e =>
    cases e with
    | storage reason => rfl
    | _ => exact refuse_withHead _ _ _

theorem blind_intake (reading : BodyReading) (hnext : Blind head next) :
    Blind head (intake reading next) := by
  intro p h
  have hread : SameTypes (afterReading p).request head := by
    rwa [request_afterReading]
  simp only [intake, context_withHead, readContent_withHead reading h, afterReading_withHead h]
  split
  · exact hnext p h
  · exact hnext p h
  · exact hnext p h
  · rw [Program.bind_assoc]
    refine congrArg (Program.bind _) (funext fun (read, context) => ?_)
    match read with
    | .error e =>
      let taken : Passage := ⟨afterReading p, context⟩
      exact proceed_withHead hnext (p := taken) hread _
    | .ok content =>
      let taken : Passage := ⟨afterReading p, (settle content context).2⟩
      exact proceed_withHead hnext (p := taken) hread _

/-- All stages after admission are blind. -/
theorem blind_afterAdmission (reading : BodyReading) : Blind head (afterAdmission reading) :=
  blind_intake reading (blind_lookup blind_dispatch)

end Flow

end DocumentGateway
