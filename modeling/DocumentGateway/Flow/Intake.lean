import DocumentGateway.Document.ReservedKey
import DocumentGateway.Flow.Program
import DocumentGateway.Http.MimeType
import DocumentGateway.Upload.Properties

/-!
# Taking in content

The body of a request becomes its content before anything else looks at it. Requests that put a file
or post to a files bucket bring a form, all others a JSON document or several; requests that bring
nothing by their method are left alone. Identifiers are checked and reserved keys dropped. The first
fault is answered at once, except that a file which cannot be stored is a failure.
-/

namespace DocumentGateway.Flow

/-- How many bytes a body may have. -/
structure BodyLimits where
  /-- The limit of JSON bodies and simple forms. -/
  body : Nat
  /-- The limit of multipart forms. -/
  form : Nat
  deriving DecidableEq, Repr

/-- How bodies are read. -/
structure BodyReading extends BodyLimits where
  /-- What tells the media types of files. -/
  sniff : Upload.Sniffer

/-- The media types of JSON documents. -/
def jsonTypes : List String := [Http.MediaType.hal.name, Http.MediaType.json.name]

/-- The media type of multipart forms. -/
def multipartType : String := "multipart/form-data"

/-- The media type of simple forms. -/
def simpleFormType : String := "application/x-www-form-urlencoded"

/-- Whether one of some content types begins with one of some media types. -/
def hasMediaType (contentTypes allowed : List String) : Bool :=
  contentTypes.any fun sent => allowed.any fun type => type.toList.isPrefixOf sent.toList

/-- The documents among some values, if all are documents. -/
def objects? : List Json.Value → Option (List Document)
  | [] => some []
  | value :: rest => do
    let first ← Content.object? value
    let others ← objects? rest
    return first :: others

/-- The content that a JSON text gives. -/
def contentOfJson (text : Bytes) : Except BodyError Content :=
  match (Text.Utf8.decode? text).bind Json.read? with
  | some (.object fields) => .ok (.single fields)
  | some (.array items) =>
    match objects? items with
    | some documents => .ok (.many documents)
    | none => .error .notAnObject
  | _ => .error .invalidJson

/-- The content of a request that brings JSON documents. The body is read before its type is looked
at, and no type is needed for an empty one. -/
def jsonContent (limit : Nat) (contentTypes : List String) (body : Http.Body) :
    Except BodyError Content :=
  match body.read? limit with
  | none => .error .unreadableBody
  | some [] => .ok .absent
  | some text =>
    if !hasMediaType contentTypes jsonTypes then .error .unsupportedJsonContentType
    else if text.all Text.isSpaceByte then .ok .absent
    else contentOfJson text

/-- The fault of a simple form: it holds no file, but its properties are looked at before that. -/
def simpleFormFault (limit : Nat) (body : Option Http.Body) : BodyError :=
  match body.bind (·.read? limit) with
  | none => .unreadableForm
  | some text =>
    match Upload.parseProperties (Http.Form.value? text Upload.propertiesField) with
    | .error e => e
    | .ok _ => .missingFile

/-- The boundary that the first content type tells. -/
def formBoundary? (headers : Http.Headers) : Option String :=
  ((headers.first? "content-type").bind Http.HeaderValue.text?).bind Http.MimeType.formBoundary?

/-- The multipart form that a request brings. All of it has to arrive before its parts are looked
at. -/
def multipartForm (limit : Nat) (headers : Http.Headers) (body : Option Http.Body) :
    Except BodyError Http.Multipart.Form :=
  match body with
  | none => .error .unreadableForm
  | some body =>
    match formBoundary? headers with
    | none => .error .noFormParser
    | some boundary =>
      match body.read? limit with
      | none => .error .unreadableForm
      | some text => .ok (Http.Multipart.read (Text.Utf8.encode boundary) text)

/-- Go on if there is room for a file. -/
def withRoom {α : Type} (rest : Program (Except BodyError α)) : Program (Except BodyError α) :=
  .call .reserve fun
    | .error reason => .done (.error (.storage reason))
    | .ok () => rest

/-- Gather what counts among the parts of a form. The file is made room for before its data is read,
also where the form breaks within it. -/
def gatherParts (ending : Http.Multipart.Ending) :
    List Http.Multipart.Part → Upload.Gathered → Program (Except BodyError Upload.Gathered)
  | [], g =>
    match ending with
    | .closed => .done (.ok g)
    | .broken opened =>
      if opened.any g.awaitsFile then withRoom (.done (.error .unreadableForm))
      else .done (.error .unreadableForm)
  | part :: rest, g =>
    if g.awaitsFile part.head then withRoom (gatherParts ending rest (g.store part))
    else if g.awaitsProperties part.head then gatherParts ending rest (g.note part)
    else gatherParts ending rest g

/-- The properties and the file of a form. -/
def storeUpload (sniff : Upload.Sniffer) (form : Http.Multipart.Form) :
    Program (Except BodyError (Document × Bytes)) :=
  (gatherParts form.ending form.parts .empty).bind fun read => .done (read.bind (·.complete sniff))

/-- The properties and the file that a request brings. -/
def readUpload (reading : BodyReading) (x : Http.Exchange) :
    Program (Except BodyError (Document × Bytes)) :=
  if hasMediaType x.contentTypes [multipartType] then
    match multipartForm reading.form x.request.headers x.body with
    | .error e => .done (.error e)
    | .ok form => storeUpload reading.sniff form
  else if hasMediaType x.contentTypes [simpleFormType] then
    .done (.error (simpleFormFault reading.body x.body))
  else .done (.error .unsupportedFormContentType)

/-- Whether the request of a context brings a file. -/
def bringsFile (c : Context) : Bool :=
  match c.verb, c.resource with
  | .put, .file | .post, .filesBucket => true
  | _, _ => false

/-- Whether reading the content of a request takes its body: a form of a type that cannot be read is
left where it is. -/
def takesBody (p : Passage) : Bool :=
  !bringsFile p.context || hasMediaType p.exchange.contentTypes [multipartType, simpleFormType]

/-- The content that a request brings, and the context with its file. -/
def readContent (reading : BodyReading) (p : Passage) :
    Program (Except BodyError Content × Context) :=
  if bringsFile p.context then
    (readUpload reading p.exchange).bind fun
      | .error e => .done (.error e, p.context)
      | .ok (properties, file) =>
        .done (.ok (.single properties), { p.context with file := some file })
  else
    match p.exchange.body with
    | none => .done (.ok .absent, p.context)
    | some body => .done (jsonContent reading.body p.exchange.contentTypes body, p.context)

/-- Check the identifiers of some documents, the first fault counting. -/
def checkIds : List Document → Except BodyError Unit
  | [] => .ok ()
  | d :: rest =>
    match d.checkId with
    | .error e => .error (.unsupportedId e)
    | .ok () => checkIds rest

/-- Check the content of a request and drop its reserved keys, with a warning for each. A post may
not bring reserved identifiers. -/
def settle (content : Content) (c : Context) : Except BodyError Content × Context :=
  match checkIds content.documents with
  | .error e => (.error e, c)
  | .ok () =>
    let c := { c with warnings := c.warnings ++ content.reservedKeyWarnings }
    let content := content.withoutReserved
    match c.verb, content.reservedId? with
    | .post, some id => (.error (.reservedId id), c)
    | _, _ => (.ok content, c)

/-- Take in what has been read: go on with the content, or answer the fault. -/
def proceed (next : Stage) (p : Passage) : Except BodyError Content → Program Result
  | .ok content => next { p with context := { p.context with content := content } }
  | .error (.storage reason) => .done ⟨.error (.io reason), p⟩
  | .error e => p.refuse e.status e.message

/-- The exchange after the body has been read. -/
def afterReading (p : Passage) : Http.Exchange :=
  if takesBody p then p.exchange.takeBody.2 else p.exchange

/-- Let requests go on with their content. -/
def intake (reading : BodyReading) (next : Stage) : Stage := fun p =>
  match p.context.verb with
  | .get | .options | .delete => next p
  | _ =>
    (readContent reading p).bind fun (read, context) =>
      match read with
      | .error e => proceed next ⟨afterReading p, context⟩ (.error e)
      | .ok content =>
        proceed next ⟨afterReading p, (settle content context).2⟩ (settle content context).1

end DocumentGateway.Flow
