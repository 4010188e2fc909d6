import DocumentGateway.Http.Multipart
import DocumentGateway.Json.Parser
import DocumentGateway.Upload.BodyError

/-!
# Uploads

A form that uploads a file has a part with the file and may have a field with the properties of the
file as a JSON object. The parts are gathered one after the other, and only the first file and the
first such field are kept. The properties are completed with the file's name and media type before
they become the content of the request.
-/

namespace DocumentGateway.Upload

open DocumentGateway.Http.Multipart (Part PartHead)

/-- The field of the properties. -/
def propertiesField : String := "properties"

/-- The key of the file's name. -/
def filenameField : String := "filename"

/-- The key of the file's media type. -/
def contentTypeField : String := "contentType"

/-- The name of a file that nothing names. -/
def defaultFilename : String := "file"

/-- The properties that a field gives; without the field there are none. -/
def parseProperties : Option String → Except BodyError Document
  | none => .ok []
  | some text =>
    match Json.parse? text with
    | some (.object fields) => .ok fields
    | _ => .error .invalidProperties

/-- The name a file gets: that of the properties if it is a string, else that of the form, and the
default in place of an empty or missing one. -/
def chooseFilename (form : Option String) (default : String) (properties : Document) : String :=
  let chosen := match properties.get? filenameField with
    | some (.string name) => some name
    | _ => form
  match chosen with
  | some name => if name.isEmpty then default else name
  | none => default

/-- Put the name of a file into its properties. -/
def putFilename (form : Option String) (default : String) (properties : Document) : Document :=
  properties.insert filenameField (.string (chooseFilename form default properties))

/-- What tells the media type of a file from its bytes, if it knows one. -/
abbrev Sniffer := Bytes → Option String

/-- Put the media type of a file into its properties, unless they tell one or none is known. -/
def putContentType (sniff : Sniffer) (file : Bytes) (properties : Document) : Document :=
  match properties.get? contentTypeField with
  | none | some .null =>
    match sniff file with
    | some type => properties.insert contentTypeField (.string type)
    | none => properties
  | some _ => properties

/-- A file as it has been stored. -/
structure Stored where
  /-- What has been written. -/
  data : Bytes
  /-- The name that the form gives it. -/
  filename : Option String
  deriving DecidableEq

/-- Write some chunks one after the other behind what has been written. -/
def writeChunks (written : Bytes) : List Bytes → Bytes
  | [] => written
  | chunk :: rest => writeChunks (written ++ chunk) rest

/-- What has been gathered from the parts of a form so far. -/
structure Gathered where
  /-- The text of the properties. -/
  properties : Option String
  /-- The file. -/
  file : Option Stored
  deriving DecidableEq

namespace Gathered

/-- Before the first part. -/
def empty : Gathered := ⟨none, none⟩

/-- Whether a part with some head is the file to store. -/
def awaitsFile (g : Gathered) (head : PartHead) : Bool := head.isFile && g.file.isNone

/-- Whether a part with some head is the field for the properties. -/
def awaitsProperties (g : Gathered) (head : PartHead) : Bool :=
  !head.isFile && head.name == some propertiesField && g.properties.isNone

/-- Store the file that a part is. -/
def store (g : Gathered) (part : Part) : Gathered :=
  { g with file := some ⟨writeChunks [] part.chunks, part.head.filename⟩ }

/-- Keep the text of a part as the properties. -/
def note (g : Gathered) (part : Part) : Gathered := { g with properties := some part.text }

/-- The completed properties and the file. Properties that cannot be read count before a file that
is missing. -/
def complete (sniff : Sniffer) (g : Gathered) : Except BodyError (Document × Bytes) := do
  let properties ← parseProperties g.properties
  match g.file with
  | none => .error .missingFile
  | some file =>
    let named := putFilename file.filename defaultFilename properties
    .ok (putContentType sniff file.data named, file.data)

end Gathered

end DocumentGateway.Upload
