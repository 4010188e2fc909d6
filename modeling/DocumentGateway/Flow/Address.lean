import DocumentGateway.Text.Cut
import DocumentGateway.Text.Percent
import DocumentGateway.Text.Utf8

/-!
# Addresses

A path is cut at its slashes into segments, empty ones being skipped. The first names a database,
the second a collection or a files bucket, the third a document or a file. Each segment is unescaped
on its own, so that an escaped slash does not cut; one that does not unescape to well-formed text
stays as it was sent.
-/

namespace DocumentGateway.Flow

/-- What a path addresses. -/
inductive Resource where
  | root
  | db
  | collection
  | document
  | filesBucket
  | file
  | invalid
  deriving DecidableEq, Repr

/-- The text that a segment stands for. -/
def decodeSegment (segment : List Char) : String :=
  let sent := String.ofList segment
  (Text.Utf8.decodeText? (Text.Percent.decode (Text.Utf8.encode sent))).getD sent

/-- The segments of a path. -/
def segments (path : String) : List String :=
  ((Text.splitAll (· = '/') path.toList).filter fun s => !s.isEmpty).map decodeSegment

/-- A path with given segments. -/
def joinPath : List String → String
  | [] => "/"
  | segments => String.ofList (segments.flatMap fun s => '/' :: s.toList)

/-- Whether a second segment names a files bucket. -/
def isFilesBucket (name : String) : Bool := ".files".toList.isSuffixOf name.toList

/-- What the segments of a path address. -/
def Resource.ofSegments : List String → Resource
  | [] => .root
  | [_] => .db
  | [_, name] => if isFilesBucket name then .filesBucket else .collection
  | [_, name, _] => if isFilesBucket name then .file else .document
  | _ => .invalid

end DocumentGateway.Flow
