import DocumentGateway.Text.Cut
import DocumentGateway.Text.Utf8

/-!
# Media types of files

A stand-in for the library that tells the media type of a file from its first bytes, with the types
the command line knows. The signatures are tried in order. The library itself is the parameter
`Upload.Sniffer` of the theory, and nothing else depends on these types.
-/

namespace DocumentGateway.Main

/-- How many bytes of a file are looked at. -/
def sniffLength : Nat := 8192

/-- A media type and how its files begin. -/
structure Signature where
  /-- The media type. -/
  mediaType : String
  /-- Whether some bytes begin such a file. -/
  matches? : Bytes → Bool

/-- A signature that is a fixed beginning. -/
def Signature.ofStart (mediaType : String) (start : Bytes) : Signature :=
  ⟨mediaType, fun bytes => start.isPrefixOf bytes⟩

/-- A signature that is one of several fixed beginnings. -/
def Signature.ofStarts (mediaType : String) (starts : List Bytes) : Signature :=
  ⟨mediaType, fun bytes => starts.any fun start => start.isPrefixOf bytes⟩

/-- What follows a text at the beginning, whatever the case of its letters. -/
def afterText? (text : String) (bytes : Bytes) : Option Bytes :=
  Text.dropStart? ((Text.Utf8.encode text).map Text.lowerByte) (bytes.map Text.lowerByte)

/-- Drop byte order marks of UTF-8 and UTF-16 at the beginning. -/
def dropMarks : Bytes → Bytes
  | 0xEF :: 0xBB :: 0xBF :: rest => dropMarks rest
  | 0xFE :: 0xFF :: rest => dropMarks rest
  | 0xFF :: 0xFE :: rest => dropMarks rest
  | bytes => bytes

/-- How HTML documents begin: with their declaration, a comment or one of some tags. -/
def htmlStarts : List String :=
  ["<!DOCTYPE html", "<html", "<head", "<script", "<iframe", "<h1", "<div", "<font", "<table", "<a",
    "<style", "<title", "<b", "<body", "<br", "<p", "<!--"]

/-- Whether some bytes begin an HTML document: after blanks, with one of its beginnings and then a
blank or the bracket that closes it. -/
def isHtml (bytes : Bytes) : Bool :=
  let bytes := bytes.dropWhile Text.isSpaceByte
  htmlStarts.any fun start =>
    match afterText? start bytes with
    | some (b :: _) => b == 0x20 || b == 0x3E
    | _ => false

/-- Whether some bytes begin an XML document: after blanks and then byte order marks, with its
declaration. -/
def isXml (bytes : Bytes) : Bool :=
  (afterText? "<?xml" (dropMarks (bytes.dropWhile Text.isSpaceByte))).isSome

/-- The signatures, in the order they are tried. -/
def signatures : List Signature :=
  [.ofStart "application/wasm" [0x00, 0x61, 0x73, 0x6D, 0x01, 0x00, 0x00, 0x00],
    ⟨"application/x-executable",
      fun bytes => 52 < bytes.length && [0x7F, 0x45, 0x4C, 0x46].isPrefixOf bytes⟩,
    .ofStart "image/jpeg" [0xFF, 0xD8, 0xFF],
    .ofStart "image/png" [0x89, 0x50, 0x4E, 0x47],
    .ofStart "image/gif" [0x47, 0x49, 0x46],
    .ofStart "image/bmp" [0x42, 0x4D],
    .ofStarts "application/zip"
      [[0x50, 0x4B, 0x03, 0x04], [0x50, 0x4B, 0x05, 0x06], [0x50, 0x4B, 0x07, 0x08]],
    .ofStart "application/gzip" [0x1F, 0x8B, 0x08],
    .ofStart "application/x-bzip2" [0x42, 0x5A, 0x68],
    .ofStart "application/x-7z-compressed" [0x37, 0x7A, 0xBC, 0xAF, 0x27, 0x1C],
    .ofStart "application/pdf" [0x25, 0x50, 0x44, 0x46],
    ⟨"text/html", isHtml⟩,
    ⟨"text/xml", isXml⟩,
    ⟨"text/x-shellscript", fun bytes => 2 < bytes.length && [0x23, 0x21].isPrefixOf bytes⟩]

/-- The media type of a file, if a signature matches. -/
def mediaType? (file : Bytes) : Option String :=
  let start := file.take sniffLength
  (signatures.find? fun s => s.matches? start).map (·.mediaType)

end DocumentGateway.Main
