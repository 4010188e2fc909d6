import DocumentGateway.Http.Header
import DocumentGateway.Http.MimeType
import DocumentGateway.Text.Charset.Label
import DocumentGateway.Text.Marked

/-!
# Multipart forms

A form is cut into parts at lines that hold two hyphens and the boundary. What precedes the first
boundary is skipped, and what follows the one with two more hyphens is ignored. A part has header
lines, an empty line, and data up to the next boundary line. Where the form breaks off or does not
keep to this, the parts before are still known, and perhaps the head of the part in which it breaks.
-/

namespace DocumentGateway.Http.Multipart

/-- What the header of a part says about it. -/
structure PartHead where
  /-- The name of the form's field. -/
  name : Option String
  /-- The name of the file, if the part is one. -/
  filename : Option String
  /-- The charset of its text, if it is known. -/
  charset : Option Text.Charset
  deriving DecidableEq, Repr

/-- A part is a file if it has a filename, even an empty one. -/
def PartHead.isFile (h : PartHead) : Bool := h.filename.isSome

/-- A part of a form. -/
structure Part where
  /-- What its header says. -/
  head : PartHead
  /-- Its data, in the pieces in which they come. -/
  chunks : List Bytes
  deriving DecidableEq

/-- The data of a part as a whole. -/
def Part.data (p : Part) : Bytes := p.chunks.flatten

/-- The text of a part, in UTF-8 unless it is said to be in another charset. -/
def Part.text (p : Part) : String := (p.head.charset.getD .utf8).decodeMarked p.data

/-- How a form ends. -/
inductive Ending where
  /-- With the last boundary. -/
  | closed
  /-- Too early, or out of order; `opened` is the part whose data was being read. -/
  | broken (opened : Option PartHead)
  deriving DecidableEq

/-- A form as it is read. -/
structure Form where
  /-- The parts read completely. -/
  parts : List Part
  /-- How the form ends. -/
  ending : Ending
  deriving DecidableEq

/-- The end of a line. -/
def lineEnd : Bytes := [0x0D, 0x0A]

/-- Two hyphens. -/
def hyphens : Bytes := [0x2D, 0x2D]

/-- How many header lines a part may have. -/
def maxHeaders : Nat := 32

/-- Whether a byte may stand in the name of a header. -/
def isNameByte (b : UInt8) : Bool := Text.isTokenChar (Char.ofNat b.toNat)

/-- Read header lines up to the empty line, which may also end in a bare line feed; `budget` is how
many may still come. The names are given in lower case. -/
def headers? : Nat → Bytes → Option (List (String × Bytes))
  | _, 0x0D :: 0x0A :: _ => some []
  | _, 0x0A :: _ => some []
  | 0, _ => none
  | budget + 1, s =>
    let name := s.takeWhile isNameByte
    match s.dropWhile isNameByte with
    | 0x3A :: rest =>
      let rest := rest.dropWhile Text.isBlankByte
      let value := Text.trimEnd Text.isBlankByte (rest.takeWhile isValueByte)
      let more := match rest.dropWhile isValueByte with
        | 0x0D :: 0x0A :: more => some more
        | 0x0A :: more => some more
        | _ => none
      if name.isEmpty then none
      else more.bind fun more =>
        (headers? budget more).map ((Text.lower (String.ofList (Text.ofCodes name)), value) :: ·)
    | _ => none

/-- Read a quoted value after its opening quote: up to a quote that does not follow a backslash. -/
def quotedValue? (afterBackslash : Bool) : Bytes → Option Bytes
  | [] => none
  | b :: rest =>
    if b = 0x22 && !afterBackslash then some []
    else (quotedValue? (b == 0x5C) rest).map (b :: ·)

/-- Put a quote for each backslash with a quote. -/
def unescapeQuotes : Bytes → Bytes
  | [] => []
  | [b] => [b]
  | b :: c :: rest =>
    if b = 0x5C && c = 0x22 then c :: unescapeQuotes rest else b :: unescapeQuotes (c :: rest)

/-- The value after the name of an attribute: quoted, or up to a semicolon or a space. -/
def attributeValue? (s : Bytes) : Option Bytes :=
  match s.dropWhile Text.isSpaceByte with
  | 0x3D :: rest =>
    match rest.dropWhile Text.isSpaceByte with
    | 0x22 :: rest => (quotedValue? false rest).map unescapeQuotes
    | rest => some (rest.takeWhile fun b => b != 0x3B && b != 0x20)
  | _ => none

/-- The text of an attribute of a disposition: the first occurrence of its name that stands at the
beginning or after a blank or a semicolon counts, even if no value follows. A budget of the length
of the disposition suffices. -/
def attribute? (name : Bytes) : Nat → Bytes → Option String
  | 0, _ => none
  | budget + 1, s =>
    match Text.breakOn name s with
    | none => none
    | some (before, after) =>
      match before.getLast? with
      | some b =>
        if Text.isSpaceByte b || b == 0x3B then
          (attributeValue? after).bind Text.Utf8.decodeText?
        else attribute? name budget after
      | none => (attributeValue? after).bind Text.Utf8.decodeText?

/-- The charset that the value of a `Content-Type` header tells by a label. -/
def charset? (value : Bytes) : Option Text.Charset := do
  let text ← (HeaderValue.ofBytes? value).bind HeaderValue.text?
  let type ← MimeType.ofText? text
  let label ← type.param? "charset"
  Text.Charset.ofLabel? label

/-- What the headers of a part say about it; of a repeated header the last counts. -/
def PartHead.ofHeaders (headers : List (String × Bytes)) : PartHead :=
  let last? := fun name => headers.reverse.lookup name
  let told := fun name =>
    (last? "content-disposition").bind fun s => attribute? (Text.Utf8.encode name) s.length s
  { name := told "name"
    filename := told "filename"
    charset := (last? "content-type").bind charset? }

/-- The form without parts that breaks. -/
def broken (opened : Option PartHead) : Form := ⟨[], .broken opened⟩

/-- Read what follows a boundary; a budget of the length of it suffices, as each part takes some. -/
def readParts (boundary : Bytes) : Nat → Bytes → Form
  | 0, _ => broken none
  | budget + 1, s =>
    match s with
    | 0x2D :: 0x2D :: _ => ⟨[], .closed⟩
    | s =>
      match s.dropWhile Text.isBlankByte with
      | 0x0D :: 0x0A :: s =>
        match Text.breakOn (lineEnd ++ lineEnd) s with
        | none => broken none
        | some (block, s) =>
          match headers? maxHeaders (block ++ lineEnd ++ lineEnd) with
          | none => broken none
          | some headers =>
            let head := PartHead.ofHeaders headers
            match Text.breakOn (lineEnd ++ hyphens ++ boundary) s with
            | none => broken (some head)
            | some (data, s) =>
              let rest := readParts boundary budget s
              ⟨⟨head, [data]⟩ :: rest.parts, rest.ending⟩
      | _ => broken none

/-- Read a form. -/
def read (boundary body : Bytes) : Form :=
  match Text.breakOn (hyphens ++ boundary) body with
  | none => broken none
  | some (_, s) => readParts boundary (s.length + 1) s

end DocumentGateway.Http.Multipart
