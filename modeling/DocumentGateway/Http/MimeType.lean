import DocumentGateway.Text.Bytes

/-!
# Media types with parameters

The value of a `Content-Type` header: a type, a subtype perhaps with a suffix after a plus sign, and
parameters after semicolons, each a name and a value that is a token or stands in quotes.
-/

namespace DocumentGateway.Http

/-- A media type with its parameters. -/
structure MimeType where
  /-- The type, in lower case. -/
  type : String
  /-- The subtype without its suffix, in lower case. -/
  subtype : String
  /-- The names, in lower case, and the values of the parameters. -/
  params : List (String × String)
  deriving DecidableEq, Repr

namespace MimeType

/-- Drop the last plus sign that does not come first, with what follows it. -/
def dropSuffix : List Char → List Char
  | [] => []
  | c :: rest =>
    if rest.contains '+' then
      c :: ((rest.reverse.dropWhile (· != '+')).drop 1).reverse
    else c :: rest

/-- What a quoted value may hold besides its end. -/
def isQuotedChar (c : Char) : Bool := 0x20 ≤ c.toNat && c.toNat != 0x7F

/-- Read a quoted value after its opening quote; it has at least one character, which may be a
quote. What follows it is blanks up to a semicolon or the end. -/
def quoted? : List Char → Option (String × List Char)
  | [] => none
  | first :: rest =>
    let value := first :: rest.takeWhile (· != '"')
    match rest.dropWhile (· != '"') with
    | _ :: after =>
      if !value.all isQuotedChar then none
      else match after.dropWhile (· = ' ') with
        | [] => some (String.ofList value, [])
        | ';' :: more => some (String.ofList value, more)
        | _ => none
    | [] => none

/-- Read a value that is a token, up to a semicolon or the end; only at the end may it be empty. -/
def plain? (s : List Char) : Option (String × List Char) :=
  let value := s.takeWhile Text.isTokenChar
  match s.dropWhile Text.isTokenChar with
  | [] => some (String.ofList value, [])
  | ';' :: more => if value.isEmpty then none else some (String.ofList value, more)
  | _ => none

/-- Read the parameters. A budget of the length of what is left suffices, as each takes some. -/
def params? : Nat → List Char → Option (List (String × String))
  | 0, s => if s.isEmpty then some [] else none
  | budget + 1, s =>
    match s.dropWhile (· = ' ') with
    | [] => some []
    | s =>
      let name := s.takeWhile Text.isTokenChar
      match s.dropWhile Text.isTokenChar with
      | '=' :: rest =>
        if name.isEmpty then none
        else
          let value := match rest with
            | '"' :: rest => quoted? rest
            | rest => plain? rest
          value.bind fun (value, more) =>
            (params? budget more).map ((Text.lower (String.ofList name), value) :: ·)
      | _ => none

/-- The media type that a text gives. -/
def ofText? (text : String) : Option MimeType :=
  let s := text.toList
  let type := s.takeWhile Text.isTokenChar
  match s.dropWhile Text.isTokenChar with
  | '/' :: rest =>
    let subtype := rest.takeWhile Text.isTokenChar
    let make := fun params =>
      (⟨Text.lower (String.ofList type), Text.lower (String.ofList (dropSuffix subtype)), params⟩ :
        MimeType)
    if type.isEmpty then none
    else match rest.dropWhile Text.isTokenChar with
      | [] => some (make [])
      | ';' :: more => if subtype.isEmpty then none else (params? more.length more).map make
      | _ => none
  | _ => none

/-- The value of the first parameter with a name. -/
def param? (m : MimeType) (name : String) : Option String := m.params.lookup name

/-- The boundary of a multipart form, if the text names that media type with one. -/
def formBoundary? (text : String) : Option String :=
  (ofText? text).bind fun m =>
    if m.type = "multipart" && m.subtype = "form-data" then m.param? "boundary" else none

end MimeType

end DocumentGateway.Http
