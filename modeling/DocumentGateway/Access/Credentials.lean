import DocumentGateway.Http.Header
import DocumentGateway.Text.Base64
import DocumentGateway.Text.Cut

/-!
# Basic credentials

What an `Authorization` header says about the caller. No header, a value without a space and another
scheme than Basic mean that no credentials are offered; a Basic header that cannot be read is a
failed attempt, as is a value that does not count as text.
-/

namespace DocumentGateway.Access

/-- A user's name and password, as the caller presents them. -/
structure Credentials where
  /-- The user's name. -/
  userid : String
  /-- The password. -/
  password : String
  deriving DecidableEq, Repr

namespace Credentials

/-- An attempt that cannot be read. -/
inductive Unreadable where
  /-- The value does not count as text, or its Basic part is not a name and a password. -/
  | malformed
  deriving DecidableEq, Repr

/-- The name and the password around the first colon. -/
def ofPair? (text : List Char) : Option Credentials :=
  (Text.splitFirst (· = ':') text).map fun (userid, password) =>
    ⟨String.ofList userid, String.ofList password⟩

/-- The credentials that the part after the scheme spells: base64 of UTF-8 text. -/
def ofEncoded? (encoded : List Char) : Option Credentials := do
  let bytes ← Text.Base64.decode? (Text.trim (fun c => c = ' ' || c = '\t') encoded)
  let text ← Text.Utf8.decode? bytes
  ofPair? text

/-- The credentials that the value of an `Authorization` header offers. -/
def ofValue (value : Http.HeaderValue) : Except Unreadable (Option Credentials) :=
  match value.text? with
  | none => .error .malformed
  | some text =>
    match Text.splitFirst (· = ' ') text.toList with
    | none => .ok none
    | some (scheme, encoded) =>
      if !Text.sameIgnoringCase (String.ofList scheme) "basic" then .ok none
      else match ofEncoded? encoded with
        | some credentials => .ok (some credentials)
        | none => .error .malformed

/-- The credentials that the headers of a request offer; of several values the first counts. -/
def ofHeaders (headers : Http.Headers) : Except Unreadable (Option Credentials) :=
  match headers.first? "authorization" with
  | none => .ok none
  | some value => ofValue value

end Credentials

end DocumentGateway.Access
