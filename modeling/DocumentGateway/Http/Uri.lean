import DocumentGateway.Text.Cut
import DocumentGateway.Text.Utf8

/-!
# Request targets

A target is a path with an optional query, an authority alone, an asterisk, or an absolute reference
with scheme and authority. A fragment is dropped. Only the path and the query address anything; the
scheme and the authority are kept to write the target again.
-/

namespace DocumentGateway.Http

/-- A request target. -/
structure Uri where
  /-- The scheme, if the target is absolute. -/
  scheme : Option String
  /-- The authority, if the target has one. -/
  authority : Option String
  /-- The path, still escaped. -/
  path : String
  /-- The query, still escaped, if there is one. -/
  query : Option String
  deriving DecidableEq, Repr

namespace Uri

/-- The longest target in bytes. -/
def maxBytes : Nat := 65534

/-- The longest scheme. -/
def maxScheme : Nat := 64

/-- The characters of a path. Some of them should be escaped, but they are taken as sent. -/
def isPathChar (c : Char) : Bool :=
  c.toNat ≥ 0x80 || c.isAlphanum || "!$%&'()*+,-./:;=@[\\]^_|~\"\x7b\x7d".toList.contains c

/-- The characters of a query. -/
def isQueryChar (c : Char) : Bool :=
  c.toNat ≥ 0x80 || c = '!' || (0x24 ≤ c.toNat && c.toNat ≤ 0x3B) || c = '='
    || (0x3F ≤ c.toNat && c.toNat ≤ 0x7E)

/-- The characters of a scheme. -/
def isSchemeChar (c : Char) : Bool := c.isAlphanum || "+-.~".toList.contains c

/-- The characters of an authority, the percent sign apart. -/
def isAuthorityChar (c : Char) : Bool :=
  c.isAlphanum || "!$&'()*+,-.:;=@[]_~".toList.contains c

/-- Read a path with its query, up to a fragment. -/
def pathAndQuery? (s : List Char) : Option (String × Option String) :=
  let path := s.takeWhile fun c => c != '?' && c != '#'
  if !path.all isPathChar then none
  else
    let path' := if path.isEmpty then "/" else String.ofList path
    match s.dropWhile fun c => c != '?' && c != '#' with
    | '?' :: rest =>
      let query := rest.takeWhile (· != '#')
      if query.all isQueryChar then some (path', some (String.ofList query)) else none
    | _ => some (path', none)

/-- What has been seen of an authority. -/
structure AuthorityScan where
  /-- Colons since the last `@` or `]`. -/
  colons : Nat
  /-- Whether a bracket was opened. -/
  opened : Bool
  /-- Whether a bracket was closed. -/
  closed : Bool
  /-- Whether a percent sign was seen since the last `@` or `]`. -/
  percent : Bool
  /-- Whether the last character was an `@`. -/
  atSign : Bool

/-- Read a character of an authority. -/
def AuthorityScan.step (s : AuthorityScan) (c : Char) : Option AuthorityScan :=
  if c = ':' then
    if 8 ≤ s.colons then none else some { s with colons := s.colons + 1, atSign := false }
  else if c = '[' then
    if s.percent || s.opened then none else some { s with opened := true, atSign := false }
  else if c = ']' then
    if !s.opened || s.closed then none
    else some { s with closed := true, colons := 0, percent := false, atSign := false }
  else if c = '@' then some { s with colons := 0, percent := false, atSign := true }
  else if c = '%' then some { s with percent := true, atSign := false }
  else if isAuthorityChar c then some { s with atSign := false }
  else none

/-- Whether some characters are an authority: at most one colon after the user and the bracketed
address, brackets in a pair, escapes in the user alone, and a host after the user. -/
def isAuthority (s : List Char) : Bool :=
  match s.foldlM AuthorityScan.step ⟨0, false, false, false, false⟩ with
  | some scan => scan.opened == scan.closed && scan.colons ≤ 1 && !scan.atSign && !scan.percent
  | none => false

/-- Split off a scheme and the `://` after it; a text without them has none. The outer `none` is a
scheme that is too long. -/
def scheme? (s : List Char) : Option (Option String × List Char) :=
  let word := s.takeWhile isSchemeChar
  match s.dropWhile isSchemeChar with
  | ':' :: '/' :: '/' :: rest =>
    let name := String.ofList word
    let known := Text.lower name
    if known = "http" || known = "https" then some (some known, rest)
    else if maxScheme < word.length then none
    else some (some name, rest)
  | _ => some (none, s)

/-- Read a target that does not begin with a slash. -/
def absolute? (s : List Char) : Option Uri := do
  let (scheme, rest) ← scheme? s
  let isEnd := fun c => c = '/' || c = '?' || c = '#'
  let authority := rest.takeWhile fun c => !isEnd c
  let rest := rest.dropWhile fun c => !isEnd c
  guard (isAuthority authority)
  match scheme with
  | none =>
    guard rest.isEmpty
    return ⟨none, some (String.ofList authority), "", none⟩
  | some scheme =>
    guard !authority.isEmpty
    let (path, query) ← pathAndQuery? rest
    return ⟨some scheme, some (String.ofList authority), path, query⟩

/-- The target that a text gives. -/
def ofText? (s : String) : Option Uri :=
  if maxBytes < (Text.Utf8.encode s).length then none
  else match s.toList with
    | [] => none
    | ['*'] => some ⟨none, none, "*", none⟩
    | '/' :: rest =>
      (pathAndQuery? ('/' :: rest)).map fun (path, query) => ⟨none, none, path, query⟩
    | s => absolute? s

/-- The text of a target. -/
def render (u : Uri) : String :=
  (match u.scheme with | some s => s ++ "://" | none => "") ++ u.authority.getD "" ++ u.path
    ++ (match u.query with | some q => "?" ++ q | none => "")

end Uri

end DocumentGateway.Http
