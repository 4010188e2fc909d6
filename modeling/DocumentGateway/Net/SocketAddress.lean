import DocumentGateway.Text.Reader

/-!
# Socket addresses

An address with a port: four octets between dots, or in brackets eight groups of hexadecimal digits
between colons, where one run of zero groups may be left out, the last two groups may be written as
octets, and a numeric scope may follow. A reader takes a prefix of what it is given and returns the
rest.
-/

namespace DocumentGateway.Net

open DocumentGateway.Text (Reader readChar isDigitIn)

/-- A network address. -/
inductive IpAddress where
  | v4 (octets : List Nat)
  | v6 (groups : List Nat) (scope : Nat)
  deriving DecidableEq, Repr

/-- A network address with a port. -/
structure SocketAddress where
  /-- The address. -/
  ip : IpAddress
  /-- The port. -/
  port : Nat
  deriving DecidableEq, Repr

/-- Read all digits that follow as a number not above a limit. -/
def readNumber (base limit : Nat) : Reader Nat := fun s =>
  let digits := s.takeWhile (isDigitIn base)
  let value := Text.cappedValue base (limit + 1) digits
  if digits.isEmpty || limit < value then none else some (value, s.dropWhile (isDigitIn base))

/-- Read an octet, which has at most three digits and no zero before them. -/
def readOctet : Reader Nat := fun s =>
  let digits := s.takeWhile (isDigitIn 10)
  if 3 < digits.length || (digits.head? = some '0' && 1 < digits.length) then none
  else readNumber 10 255 s

/-- Read four octets between dots. -/
def readOctets : Reader (List Nat) := fun s => do
  let (a, s) ← readOctet s
  let (b, s) ← readChar '.' s >>= readOctet
  let (c, s) ← readChar '.' s >>= readOctet
  let (d, s) ← readChar '.' s >>= readOctet
  return ([a, b, c, d], s)

/-- Read a group, which has at most four digits. -/
def readGroup : Reader Nat := fun s =>
  if 4 < (s.takeWhile (isDigitIn 16)).length then none else readNumber 16 0xFFFF s

/-- The two groups that four octets make. -/
def groupsOfOctets : List Nat → List Nat
  | [a, b, c, d] => [a * 256 + b, c * 256 + d]
  | _ => []

/-- What the groups of an address stand behind: nothing, or a colon. -/
def readSeparator (first : Bool) (s : List Char) : Option (List Char) :=
  if first then some s else readChar ':' s

/-- Read at most `limit` groups. The flag tells whether they end in octets, which take the place of
two groups. -/
def readGroups (first : Bool) : (limit : Nat) → List Char → List Nat × Bool × List Char
  | 0, s => ([], false, s)
  | limit + 1, s =>
    match if 0 < limit then readSeparator first s >>= readOctets else none with
    | some (octets, rest) => (groupsOfOctets octets, true, rest)
    | none =>
      match readSeparator first s >>= readGroup with
      | some (group, rest) =>
        let (groups, octets, rest) := readGroups false limit rest
        (group :: groups, octets, rest)
      | none => ([], false, s)

/-- Read the groups of an address. -/
def readV6 : Reader (List Nat) := fun s => do
  let (front, octets, rest) := readGroups true 8 s
  if front.length = 8 then return (front, rest)
  guard !octets
  let rest ← readChar ':' rest >>= readChar ':'
  let (back, _, rest) := readGroups true (7 - front.length) rest
  return (front ++ List.replicate (8 - front.length - back.length) 0 ++ back, rest)

/-- Read a scope, which is zero if there is none. -/
def readScope (s : List Char) : Nat × List Char :=
  match readChar '%' s >>= readNumber 10 0xFFFFFFFF with
  | some (scope, rest) => (scope, rest)
  | none => (0, s)

/-- Read an address of octets, or one of groups in brackets. -/
def readIp : Reader IpAddress := fun s =>
  match readOctets s with
  | some (octets, rest) => some (.v4 octets, rest)
  | none => do
    let (groups, rest) ← readChar '[' s >>= readV6
    let (scope, rest) := readScope rest
    let rest ← readChar ']' rest
    return (.v6 groups scope, rest)

/-- The socket address that a text gives. -/
def SocketAddress.ofText? (s : String) : Option SocketAddress := do
  let (ip, rest) ← readIp s.toList
  let (port, rest) ← readChar ':' rest >>= readNumber 10 0xFFFF
  guard rest.isEmpty
  return ⟨ip, port⟩

end DocumentGateway.Net
