import DocumentGateway.Text.Bytes

/-!
# Readers

What reads a prefix of some characters returns what it has read and the rest. A reader that fails
has read nothing, so that another can be tried in its place.
-/

namespace DocumentGateway.Text

/-- What reads a prefix of some characters. -/
abbrev Reader (α : Type) := List Char → Option (α × List Char)

/-- Read a given character. -/
def readChar (expected : Char) : List Char → Option (List Char)
  | c :: rest => if c = expected then some rest else none
  | [] => none

/-- Read given characters. -/
def readWord (word : String) (s : List Char) : Option (List Char) :=
  if word.toList.isPrefixOf s then some (s.drop word.toList.length) else none

/-- Whether a character is a digit in a base of at most sixteen. -/
def isDigitIn (base : Nat) (c : Char) : Bool :=
  match hexDigitValue? c with
  | some value => value < base
  | none => false

/-- Read exactly `count` digits as a number. -/
def readDigits (base count : Nat) : Reader Nat := fun s =>
  let digits := s.take count
  if digits.length = count && digits.all (isDigitIn base) then
    some (digitsValue base 0 digits, s.drop count)
  else none

end DocumentGateway.Text
