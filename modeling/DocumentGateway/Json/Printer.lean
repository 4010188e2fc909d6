import DocumentGateway.Json.Literal
import DocumentGateway.Text.Utf8

/-!
# Writing JSON

The compact form: no blanks, fields in the order of their names, characters outside ASCII as they
are. A quote, a backslash and the control characters below the space are escaped, those with a short
escape by it and the others by their code.
-/

namespace DocumentGateway.Json

/-- A character of a string as it is written. -/
def escapeChar (c : Char) : List Char :=
  if c = '"' then ['\\', '"']
  else if c = '\\' then ['\\', '\\']
  else if c = '\n' then ['\\', 'n']
  else if c = '\r' then ['\\', 'r']
  else if c = '\t' then ['\\', 't']
  else if c = '\x08' then ['\\', 'b']
  else if c = '\x0C' then ['\\', 'f']
  else if c.toNat < 0x20 then
    ['\\', 'u', '0', '0', Text.hexDigit (c.toNat / 16), Text.hexDigit (c.toNat % 16)]
  else [c]

/-- A string as it is written. -/
def writeString (s : String) : List Char :=
  '"' :: (s.toList.flatMap escapeChar ++ ['"'])

mutual

/-- A value as it is written. -/
def Value.write : Value → List Char
  | .null => "null".toList
  | .bool true => "true".toList
  | .bool false => "false".toList
  | .number n => n.write
  | .string s => writeString s
  | .array [] => ['[', ']']
  | .array (item :: rest) => '[' :: (item.write ++ writeItems rest)
  | .object [] => ['\x7b', '\x7d']
  | .object ((key, value) :: rest) =>
    '\x7b' :: (writeString key ++ ':' :: (value.write ++ writeFields rest))

/-- The items after the first, each after a comma, and the end of the array. -/
def writeItems : List Value → List Char
  | [] => [']']
  | item :: rest => ',' :: (item.write ++ writeItems rest)

/-- The fields after the first, each after a comma, and the end of the object. -/
def writeFields : List (String × Value) → List Char
  | [] => ['\x7d']
  | (key, value) :: rest => ',' :: (writeString key ++ ':' :: (value.write ++ writeFields rest))

end

/-- The text of a value. -/
def Value.render (v : Value) : String := String.ofList v.write

end DocumentGateway.Json
