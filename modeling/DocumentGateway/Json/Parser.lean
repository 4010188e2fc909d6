import DocumentGateway.Json.Literal
import DocumentGateway.Text.Bytes

/-!
# Reading JSON

Text is read one character at a time by a machine with a stack of the containers that are open. It
reads exactly the JSON grammar: no byte order mark, comments, trailing commas or text after the
value, no raw control characters in strings, and escaped surrogates only in pairs. Of a repeated key
the last value counts, and at most 127 containers may be open at once. How the word of a number is
read is a parameter of the machine.
-/

namespace DocumentGateway.Json

/-- A container that is open. -/
inductive Frame where
  /-- An array with the items read, last first. -/
  | array (items : List Value)
  /-- An object with the fields read, and the key whose value comes next. -/
  | object (fields : Document) (key : Option String)

/-- What may come next between the words and strings of a text. -/
inductive Expect where
  /-- A value. -/
  | value
  /-- A value, or the end of an array that has just begun. -/
  | firstItem
  /-- A key, or the end of an object that has just begun. -/
  | firstKey
  /-- A key. -/
  | key
  /-- The colon after a key. -/
  | colon
  /-- A comma or the end of the container. -/
  | separator
  deriving DecidableEq

/-- Where in a string the reader stands. -/
inductive InString where
  /-- Between characters. -/
  | plain
  /-- After a backslash; a high surrogate may be waiting for its partner. -/
  | escape (high : Option Nat)
  /-- In an escape by code: the digits still to come and the code so far. -/
  | code (high : Option Nat) (left value : Nat)
  /-- After an escaped high surrogate. -/
  | pair (high : Nat)

/-- What is being read. -/
inductive Focus where
  /-- Nothing has begun. -/
  | between (expect : Expect)
  /-- A number or one of the three constants, last character first. -/
  | word (chars : List Char)
  /-- A string, last character first. -/
  | text (isKey : Bool) (chars : List Char) (state : InString)
  /-- The whole value has been read. -/
  | finished (value : Value)

/-- The state of the reader. -/
structure Reader where
  /-- The open containers, innermost first. -/
  frames : List Frame
  /-- What is being read. -/
  focus : Focus

namespace Reader

variable (number? : List Char → Option Number)

/-- The reader before the first character. -/
def start : Reader := ⟨[], .between .value⟩

/-- How many containers may be open at once. -/
def maxDepth : Nat := 127

/-- A value has been read completely. -/
def complete (frames : List Frame) (v : Value) : Option Reader :=
  match frames with
  | [] => some ⟨[], .finished v⟩
  | .array items :: rest => some ⟨.array (v :: items) :: rest, .between .separator⟩
  | .object fields (some key) :: rest =>
    some ⟨.object (fields.insert key v) none :: rest, .between .separator⟩
  | .object _ none :: _ => none

/-- The value of a word. -/
def wordValue? (word : List Char) : Option Value :=
  if word = "null".toList then some .null
  else if word = "true".toList then some (.bool true)
  else if word = "false".toList then some (.bool false)
  else (number? word).map .number

/-- Space, tab, line feed and carriage return. -/
def isBlank (c : Char) : Bool := c = ' ' || c = '\t' || c = '\n' || c = '\r'

/-- The characters of numbers and constants. -/
def isWordChar (c : Char) : Bool := c.isAlphanum || c = '-' || c = '+' || c = '.'

/-- Open a container, unless too many are open. -/
def descend (r : Reader) (frame : Frame) (expect : Expect) : Option Reader :=
  if r.frames.length < maxDepth then some ⟨frame :: r.frames, .between expect⟩ else none

/-- A string begins where it may. -/
def beginString (r : Reader) (expect : Expect) : Option Reader :=
  match expect with
  | .value | .firstItem => some ⟨r.frames, .text false [] .plain⟩
  | .key | .firstKey => some ⟨r.frames, .text true [] .plain⟩
  | .colon | .separator => none

/-- A character between words and strings. -/
def stepBetween (r : Reader) (expect : Expect) (c : Char) : Option Reader :=
  if isBlank c then some ⟨r.frames, .between expect⟩
  else if c = '"' then r.beginString expect
  else match expect with
    | .value | .firstItem =>
      if c = '[' then r.descend (.array []) .firstItem
      else if c = '\x7b' then r.descend (.object [] none) .firstKey
      else if isWordChar c then some ⟨r.frames, .word [c]⟩
      else if c = ']' && expect = .firstItem then closeArray r
      else none
    | .firstKey => if c = '\x7d' then closeObject r else none
    | .key => none
    | .colon => if c = ':' then some ⟨r.frames, .between .value⟩ else none
    | .separator =>
      if c = ']' then closeArray r
      else if c = '\x7d' then closeObject r
      else if c = ',' then
        match r.frames with
        | .array _ :: _ => some ⟨r.frames, .between .value⟩
        | .object _ _ :: _ => some ⟨r.frames, .between .key⟩
        | [] => none
      else none
where
  /-- The innermost container ends as an array. -/
  closeArray (r : Reader) : Option Reader :=
    match r.frames with
    | .array items :: rest => complete rest (.array items.reverse)
    | _ => none
  /-- The innermost container ends as an object. -/
  closeObject (r : Reader) : Option Reader :=
    match r.frames with
    | .object fields none :: rest => complete rest (.object fields)
    | _ => none

/-- A string has been read completely. -/
def finishString (r : Reader) (isKey : Bool) (chars : List Char) : Option Reader :=
  let s := String.ofList chars.reverse
  if isKey then
    match r.frames with
    | .object fields none :: rest => some ⟨.object fields (some s) :: rest, .between .colon⟩
    | _ => none
  else complete r.frames (.string s)

/-- The character of a short escape. -/
def shortEscape? (c : Char) : Option Char :=
  match c with
  | '"' => some '"'
  | '\\' => some '\\'
  | '/' => some '/'
  | 'b' => some '\x08'
  | 'f' => some '\x0C'
  | 'n' => some '\n'
  | 'r' => some '\r'
  | 't' => some '\t'
  | _ => none

/-- A code has been read completely: a character, the first half of a pair, or its second half. -/
def finishCode (chars : List Char) (high : Option Nat) (code : Nat) :
    Option (List Char × InString) :=
  match high with
  | none =>
    if 0xD800 ≤ code && code < 0xDC00 then some (chars, .pair code)
    else if 0xDC00 ≤ code && code < 0xE000 then none
    else some (Char.ofNat code :: chars, .plain)
  | some h =>
    if 0xDC00 ≤ code && code < 0xE000 then
      some (Char.ofNat (0x10000 + (h - 0xD800) * 0x400 + (code - 0xDC00)) :: chars, .plain)
    else none

/-- A character of a string. -/
def stepString (r : Reader) (isKey : Bool) (chars : List Char) (state : InString) (c : Char) :
    Option Reader :=
  match state with
  | .plain =>
    if c = '"' then r.finishString isKey chars
    else if c = '\\' then some ⟨r.frames, .text isKey chars (.escape none)⟩
    else if c.toNat < 0x20 then none
    else some ⟨r.frames, .text isKey (c :: chars) .plain⟩
  | .escape high =>
    if c = 'u' then some ⟨r.frames, .text isKey chars (.code high 4 0)⟩
    else if high.isSome then none
    else (shortEscape? c).map fun e => ⟨r.frames, .text isKey (e :: chars) .plain⟩
  | .code high left value =>
    match Text.hexDigitValue? c with
    | none => none
    | some d =>
      let value := value * 16 + d
      if left ≤ 1 then
        (finishCode chars high value).map fun (chars, state) => ⟨r.frames, .text isKey chars state⟩
      else some ⟨r.frames, .text isKey chars (.code high (left - 1) value)⟩
  | .pair high =>
    if c = '\\' then some ⟨r.frames, .text isKey chars (.escape (some high))⟩ else none

/-- A word has been read completely. -/
def finishWord (r : Reader) (chars : List Char) : Option Reader :=
  (wordValue? number? chars.reverse).bind (complete r.frames)

/-- A character. -/
def step (r : Reader) (c : Char) : Option Reader :=
  match r.focus with
  | .between expect => r.stepBetween expect c
  | .word chars =>
    if isWordChar c then some ⟨r.frames, .word (c :: chars)⟩
    else (r.finishWord number? chars).bind fun r => afterValue r c
  | .text isKey chars state => r.stepString isKey chars state c
  | .finished _ => afterValue r c
where
  /-- A character after a complete value. -/
  afterValue (r : Reader) (c : Char) : Option Reader :=
    match r.focus with
    | .between expect => r.stepBetween expect c
    | .finished v => if isBlank c then some ⟨[], .finished v⟩ else none
    | _ => none

/-- The value, if the text may end here. -/
def finish (r : Reader) : Option Value :=
  match r.focus with
  | .finished v => some v
  | .word chars =>
    match r.finishWord number? chars with
    | some ⟨_, .finished v⟩ => some v
    | _ => none
  | _ => none

end Reader

/-- The value that some characters spell, if the words of its numbers are read as given. -/
def readBy (number? : List Char → Option Number) (s : List Char) : Option Value :=
  (s.foldlM (Reader.step number?) Reader.start).bind (Reader.finish number?)

/-- The value that some characters spell. -/
def read? (s : List Char) : Option Value := readBy Number.ofWord? s

/-- The value that a text spells. -/
def parse? (s : String) : Option Value := read? s.toList

end DocumentGateway.Json
