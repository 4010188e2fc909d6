import DocumentGateway.Number.Binary64
import DocumentGateway.Text.Reader

/-!
# TOML strings, numbers and dates

Strings stand in quotation marks, with escapes, or in apostrophes, without; three of them open a
string of several lines. Integers fit 64 bits with sign; digits may be grouped by single
underscores. A float that is too large is refused.
-/

namespace DocumentGateway.Toml

open DocumentGateway.Text (Reader readChar readWord readDigits isDigitIn)

/-- Space and tab. -/
def isBlank (c : Char) : Bool := c = ' ' || c = '\t'

/-- The characters of a line, of comments too: all but control characters other than the tab. -/
def isLineChar (c : Char) : Bool := c = '\t' || (0x20 ≤ c.toNat && c.toNat != 0x7F)

/-- Read the end of a line. -/
def readNewline : List Char → Option (List Char)
  | '\n' :: rest => some rest
  | '\r' :: '\n' :: rest => some rest
  | _ => none

theorem readNewline_length {s rest : List Char} (h : readNewline s = some rest) :
    rest.length < s.length := by
  unfold readNewline at h
  split at h <;> cases h <;> simp only [List.length_cons] <;> omega

theorem dropWhile_length_le (p : Char → Bool) (s : List Char) : (s.dropWhile p).length ≤ s.length :=
  (List.dropWhile_sublist p).length_le

/-- Read an optional end of a line. -/
def skipNewline (s : List Char) : List Char := (readNewline s).getD s

/-- Skip blanks and ends of lines. -/
def skipLines : List Char → List Char
  | '\r' :: '\n' :: rest => skipLines rest
  | c :: rest => if isBlank c || c = '\n' then skipLines rest else c :: rest
  | [] => []

theorem skipLines_length_le (s : List Char) : (skipLines s).length ≤ s.length := by
  fun_induction skipLines s with
  | case1 rest ih => simp only [List.length_cons]; omega
  | case2 c rest _ _ ih => simp only [List.length_cons]; omega
  | case3 c rest => exact Nat.le_refl _
  | case4 => exact Nat.le_refl _

/-- The character with a code. -/
def charOfCode? (code : Nat) : Option Char :=
  if code.isValidChar then some (Char.ofNat code) else none

/-- Read a character by its code. -/
def readCode (digits : Nat) : Reader Char := fun s =>
  (readDigits 16 digits s).bind fun (code, rest) => (charOfCode? code).map (·, rest)

/-- Read an escape after its backslash. -/
def readEscape : Reader Char
  | 'b' :: rest => some ('\x08', rest)
  | 't' :: rest => some ('\t', rest)
  | 'n' :: rest => some ('\n', rest)
  | 'f' :: rest => some ('\x0c', rest)
  | 'r' :: rest => some ('\r', rest)
  | '"' :: rest => some ('"', rest)
  | '\\' :: rest => some ('\\', rest)
  | 'u' :: rest => readCode 4 rest
  | 'U' :: rest => readCode 8 rest
  | _ => none

theorem readCode_length {digits : Nat} {s : List Char} {c : Char} {rest : List Char}
    (h : readCode digits s = some (c, rest)) : rest.length ≤ s.length := by
  simp only [readCode, readDigits, Option.bind_eq_some_iff, Option.map_eq_some_iff] at h
  obtain ⟨⟨code, tail⟩, hcode, c', _, hc⟩ := h
  split at hcode
  · cases hcode
    cases hc
    simp only [List.length_drop]
    omega
  · cases hcode

theorem readEscape_length {s : List Char} {c : Char} {rest : List Char}
    (h : readEscape s = some (c, rest)) : rest.length < s.length := by
  unfold readEscape at h
  split at h
  case h_8 | h_9 =>
    have := readCode_length h
    simp only [List.length_cons]
    omega
  all_goals cases h
  all_goals simp only [List.length_cons]; omega

/-- Put a character before what is read. -/
def andThen (c : Char) (read : Option (List Char × List Char)) : Option (List Char × List Char) :=
  read.map fun (chars, rest) => (c :: chars, rest)

/-- Read a string with escapes after its opening mark. -/
def readBasic (s : List Char) : Option (List Char × List Char) :=
  match s with
  | [] => none
  | c :: rest =>
    if c = '"' then some ([], rest)
    else if c = '\\' then
      match _ : readEscape rest with
      | some (c, next) => andThen c (readBasic next)
      | none => none
    else if isLineChar c then andThen c (readBasic rest)
    else none
termination_by s.length
decreasing_by
  · have := readEscape_length ‹readEscape rest = _›
    simp only [List.length_cons]
    omega
  · simp

/-- Read a string without escapes after its opening apostrophe. -/
def readLiteral : Reader (List Char)
  | [] => none
  | c :: rest =>
    if c = '\'' then some ([], rest)
    else if isLineChar c then andThen c (readLiteral rest)
    else none

/-- Read the end of a string of several lines: three marks; two more before them belong to it. -/
def readClosing (mark : Char) (s : List Char) : Option (List Char × List Char) :=
  let run := (s.takeWhile (· = mark)).length
  if run < 3 then none
  else
    let marks := min (run - 3) 2
    some (List.replicate marks mark, s.drop (marks + 3))

/-- Read a string of several lines with escapes after its opening marks. A backslash at the end of a
line takes away the blanks and ends of lines that follow. -/
def readBasicLines (s : List Char) : Option (List Char × List Char) :=
  match s with
  | [] => none
  | c :: rest =>
    match readClosing '"' (c :: rest) with
    | some closed => some closed
    | none =>
      if c = '\\' then
        match _ : readNewline (rest.dropWhile isBlank) with
        | some next => readBasicLines (skipLines next)
        | none =>
          match _ : readEscape rest with
          | some (c, next) => andThen c (readBasicLines next)
          | none => none
      else if isLineChar c then andThen c (readBasicLines rest)
      else match _ : readNewline (c :: rest) with
        | some rest => andThen '\n' (readBasicLines rest)
        | none => none
termination_by s.length
decreasing_by
  · have := readNewline_length ‹readNewline (rest.dropWhile isBlank) = _›
    have := dropWhile_length_le isBlank rest
    have := skipLines_length_le next
    simp only [List.length_cons]
    omega
  · have := readEscape_length ‹readEscape rest = _›
    simp only [List.length_cons]
    omega
  · simp
  · exact readNewline_length ‹_›

/-- Read a string of several lines without escapes after its opening apostrophes. -/
def readLiteralLines (s : List Char) : Option (List Char × List Char) :=
  match s with
  | [] => none
  | c :: rest =>
    match readClosing '\'' (c :: rest) with
    | some closed => some closed
    | none =>
      if isLineChar c then andThen c (readLiteralLines rest)
      else match _ : readNewline (c :: rest) with
        | some rest => andThen '\n' (readLiteralLines rest)
        | none => none
termination_by s.length
decreasing_by
  · simp
  · exact readNewline_length ‹_›

/-- Read a string that ends on its line. -/
def readLineString : Reader (List Char)
  | '"' :: rest => readBasic rest
  | '\'' :: rest => readLiteral rest
  | _ => none

/-- Read a string. -/
def readString : Reader (List Char)
  | '"' :: '"' :: '"' :: rest => readBasicLines (skipNewline rest)
  | '\'' :: '\'' :: '\'' :: rest => readLiteralLines (skipNewline rest)
  | s => readLineString s

/-- Read further digits, each of which an underscore may precede. -/
def moreDigits (base : Nat) : List Char → List Char × List Char
  | '_' :: c :: rest =>
    if isDigitIn base c then
      let (digits, rest) := moreDigits base rest
      (c :: digits, rest)
    else ([], '_' :: c :: rest)
  | c :: rest =>
    if isDigitIn base c then
      let (digits, rest) := moreDigits base rest
      (c :: digits, rest)
    else ([], c :: rest)
  | [] => ([], [])

/-- Read digits, the first of which no underscore precedes. -/
def readDigitRun (base : Nat) : Reader (List Char)
  | [] => none
  | c :: rest =>
    if isDigitIn base c then
      let (digits, rest) := moreDigits base rest
      some (c :: digits, rest)
    else none

/-- Read an optional sign; the result tells whether it is a minus. -/
def readSign : List Char → Bool × List Char
  | '-' :: rest => (true, rest)
  | '+' :: rest => (false, rest)
  | s => (false, s)

/-- Read the digits of a decimal integer: a single zero, or digits that do not begin with one. -/
def readDecimal : Reader (List Char)
  | '0' :: rest => some (['0'], rest)
  | s => readDigitRun 10 s

/-- An integer that fits 64 bits with its sign. -/
def fitting? (negative : Bool) (n : Nat) : Option Int :=
  if negative then if n ≤ Nat.pow 2 63 then some (-(n : Int)) else none
  else if n < Nat.pow 2 63 then some n else none

/-- Read an integer in a base, after the mark of the base. -/
def readInBase (base : Nat) : Reader Int := fun s =>
  (readDigitRun base s).bind fun (digits, rest) =>
    (fitting? false (Text.cappedValue base (Nat.pow 2 64) digits)).map (·, rest)

/-- Read an integer. -/
def readInteger : Reader Int
  | '0' :: 'x' :: rest => readInBase 16 rest
  | '0' :: 'o' :: rest => readInBase 8 rest
  | '0' :: 'b' :: rest => readInBase 2 rest
  | s =>
    let (negative, s) := readSign s
    (readDecimal s).bind fun (digits, rest) =>
      (fitting? negative (Text.cappedValue 10 (Nat.pow 2 64) digits)).map (·, rest)

/-- Read the digits after a point. -/
def readFraction : Reader (List Char)
  | '.' :: rest => readDigitRun 10 rest
  | _ => none

/-- Read an exponent. -/
def readExponent : Reader Int
  | c :: rest =>
    if c = 'e' || c = 'E' then
      let (negative, rest) := readSign rest
      (readDigitRun 10 rest).map fun (digits, rest) =>
        let n := Text.cappedValue 10 Number.exponentLimit digits
        (if negative then -(n : Int) else n, rest)
    else none
  | [] => none

/-- Whether digits times `10 ^ exponent` is not past the largest binary64 number. That number has
309 places before the point, and half a unit above it, where numbers begin to be past it, is whole:
so the part before the point decides. -/
def isFinite (digits : List Char) (exponent : Int) : Bool :=
  let significant := digits.dropWhile (· = '0')
  let places : Int := significant.length + exponent
  let whole := (significant ++ List.replicate 309 '0').take 309
  significant.isEmpty || places < 309 ||
    places = 309 && (Number.Binary64.ofNat? (Text.digitsValue 10 0 whole)).isSome

/-- Read a float of digits. Only a negative one may be too large. -/
def readDigitFloat (s : List Char) : Option (List Char) := do
  let (negative, s) := readSign s
  let (whole, s) ← readDecimal s
  let (fraction, exponent, s) ← match readFraction s with
    | some (fraction, s) =>
      match readExponent s with
      | some (exponent, s) => some (fraction, exponent, s)
      | none => some (fraction, 0, s)
    | none => (readExponent s).map fun (exponent, s) => ([], exponent, s)
  guard (negative || isFinite (whole ++ fraction) (exponent - fraction.length))
  return s

/-- Read a float: one of digits, an infinity or no number. -/
def readFloat (s : List Char) : Option (List Char) :=
  match readDigitFloat s with
  | some rest => some rest
  | none =>
    let (_, s) := readSign s
    match readWord "inf" s with
    | some rest => some rest
    | none => readWord "nan" s

/-- Read a number of a given count of digits within limits. -/
def readWithin (count low high : Nat) : Reader Nat := fun s =>
  (readDigits 10 count s).filter fun (n, _) => low ≤ n && n ≤ high

/-- How many days a month has. -/
def daysIn (year month : Nat) : Nat :=
  if month = 2 then
    if year % 4 = 0 && (year % 100 != 0 || year % 400 = 0) then 29 else 28
  else if [4, 6, 9, 11].contains month then 30
  else 31

/-- Read a calendar date. -/
def readDay (s : List Char) : Option (List Char) := do
  let (year, s) ← readDigits 10 4 s
  let s ← readChar '-' s
  let (month, s) ← readWithin 2 1 12 s
  let s ← readChar '-' s
  let (_, s) ← readWithin 2 1 (daysIn year month) s
  return s

/-- Read a time of day. -/
def readTime (s : List Char) : Option (List Char) := do
  let (_, s) ← readWithin 2 0 23 s
  let s ← readChar ':' s
  let (_, s) ← readWithin 2 0 59 s
  let s ← readChar ':' s
  let (_, s) ← readWithin 2 0 60 s
  match s with
  | '.' :: c :: rest =>
    if isDigitIn 10 c then some (rest.dropWhile (isDigitIn 10)) else some ('.' :: c :: rest)
  | s => some s

/-- Read an optional distance from universal time. -/
def skipOffset : List Char → List Char
  | 'Z' :: rest | 'z' :: rest => rest
  | c :: rest =>
    if c = '+' || c = '-' then
      match readWithin 2 0 23 rest >>= fun (_, s) => readChar ':' s >>= readWithin 2 0 59 with
      | some (_, rest) => rest
      | none => c :: rest
    else c :: rest
  | [] => []

/-- Read a date, a time or both. -/
def readDate (s : List Char) : Option (List Char) :=
  match readDay s with
  | none => readTime s
  | some [] => some []
  | some (c :: rest) =>
    if c = 'T' || c = 't' || c = ' ' then
      match readTime rest with
      | some rest => some (skipOffset rest)
      | none => some (c :: rest)
    else some (c :: rest)

end DocumentGateway.Toml
