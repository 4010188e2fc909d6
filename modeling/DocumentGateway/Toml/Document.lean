import DocumentGateway.Toml.Node
import DocumentGateway.Toml.Scalar

/-!
# Reading TOML

A document is read line by line: assignments, headers of tables and of arrays of tables, comments
and blank lines. Inline tables stand on one line without a comma at the end, while arrays may go
over several lines, with comments. At most 79 inline containers may be open at once, and a key has
at most 79 parts.
-/

namespace DocumentGateway.Toml

open DocumentGateway.Text (Reader readChar readWord)

/-- How deep inline containers nest and how many parts a key has, at most. -/
def maxDepth : Nat := 79

/-- Skip a comment. -/
def skipComment : List Char → List Char
  | '#' :: rest => rest.dropWhile isLineChar
  | s => s

theorem skipComment_length_le (s : List Char) : (skipComment s).length ≤ s.length := by
  unfold skipComment
  split
  · have := dropWhile_length_le isLineChar
    simp only [List.length_cons]
    exact Nat.le_succ_of_le (this _)
  · exact Nat.le_refl _

/-- Read the end of a line or of the text. -/
def readLineEnd : List Char → Option (List Char)
  | [] => some []
  | s => readNewline s

/-- Read what may follow on a line that says something: blanks and a comment. -/
def readLineRest (s : List Char) : Option (List Char) :=
  readLineEnd (skipComment (s.dropWhile isBlank))

/-- Skip blanks, comments and ends of lines. The end of the text does not end a comment here. -/
def skipSpace (s : List Char) : List Char :=
  match _ : readNewline (skipComment (s.dropWhile isBlank)) with
  | some rest => skipSpace rest
  | none => s.dropWhile isBlank
termination_by s.length
decreasing_by
  have := readNewline_length ‹readNewline _ = _›
  have := skipComment_length_le (s.dropWhile isBlank)
  have := dropWhile_length_le isBlank s
  omega

/-- The characters of a key that is not quoted. -/
def isKeyChar (c : Char) : Bool := c.isAlphanum || c = '-' || c = '_'

/-- Read a part of a key. -/
def readKeyPart (s : List Char) : Option (String × List Char) :=
  match s with
  | '"' :: _ | '\'' :: _ => (readLineString s).map fun (chars, rest) => (String.ofList chars, rest)
  | s =>
    let chars := s.takeWhile isKeyChar
    if chars.isEmpty then none else some (String.ofList chars, s.dropWhile isKeyChar)

/-- Read the parts of a key between dots; `budget` is how many there may be. -/
def readKeyParts : Nat → Reader (List String)
  | 0, _ => none
  | budget + 1, s =>
    (readKeyPart (s.dropWhile isBlank)).bind fun (part, rest) =>
      match rest.dropWhile isBlank with
      | '.' :: rest => (readKeyParts budget rest).map fun (parts, rest) => (part :: parts, rest)
      | rest => some ([part], rest)

/-- Read a key as the tables it leads through and its last part. -/
def readKey : Reader (List String × String) := fun s =>
  (readKeyParts maxDepth s).bind fun (parts, rest) =>
    parts.getLast?.map fun key => ((parts.dropLast, key), rest)

/-- Read a value that is neither array nor inline table. -/
def readScalar : Reader Node
  | [] => none
  | c :: rest =>
    let s := c :: rest
    if c = '"' || c = '\'' then
      (readString s).map fun (chars, rest) => (.text (String.ofList chars), rest)
    else if c = 't' then (readWord "true" s).map (.flag true, ·)
    else if c = 'f' then (readWord "false" s).map (.flag false, ·)
    else if c = 'i' || c = 'n' then (readFloat s).map (.float, ·)
    else if c = '+' || c = '-' || c.isDigit then
      match readDate s with
      | some rest => some (.date, rest)
      | none =>
        match readFloat s with
        | some rest => some (.float, rest)
        | none => (readInteger s).map fun (n, rest) => (.whole n, rest)
    else none

mutual

/-- Read a value; `depth` containers may still be opened, and a budget of twice the length of the
text suffices. -/
def readValue : (budget depth : Nat) → Reader Node
  | 0, _, _ => none
  | budget + 1, depth, s =>
    match s with
    | '[' :: rest =>
      match depth with
      | 0 => none
      | depth + 1 =>
        (readItems budget depth rest).map fun (items, rest) => (.array items, rest)
    | '\x7b' :: rest =>
      match depth with
      | 0 => none
      | depth + 1 =>
        (readAssignments budget depth rest).bind fun (assignments, rest) =>
          (assignAll [] assignments).map fun entries => (.table .inline entries, rest)
    | s => readScalar s

/-- Read the items of an array up to its end; a comma may follow the last. -/
def readItems : (budget depth : Nat) → Reader (List Node)
  | 0, _, _ => none
  | budget + 1, depth, s =>
    match skipSpace s with
    | ']' :: rest => some ([], rest)
    | s =>
      (readValue budget depth s).bind fun (item, rest) =>
        match skipSpace rest with
        | ',' :: rest =>
          (readItems budget depth rest).map fun (items, rest) => (item :: items, rest)
        | ']' :: rest => some ([item], rest)
        | _ => none

/-- Read the assignments of an inline table up to its end. -/
def readAssignments : (budget depth : Nat) → Reader (List Assignment)
  | 0, _, _ => none
  | budget + 1, depth, s =>
    match s.dropWhile isBlank with
    | '\x7d' :: rest => some ([], rest)
    | s => readFurtherAssignments budget depth s

/-- Read at least one assignment and up to the end of an inline table. -/
def readFurtherAssignments : (budget depth : Nat) → Reader (List Assignment)
  | 0, _, _ => none
  | budget + 1, depth, s =>
    (readKey s).bind fun ((path, key), rest) =>
      (readChar '=' rest).bind fun rest =>
        (readValue budget depth (rest.dropWhile isBlank)).bind fun (value, rest) =>
          match rest.dropWhile isBlank with
          | ',' :: rest =>
            (readFurtherAssignments budget depth rest).map fun (others, rest) =>
              (⟨path, key, value⟩ :: others, rest)
          | '\x7d' :: rest => some ([⟨path, key, value⟩], rest)
          | _ => none

end

/-- Read the header of an array of tables or of a table, up to the end of its line. -/
def readHeader (s : List Char) : Option ((Bool × List String × String) × List Char) :=
  match s with
  | '[' :: '[' :: rest =>
    (readKey rest).bind fun ((path, key), rest) =>
      (readWord "]]" rest >>= readLineRest).map ((true, path, key), ·)
  | '[' :: rest =>
    (readKey rest).bind fun ((path, key), rest) =>
      (readChar ']' rest >>= readLineRest).map ((false, path, key), ·)
  | _ => none

/-- Read an assignment up to the end of its line; a budget of twice the length of the text suffices.
-/
def readAssignment (budget : Nat) : Reader Assignment := fun s =>
  (readKey s).bind fun ((path, key), rest) =>
    (readChar '=' rest).bind fun rest =>
      (readValue budget maxDepth (rest.dropWhile isBlank)).bind fun (value, rest) =>
        (readLineRest rest).map (⟨path, key, value⟩, ·)

/-- Read lines to the end of the text, as the assignments above all headers and the sections. A
budget of the length of the text suffices. -/
def readAll : Nat → List Char → Option (List Assignment × List Section)
  | 0, _ => none
  | budget + 1, s =>
    match s.dropWhile isBlank with
    | [] => some ([], [])
    | '#' :: rest => (readLineEnd (skipComment ('#' :: rest))).bind (readAll budget)
    | '[' :: rest =>
      (readHeader ('[' :: rest)).bind fun ((isElement, path, key), rest) =>
        (readAll budget rest).map fun (assignments, sections) =>
          ([], ⟨isElement, path, key, assignments⟩ :: sections)
    | s =>
      match readNewline s with
      | some rest => readAll budget rest
      | none =>
        (readAssignment (2 * budget) s).bind fun (assignment, rest) =>
          (readAll budget rest).map fun (assignments, sections) =>
            (assignment :: assignments, sections)

/-- The root table of the document that a text gives; a byte order mark may come first. -/
def parse? (text : String) : Option Entries :=
  let s := match text.toList with
    | '\uFEFF' :: rest => rest
    | s => s
  (readAll (s.length + 1) s).bind fun (assignments, sections) => rootTable assignments sections

end DocumentGateway.Toml
