/-!
# Tables of characters

The characters of a charset under their pointers. Charts are mostly given by the text that stands in
them from some pointer on, and by runs of successive characters. Where a chart lists what is left of
a block of characters in the order of their codes, the free pointers are filled.
-/

namespace DocumentGateway.Text.Charset

/-- The characters under pointers. -/
abbrev Table := Array (Option Char)

/-- Neighbouring characters of a table. -/
inductive Run where
  /-- The characters of a text, from a pointer on. -/
  | chars (start : Nat) (text : String)
  /-- A number of successive characters, from a pointer and a first character on. -/
  | sequence (start first count : Nat)

namespace Run

/-- The pointer of the first character. -/
def start : Run → Nat
  | .chars start _ => start
  | .sequence start _ _ => start

/-- The characters. -/
def toList : Run → List Char
  | .chars _ text => text.toList
  | .sequence _ first count => (List.range count).map fun i => Char.ofNat (first + i)

end Run

namespace Table

/-- The character under a pointer. -/
def get? (t : Table) (pointer : Nat) : Option Char := (t[pointer]?).join

/-- Put characters under successive pointers. -/
def write (t : Table) : Nat → List Char → Table
  | _, [] => t
  | pointer, c :: rest => write (t.setIfInBounds pointer (some c)) (pointer + 1) rest

/-- The table of a size that some runs fill. -/
def ofRuns (size : Nat) (runs : List Run) : Table :=
  runs.foldl (fun t run => t.write run.start run.toList) (Array.replicate size none)

/-- Put characters under pointers, one under each. -/
def fill : Table → List Nat → List Char → Table
  | t, pointer :: pointers, c :: rest => fill (t.setIfInBounds pointer (some c)) pointers rest
  | t, _, _ => t

/-- Whether each code of a range is under a pointer of a table. -/
def present (t : Table) (first count : Nat) : Array Bool :=
  t.foldl
    (fun found entry =>
      match entry with
      | some c => if first ≤ c.toNat then found.setIfInBounds (c.toNat - first) true else found
      | none => found)
    (Array.replicate count false)

/-- The characters of a range of codes that a table lacks, in order. -/
def missing (t : Table) (first count : Nat) : List Char :=
  let found := t.present first count
  ((List.range count).filter fun i => found[i]? == some false).map fun i => Char.ofNat (first + i)

end Table

end DocumentGateway.Text.Charset
