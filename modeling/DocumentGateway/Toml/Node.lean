import DocumentGateway.Keyed

/-!
# TOML documents

A document is a tree of tables. How a table came about decides what may still be added to it: one
that a header opened is complete for dotted keys, one that only lies on the way to another may still
be opened, one that dotted keys made can only grow by dotted keys, and an inline table is sealed.
-/

namespace DocumentGateway.Toml

/-- How a table came about. -/
inductive Origin where
  /-- A header opened it, or it is the root. -/
  | header
  /-- It lies on the way to a table that a header opened. -/
  | passed
  /-- Dotted keys made it. -/
  | dotted
  /-- It was written as a value. -/
  | inline
  deriving DecidableEq, Repr

/-- A value or a table. Of floats and dates only the kind is kept. -/
inductive Node where
  | text (s : String)
  | whole (n : Int)
  | flag (b : Bool)
  | float
  | date
  | array (items : List Node)
  | table (origin : Origin) (entries : List (String × Node))
  /-- The tables that the headers of an array of tables opened, last first. -/
  | tables (elements : List (List (String × Node)))
  deriving Repr

/-- The contents of a table. -/
abbrev Entries := Keyed Node

/-- A key with its value; the key may lead through tables. -/
structure Assignment where
  /-- The tables the key leads through. -/
  path : List String
  /-- The last part of the key. -/
  key : String
  /-- The value. -/
  value : Node

/-- Put a value into the table that a dotted key leads to. -/
def assignIn : List String → String → Node → (isDotted : Bool) → Entries → Option Entries
  | [], key, value, isDotted, entries =>
    if isDotted && !entries.has key then some (entries.insert key value) else none
  | name :: path, key, value, _, entries =>
    match entries.get? name with
    | none =>
      (assignIn path key value true []).map fun t => entries.insert name (.table .dotted t)
    | some (.table .passed t) =>
      (assignIn path key value false t).map fun t => entries.insert name (.table .passed t)
    | some (.table .dotted t) =>
      (assignIn path key value true t).map fun t => entries.insert name (.table .dotted t)
    | some (.tables (t :: others)) =>
      (assignIn path key value false t).map fun t => entries.insert name (.tables (t :: others))
    | some _ => none

/-- Make an assignment in a table. A key that is there already is not assigned again. -/
def assign (entries : Entries) (a : Assignment) : Option Entries :=
  match a.path with
  | [] => if entries.has a.key then none else some (entries.insert a.key a.value)
  | path => assignIn path a.key a.value false entries

/-- Make some assignments in a table. -/
def assignAll (entries : Entries) (assignments : List Assignment) : Option Entries :=
  assignments.foldlM assign entries

/-- Change the table that the path of a header leads to. -/
def changeAt (change : Entries → Option Entries) : List String → Entries → Option Entries
  | [], entries => change entries
  | name :: path, entries =>
    match entries.get? name with
    | none => (changeAt change path []).map fun t => entries.insert name (.table .passed t)
    | some (.table .inline _) => none
    | some (.table origin t) =>
      (changeAt change path t).map fun t => entries.insert name (.table origin t)
    | some (.tables (t :: others)) =>
      (changeAt change path t).map fun t => entries.insert name (.tables (t :: others))
    | some _ => none

/-- A header with the assignments under it. -/
structure Section where
  /-- Whether the header adds a table to an array of tables. -/
  isElement : Bool
  /-- The tables the header's key leads through. -/
  path : List String
  /-- The last part of the header's key. -/
  key : String
  /-- The assignments under the header. -/
  assignments : List Assignment

/-- Open the table of a section in the table around it. -/
def Section.openIn (s : Section) (parent : Entries) : Option Entries :=
  if s.isElement then
    match parent.get? s.key with
    | none => (assignAll [] s.assignments).map fun t => parent.insert s.key (.tables [t])
    | some (.tables elements) =>
      (assignAll [] s.assignments).map fun t => parent.insert s.key (.tables (t :: elements))
    | some _ => none
  else
    match parent.get? s.key with
    | none => (assignAll [] s.assignments).map fun t => parent.insert s.key (.table .header t)
    | some (.table .passed t) =>
      (assignAll t s.assignments).map fun t => parent.insert s.key (.table .header t)
    | some _ => none

/-- Add a section to the root. -/
def addSection (root : Entries) (s : Section) : Option Entries := changeAt s.openIn s.path root

/-- The root table of a document: the assignments above all headers, then section by section. -/
def rootTable (assignments : List Assignment) (sections : List Section) : Option Entries :=
  (assignAll [] assignments).bind fun root => sections.foldlM addSection root

end DocumentGateway.Toml
