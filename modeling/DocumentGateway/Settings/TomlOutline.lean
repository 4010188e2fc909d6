import DocumentGateway.Settings.Outline
import DocumentGateway.Toml.Node

/-!
# Settings in TOML

The tables of a TOML document are sections, and its arrays, of tables too, are lists. A date where a
section is expected is one without any entry that is known.
-/

namespace DocumentGateway.Settings

/-- The name of the one entry of a date as a section. -/
def dateEntry : String := "$__toml_private_datetime"

namespace Outline

mutual

/-- The outline of a TOML value or table. -/
def ofToml : Toml.Node → Outline
  | .text s => text s
  | .whole n => whole n
  | .flag b => flag b
  | .float => other
  | .date => branch [(dateEntry, other)]
  | .array items => list (ofTomlItems items)
  | .table _ entries => branch (ofTomlEntries entries)
  | .tables elements => list (ofTomlTables elements).reverse

/-- The outlines of some items. -/
def ofTomlItems : List Toml.Node → List Outline
  | [] => []
  | item :: rest => ofToml item :: ofTomlItems rest

/-- The outlines of some entries. -/
def ofTomlEntries : List (String × Toml.Node) → List (String × Outline)
  | [] => []
  | (key, node) :: rest => (key, ofToml node) :: ofTomlEntries rest

/-- The outlines of some tables. -/
def ofTomlTables : List (List (String × Toml.Node)) → List Outline
  | [] => []
  | entries :: rest => branch (ofTomlEntries entries) :: ofTomlTables rest

end

end Outline

/-- The convention of TOML. -/
def tomlConvention : Convention where
  allowsSurplus := true
  isVoid
    | .list [] => true
    | .branch [] => true
    | _ => false

end DocumentGateway.Settings
