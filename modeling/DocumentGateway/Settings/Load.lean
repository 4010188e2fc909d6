import DocumentGateway.Settings.Fault
import DocumentGateway.Settings.Reading
import DocumentGateway.Settings.TomlOutline
import DocumentGateway.Text.Utf8
import DocumentGateway.Toml.Document

/-!
# Loading settings

Settings are read from a TOML text and then checked, so that nothing runs on settings with a fault.
-/

namespace DocumentGateway.Settings

/-- Why a file gives no bytes. -/
inductive FileError where
  /-- There is no such file. -/
  | notFound
  /-- Another reason, in the words of the system. -/
  | other (reason : String)
  deriving DecidableEq, Repr

/-- What is said about a file that gives no bytes. -/
def FileError.message : FileError → String
  | .notFound => "No such file or directory (os error 2)"
  | .other reason => reason

/-- Why there are no settings. -/
inductive LoadError where
  /-- The file gives no bytes. -/
  | file (error : FileError)
  /-- The bytes are not UTF-8. -/
  | encoding
  /-- The text is not TOML, or a setting is of the wrong kind. -/
  | unreadable
  /-- The settings make no sense. -/
  | faulty (faults : List Fault)
  deriving DecidableEq, Repr

/-- What is said where there are no settings. -/
def LoadError.message : LoadError → String
  | .file error => "IO error: " ++ error.message
  | .encoding => "IO error: stream did not contain valid UTF-8"
  | .unreadable => "Parse error"
  | .faulty faults => "Validation failed: " ++ ", ".intercalate (faults.map Fault.describe)

/-- Settings that have no fault. -/
def checked (s : Settings) : Except LoadError Settings :=
  match s.faults with
  | [] => .ok s
  | faults => .error (.faulty faults)

/-- The settings that a TOML text gives. -/
def ofToml (text : String) : Except LoadError Settings :=
  match Toml.parse? text with
  | none => .error .unreadable
  | some entries =>
    match ofOutline? tomlConvention (.ofToml (.table .header entries)) with
    | none => .error .unreadable
    | some s => checked s

/-- The settings that a file gives. -/
def ofFile (contents : Except FileError Bytes) : Except LoadError Settings :=
  match contents with
  | .error e => .error (.file e)
  | .ok bytes =>
    match Text.Utf8.decodeText? bytes with
    | none => .error .encoding
    | some text => ofToml text

end DocumentGateway.Settings
