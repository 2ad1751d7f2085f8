import PageBuilder.Config
import PageBuilder.Text.Utf8
import PageBuilder.Toml.Reader

/-! # Settings files

The settings stand in the table `builder` of a settings file, or at its top if there is no such
name. -/

namespace PageBuilder

/-- Why a settings file is refused. -/
inductive ConfigFileError where
  | notUtf8 (fault : Text.Utf8.Fault)
  | malformed
  | notATable
  | config (error : ConfigError)
  deriving DecidableEq, Repr

/-- The message of a fault that has one. -/
def ConfigFileError.message? : ConfigFileError → Option String
  | .notUtf8 _ | .malformed => none
  | .notATable => some "builder config must be a TOML table"
  | .config e => e.message?

namespace Config

/-- The settings in the fields of a file. -/
def ofFileFields (fs : Fields) : Except ConfigFileError Config :=
  match (Fields.get? fs "builder").getD (.obj fs) with
  | .obj overrides => (ofFields overrides).mapError .config
  | _ => .error .notATable

/-- The settings in the text of a file. -/
def ofFileText (s : String) : Except ConfigFileError Config :=
  match Toml.parse s with
  | none => .error .malformed
  | some fs => ofFileFields fs

/-- The settings in the bytes of a file. -/
def ofFileBytes (bytes : List UInt8) : Except ConfigFileError Config :=
  match Text.Utf8.decode bytes with
  | .error fault => .error (.notUtf8 fault)
  | .ok s => ofFileText s

end Config

end PageBuilder
