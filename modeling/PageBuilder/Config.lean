import PageBuilder.Document.Props
import PageBuilder.Text.HexColor

/-! # Settings of the builder

The settings of the editor and the preview. Settings are given as overrides of the defaults; all of
them are checked before any is used. -/

namespace PageBuilder

/-- How much is logged. -/
inductive LogLevel where
  | debug
  | info
  | warning
  | error
  | critical
  deriving DecidableEq, Repr

namespace LogLevel

def name : LogLevel → String
  | .debug => "DEBUG"
  | .info => "INFO"
  | .warning => "WARNING"
  | .error => "ERROR"
  | .critical => "CRITICAL"

def all : List LogLevel := [.debug, .info, .warning, .error, .critical]

def ofName? (s : String) : Option LogLevel :=
  all.find? fun l => l.name == s

end LogLevel

/-- The settings of the builder. -/
structure Config where
  primaryColor : String := "#030213"
  secondaryColor : String := "#468B97"
  pageInset : Binary64 := .ofInt 16
  componentGap : Binary64 := .ofInt 8
  imageHeight : Binary64 := .ofInt 200
  frameWidth : Int := 360
  frameHeight : Int := 700
  componentStem : String := "comp_"
  pageStem : String := "page_"
  logLevel : LogLevel := .warning
  deriving DecidableEq, Repr

/-- Why settings are refused. -/
inductive ConfigError where
  | unknownSetting (key : String)
  | notAColor (key : String)
  | notPositive (key : String)
  | notANumber (key : String)
  | negative (key : String)
  | blank (key : String)
  | unknownLogLevel (key : String)
  | number (error : NumberError)
  deriving DecidableEq, Repr

namespace ConfigError

/-- The message of a fault that has one. -/
def message? : ConfigError → Option String
  | .unknownSetting key => some ("Unknown builder setting: " ++ key)
  | .notAColor key =>
    some ("Setting `" ++ key ++ "` must be a hex color (#RRGGBB or #RRGGBBAA)")
  | .notPositive key => some ("Setting `" ++ key ++ "` must be a positive number")
  | .notANumber key => some ("Setting `" ++ key ++ "` must be a number")
  | .negative key => some ("Setting `" ++ key ++ "` must be >= 0")
  | .blank key => some ("Setting `" ++ key ++ "` must be a non-empty string")
  | .unknownLogLevel key =>
    some ("Setting `" ++ key ++ "` must be one of " ++
      ", ".intercalate (LogLevel.all.map LogLevel.name))
  | .number _ => none

end ConfigError

namespace Config

/-- The settings as fields. -/
def toFields (c : Config) : Fields := [
  ("primary_color", .str c.primaryColor),
  ("secondary_color", .str c.secondaryColor),
  ("page_inset_px", .float c.pageInset),
  ("component_gap_px", .float c.componentGap),
  ("image_height_px", .float c.imageHeight),
  ("frame_width_px", .int c.frameWidth),
  ("frame_height_px", .int c.frameHeight),
  ("component_id_prefix", .str c.componentStem),
  ("page_id_prefix", .str c.pageStem),
  ("log_level", .str c.logLevel.name)]

/-- A field that holds a color. -/
def color (fs : Fields) (key : String) : Except ConfigError String :=
  match Fields.value fs key with
  | .str s => if Text.isHexColor s then .ok s else .error (.notAColor key)
  | _ => .error (.notAColor key)

/-- The sign of a number, as far as zero: whether the number is at most zero, and below it. -/
def signs? : Json → Option (Bool × Bool)
  | .int n => some (n ≤ 0, n < 0)
  | .float x => some (x.le .zero, x.lt .zero)
  | _ => none

/-- A field that holds a number above zero. -/
def checkPositive (fs : Fields) (key : String) : Except ConfigError Unit :=
  match signs? (Fields.value fs key) with
  | some (false, _) => .ok ()
  | _ => .error (.notPositive key)

/-- A field that holds a number not below zero. -/
def checkNotNegative (fs : Fields) (key : String) : Except ConfigError Unit :=
  match signs? (Fields.value fs key) with
  | some (_, false) => .ok ()
  | some (_, true) => .error (.negative key)
  | none => .error (.notANumber key)

/-- A field that holds a text that is not blank. -/
def stem (fs : Fields) (key : String) : Except ConfigError String :=
  match identifier? (Fields.value fs key) with
  | some s => .ok s
  | none => .error (.blank key)

/-- A field that names a log level, in small or capital letters. -/
def level (fs : Fields) (key : String) : Except ConfigError LogLevel :=
  match LogLevel.ofName? (Text.capitals (Fields.value fs key).display) with
  | some l => .ok l
  | none => .error (.unknownLogLevel key)

/-- A number as a double. -/
def double (fs : Fields) (key : String) : Except ConfigError Binary64 :=
  (TypedProps.doubleOr .zero (Fields.value fs key)).mapError .number

/-- The whole part of a number. -/
def whole (fs : Fields) (key : String) : Except ConfigError Int :=
  match Fields.value fs key with
  | .int n => .ok n
  | .float x => (wholePart x).mapError .number
  | _ => .error (.notANumber key)

/-- Check all settings and take their values. -/
def ofAllFields (fs : Fields) : Except ConfigError Config := do
  let primaryColor ← color fs "primary_color"
  let secondaryColor ← color fs "secondary_color"
  checkPositive fs "page_inset_px"
  checkPositive fs "image_height_px"
  checkPositive fs "frame_width_px"
  checkPositive fs "frame_height_px"
  checkNotNegative fs "component_gap_px"
  let componentStem ← stem fs "component_id_prefix"
  let pageStem ← stem fs "page_id_prefix"
  let logLevel ← level fs "log_level"
  let pageInset ← double fs "page_inset_px"
  let componentGap ← double fs "component_gap_px"
  let imageHeight ← double fs "image_height_px"
  let frameWidth ← whole fs "frame_width_px"
  let frameHeight ← whole fs "frame_height_px"
  return { primaryColor, secondaryColor, pageInset, componentGap, imageHeight, frameWidth,
           frameHeight, componentStem, pageStem, logLevel }

/-- The settings with the given overrides. -/
def ofFields (overrides : Fields) : Except ConfigError Config :=
  let defaults := toFields {}
  match overrides.find? fun f => !Fields.has defaults f.1 with
  | some f => .error (.unknownSetting f.1)
  | none => ofAllFields (Fields.merge defaults overrides)

end Config

end PageBuilder
