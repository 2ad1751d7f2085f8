import PageBuilder.Config

/-! # Themes

The colors of a rendered page. Every token is a hexadecimal color. -/

namespace PageBuilder

/-- The colors of a theme. -/
structure Theme where
  primary : String := "#030213"
  secondary : String := "#468B97"
  accent : String := "#F3AA60"
  destructive : String := "#EF6262"
  background : String := "#FFFFFF"
  foreground : String := "#030213"
  muted : String := "#F1F5F9"
  border : String := "#E2E8F0"
  input : String := "#F8FAFC"
  ring : String := "#030213"
  deriving DecidableEq, Repr

/-- Why a theme is refused. -/
inductive ThemeError where
  | unknownToken (key : String)
  | notAColor (key : String)
  deriving DecidableEq, Repr

def ThemeError.message : ThemeError → String
  | .unknownToken key => "Unknown theme token: " ++ key
  | .notAColor key => "Token `" ++ key ++ "` must be a hex color (#RRGGBB or #RRGGBBAA)"

namespace Theme

/-- The tokens as fields. -/
def toFields (t : Theme) : Fields := [
  ("primary", .str t.primary), ("secondary", .str t.secondary), ("accent", .str t.accent),
  ("destructive", .str t.destructive), ("background", .str t.background),
  ("foreground", .str t.foreground), ("muted", .str t.muted), ("border", .str t.border),
  ("input", .str t.input), ("ring", .str t.ring)]

/-- A field that holds a color. -/
def token (fs : Fields) (key : String) : Except ThemeError String :=
  match Fields.value fs key with
  | .str s => if Text.isHexColor s then .ok s else .error (.notAColor key)
  | _ => .error (.notAColor key)

/-- Check all tokens and take their values. -/
def ofAllFields (fs : Fields) : Except ThemeError Theme := do
  return {
    primary := ← token fs "primary"
    secondary := ← token fs "secondary"
    accent := ← token fs "accent"
    destructive := ← token fs "destructive"
    background := ← token fs "background"
    foreground := ← token fs "foreground"
    muted := ← token fs "muted"
    border := ← token fs "border"
    input := ← token fs "input"
    ring := ← token fs "ring" }

/-- The default theme with the given overrides. -/
def ofFields (overrides : Fields) : Except ThemeError Theme :=
  let defaults := toFields {}
  match overrides.find? fun f => !Fields.has defaults f.1 with
  | some f => .error (.unknownToken f.1)
  | none => ofAllFields (Fields.merge defaults overrides)

/-- The default theme in the colors of the builder. -/
def ofConfig (c : Config) : Theme :=
  { primary := c.primaryColor, secondary := c.secondaryColor }

end Theme

end PageBuilder
