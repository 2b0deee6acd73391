import TableCodegen.Text.Blank
import TableCodegen.Text.Unicode.Case

/-!
# Logging settings

How diagnostics are written, as the environment says.
-/

namespace TableCodegen

open TableCodegen.Text

/-- The layout of diagnostic lines. -/
inductive LogFormat where
  | compact
  | pretty
  | json
  deriving Repr, DecidableEq

/-- The layout with a given name; letter case does not count, and every other name is the compact one. -/
def LogFormat.ofText (name : String) : LogFormat :=
  match String.ofList (Unicode.lowerText name.toList) with
  | "pretty" => pretty
  | "json" => json
  | _ => compact

/-- The settings of diagnostics. -/
structure LogConfig where
  level : String := "info"
  format : LogFormat := .compact
  /-- More directives, separated by commas. -/
  targetFilter : Option String := none
  deriving Repr, DecidableEq

/-- The variable that sets the level. -/
def logLevelVariable : String := "GROM_LOG_LEVEL"

/-- The variable that sets the layout. -/
def logFormatVariable : String := "GROM_LOG_FORMAT"

/-- The variable that sets more directives. -/
def logFilterVariable : String := "GROM_LOG_TARGET_FILTER"

/-- The settings that an environment gives; a blank list of directives is none. -/
def LogConfig.ofEnvironment (lookup : String → Option String) : LogConfig where
  level := (lookup logLevelVariable).getD "info"
  format := ((lookup logFormatVariable).map LogFormat.ofText).getD .compact
  targetFilter := (lookup logFilterVariable).filter fun text => !isBlankText text

end TableCodegen
