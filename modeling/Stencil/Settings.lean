import Stencil.Function.Timestamp
import Stencil.Text.Blank
import Stencil.Text.Lowercase

/-!
# Settings

What the variables of the environment say about making pages and about reporting on it. A variable
that says nothing usable leaves the usual choice.
-/

namespace Stencil

/-- The variables of an environment. -/
abbrev Environment := String → Option String

/-- A variable that is set to something. -/
def Environment.nonempty? (environment : Environment) (name : String) : Option String :=
  (environment name).filter (· ≠ "")

/-- How pages are made. -/
structure Settings where
  /-- The directory of the templates. -/
  directory : String
  /-- The pattern of dates that are written without one. -/
  pattern : String
  /-- Whether the directory is watched for changes. -/
  watching : Bool
deriving DecidableEq, Repr

namespace Settings

/-- The directory of the templates where none is named. -/
def defaultDirectory : String := "templates"

/-- Whether a text switches something on. -/
def isOn (text : String) : Bool :=
  ["1", "true", "yes", "on"].contains (Text.lowercase (Text.trimmed text))

/-- The settings that the variables make. -/
def ofEnvironment (environment : Environment) : Settings where
  directory := (environment.nonempty? "KEML_TEMPLATE_DIR").getD defaultDirectory
  pattern := (environment.nonempty? "KEML_DATETIME_FORMAT").getD Calendar.defaultPattern
  watching := ((environment "KEML_HOT_RELOAD").map isOn).getD false

end Settings

/-- How a report is laid out. -/
inductive ReportFormat where
  | json
  | pretty
deriving DecidableEq, Repr

/-- What is reported, and how. -/
structure ReportSettings where
  level : String
  format : ReportFormat
  /-- Further directives on what is reported. -/
  directives : Option String
  /-- Whether the places in the program are named. -/
  locations : Bool
deriving DecidableEq, Repr

namespace ReportSettings

/-- The format that a text names, in any case of letters. -/
def formatOf (text : String) : ReportFormat :=
  if Text.lowercase text = "json" then .json else .pretty

/-- The settings that the variables make. -/
def ofEnvironment (environment : Environment) : ReportSettings where
  level := (environment "KEML_LOG_LEVEL").getD "info"
  format := ((environment "KEML_LOG_FORMAT").map formatOf).getD .pretty
  directives := (environment "KEML_LOG_TARGET_FILTER").filter (Text.trimmed · ≠ "")
  locations := environment "KEML_LOG_INCLUDE_LOCATION" = some "true"

end ReportSettings

end Stencil
