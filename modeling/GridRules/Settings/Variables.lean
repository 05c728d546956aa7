import GridRules.Settings.Basic
import GridRules.Text.UpperCase
import GridRules.Text.WholeNumber

/-!
# Settings from environment variables

Some fields can be set by environment variables. A number that cannot be read leaves its field as it
is.
-/

namespace GridRules.Settings

/-- How the text of a variable becomes the value of a field. -/
inductive Conversion where
  | verbatim
  | number
  | truth
  | upperCase

/-- The value that a text converts to. -/
def Conversion.value? (conversion : Conversion) (text : String) : Option Value :=
  match conversion with
  | .verbatim => some (.text text)
  | .number => (Text.wholeNumber? text).map .int
  | .truth => some (.bool (["true", "1", "yes", "on"].contains text.toLower))
  | .upperCase => some (.text (Text.upperCase text))

/-- The variables that set fields, in the order in which they are looked at. -/
def variableFields : List (String × Field × Conversion) :=
  [("GRIDSYNTH_BLANK_GLYPH", .blankGlyph, .verbatim),
    ("GRIDSYNTH_MAX_HEIGHT", .maxHeight, .number),
    ("GRIDSYNTH_MAX_WIDTH", .maxWidth, .number),
    ("GRIDSYNTH_GROUPING_THRESHOLD", .groupingThreshold, .number),
    ("GRIDSYNTH_WRAP_THRESHOLD", .wrapThreshold, .number),
    ("GRIDSYNTH_MAX_REPORTED", .maxReported, .number),
    ("GRIDSYNTH_EXECUTION_MODE", .mode, .verbatim),
    ("GRIDSYNTH_COMPILER", .compiler, .verbatim),
    ("GRIDSYNTH_COMPILER_TIMEOUT", .timeout, .number),
    ("GRIDSYNTH_DEBUG", .debug, .truth),
    ("GRIDSYNTH_LOG_LEVEL", .logLevel, .upperCase)]

/-- The value that the variables give a field, if one of them does. -/
def variableValue? (lookup : String → Option String) (entry : String × Field × Conversion) :
    Option Value :=
  (lookup entry.1).bind entry.2.2.value?

/-- The settings after the variables were looked at. -/
def override (settings : Settings) (lookup : String → Option String) : Settings :=
  variableFields.foldl (fun settings entry =>
    match variableValue? lookup entry with
    | some value => settings.set entry.2.1 value
    | none => settings) settings

end GridRules.Settings
