import GridRules.Value

/-!
# Fields of the settings

The settings have five sections with fields of their own.
-/

namespace GridRules

/-- The sections of the settings, in their order. -/
inductive Section where
  | grid
  | synthesis
  | verifier
  | execution
  | system
deriving DecidableEq, Repr

namespace Section

/-- All sections. -/
def all : List Section :=
  [grid, synthesis, verifier, execution, system]

/-- The name of a section. -/
def name : Section → String
  | grid => "grid"
  | synthesis => "synthesis"
  | verifier => "verifier"
  | execution => "execution"
  | system => "system"

/-- The section with a name. -/
def ofName? (text : String) : Option Section :=
  all.find? (·.name == text)

theorem mem_all (part : Section) : part ∈ all := by
  cases part <;> decide

theorem ofName?_name (part : Section) : ofName? part.name = some part := by
  cases part <;> decide

end Section

/-- The fields of the settings, in their order. -/
inductive Field where
  | blankGlyph
  | maxHeight
  | maxWidth
  | groupingThreshold
  | wrapThreshold
  | indent
  | maxReported
  | mode
  | compiler
  | compilerFlags
  | timeout
  | debug
  | logLevel
deriving DecidableEq, Repr

namespace Field

/-- All fields. -/
def all : List Field :=
  [blankGlyph, maxHeight, maxWidth, groupingThreshold, wrapThreshold, indent, maxReported, mode,
    compiler, compilerFlags, timeout, debug, logLevel]

/-- The section of a field. -/
def part : Field → Section
  | blankGlyph | maxHeight | maxWidth => .grid
  | groupingThreshold | wrapThreshold | indent => .synthesis
  | maxReported => .verifier
  | mode | compiler | compilerFlags | timeout => .execution
  | debug | logLevel => .system

/-- The name of a field within its section. -/
def name : Field → String
  | blankGlyph => "blank_glyph"
  | maxHeight => "max_height"
  | maxWidth => "max_width"
  | groupingThreshold => "grouping_threshold"
  | wrapThreshold => "wrap_threshold"
  | indent => "indent"
  | maxReported => "max_reported_differences"
  | mode => "mode"
  | compiler => "compiler"
  | compilerFlags => "compiler_flags"
  | timeout => "timeout"
  | debug => "debug"
  | logLevel => "log_level"

/-- The default of a field. -/
def default : Field → Value
  | blankGlyph => .text " "
  | maxHeight => .int 500
  | maxWidth => .int 500
  | groupingThreshold => .int 20
  | wrapThreshold => .int 5
  | indent => .text "    "
  | maxReported => .int 10
  | mode => .text "interpreter"
  | compiler => .text "g++"
  | compilerFlags => .list [.text "-O0"]
  | timeout => .int 30
  | debug => .bool false
  | logLevel => .text "WARNING"

/-- The fields of a section. -/
def ofSection (part : Section) : List Field :=
  all.filter (·.part == part)

/-- The field of a section with a name. -/
def ofName? (part : Section) (text : String) : Option Field :=
  (ofSection part).find? (·.name == text)

theorem ofName?_name (field : Field) : ofName? field.part field.name = some field := by
  cases field <;> decide

end Field

end GridRules
