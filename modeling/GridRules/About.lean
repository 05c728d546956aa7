import GridRules.Value

/-!
# About the program

What the program says about itself.
-/

namespace GridRules.About

/-- The name of the program. -/
def title : String := "gridsynth"

/-- The version of the program. -/
def version : String := "0.1.0"

/-- The state of development. -/
def status : String := "Development"

/-- The line that the program shows when asked for its version. -/
def versionLine : String :=
  title ++ " " ++ version ++ " (" ++ status ++ ")"

/-- Everything that the program says about itself. -/
def entries : List (String × String) :=
  [("version", version), ("title", title),
    ("description",
      "Discover algebraic rules in character grids and compile them to minimal programs"),
    ("author", "gridsynth contributors"), ("license", "AGPLv3"), ("build", "pre-release"),
    ("status", status)]

/-- The entries as a mapping. -/
def value : Value :=
  Value.object (entries.map fun entry => (entry.1, .text entry.2))

end GridRules.About
