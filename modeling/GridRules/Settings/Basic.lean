import GridRules.Decimal.Binary64
import GridRules.Settings.Field
import GridRules.Text.Classes
import GridRules.Value.Display
import GridRules.Failure

/-!
# Settings

The settings give every field a value. Values are stored as they come; whether they are usable shows
only when the settings are checked. The check goes through the fields in order, and its first
complaint counts. A value that cannot be compared as its field asks is a fault of another kind.
-/

namespace GridRules

/-- A value for every field. A section whose check was overwritten by a value cannot be checked
any more. -/
structure Settings where
  value : Field → Value
  unchecked : List Section := []

namespace Settings

/-- The settings without any file or variable. -/
def default : Settings where
  value := Field.default

instance : Inhabited Settings := ⟨default⟩

/-- The settings with another value in one field. -/
def set (settings : Settings) (field : Field) (value : Value) : Settings :=
  { settings with value := fun other => if other = field then value else settings.value other }

@[simp] theorem value_set (settings : Settings) (field other : Field) (value : Value) :
    (settings.set field value).value other =
      if other = field then value else settings.value other :=
  rfl

/-- The settings as nested mappings. -/
def toValue (settings : Settings) : Value :=
  Value.object (Section.all.map fun part =>
    (part.name, Value.object ((Field.ofSection part).map fun field =>
      (field.name, settings.value field))))

/-! ### The check -/

/-- The complaints about values of fields. -/
inductive Complaint where
  | blankGlyph
  | maxDimensions
  | groupingThreshold
  | wrapThreshold
  | indent
  | maxReported
  | mode (value : Value)
  | compiler
  | timeout
  | logLevel (value : Value)
deriving Repr

/-- The outcomes of a check that does not pass: a complaint, a value of a kind that cannot be
compared, one that has no text, or a complaint about a value that cannot be shown. -/
inductive CheckFault where
  | complaint (complaint : Complaint)
  | incomparable
  | textless
  | unshowable
deriving Repr

/-- The code and the wording of a complaint. -/
def Complaint.wording : Complaint → String × String
  | .blankGlyph => ("INVALID_BLANK_GLYPH", "Blank glyph must be a single character")
  | .maxDimensions => ("INVALID_MAX_DIMENSIONS", "Maximum grid dimensions must be positive")
  | .groupingThreshold =>
    ("INVALID_GROUPING_THRESHOLD", "Grouping threshold cannot be negative")
  | .wrapThreshold => ("INVALID_WRAP_THRESHOLD", "Wrap threshold must be positive")
  | .indent => ("INVALID_INDENT", "Indent must only contain whitespace")
  | .maxReported => ("INVALID_MAX_REPORTED", "Max reported differences must be positive")
  | .mode value =>
    ("UNSUPPORTED_EXECUTION_MODE", "Unsupported execution mode: " ++ value.shown)
  | .compiler => ("EMPTY_COMPILER", "Compiler cannot be empty")
  | .timeout => ("INVALID_TIMEOUT", "Timeout must be positive")
  | .logLevel value => ("INVALID_LOG_LEVEL", "Invalid log level: " ++ value.shown)

/-- What is reported of a complaint. -/
def Complaint.failure (complaint : Complaint) : Failure where
  category := .validation
  code := complaint.wording.1
  message := complaint.wording.2

/-- What is reported of a check that does not pass. -/
def CheckFault.failure : CheckFault → Failure
  | .complaint reason => reason.failure
  | .incomparable => .plain .badType
  | .textless => .plain .badMember
  | .unshowable => .plain .badValue

/-- The fault of a complaint. -/
def CheckFault.ofComplaint (complaint : Complaint) : CheckFault :=
  match complaint with
  | .mode value | .logLevel value =>
    if value.hasLongNumber then .unshowable else .complaint complaint
  | _ => .complaint complaint

/-- The number of parts of a value that has parts. -/
def size? : Value → Option Nat
  | .text s => some s.length
  | .bytes data => some data.length
  | .list items => some items.length
  | .pair _ _ => some 2
  | .set members => some members.length
  | .mapping entries => some entries.length
  | _ => none

/-- Whether a number is at least `bound`; a value that is no number cannot be compared. What is no
number of the real line is less than nothing. -/
def isAtLeast? (bound : Int) : Value → Option Bool
  | .int n => some (bound ≤ n)
  | .bool b => some (bound ≤ if b then 1 else 0)
  | .real x => some (x.compareInt? bound != some .lt)
  | _ => none

/-- Whether a number is above zero. What is no number of the real line is not below or at zero. -/
def isPositive? : Value → Option Bool
  | .int n => some (0 < n)
  | .bool b => some b
  | .real x => some (x.compareInt? 0 == some .gt || x.compareInt? 0 == none)
  | _ => none

/-- Whether a value counts as empty. -/
def isEmpty : Value → Bool
  | .null => true
  | .bool b => !b
  | .int n => n == 0
  | .real x => x.isZero
  | .text s => s == ""
  | .bytes data => data.isEmpty
  | .list items => items.isEmpty
  | .set members => members.isEmpty
  | .mapping entries => entries.isEmpty
  | .day _ | .moment _ | .pair _ _ | .again _ => false

/-- Passes if a comparison holds. -/
def demand (holds : Option Bool) (complaint : Complaint) : Except CheckFault Unit :=
  match holds with
  | some true => .ok ()
  | some false => .error (.ofComplaint complaint)
  | none => .error .incomparable

/-- The ways to run a program. -/
def modes : List String := ["interpreter", "compiler"]

/-- The log levels. -/
def logLevels : List String := ["DEBUG", "INFO", "WARNING", "ERROR", "CRITICAL"]

/-- Whether a value is one of some texts. -/
def isOneOf (texts : List String) : Value → Bool
  | .text s => texts.contains s
  | _ => false

/-- Whether a value can be looked up among others. -/
def canBeLookedUp : Value → Bool
  | .list _ | .mapping _ | .again _ => false
  | _ => true

/-- Whether a text or bytes hold nothing but blanks; none for other values. -/
def isAllBlank? : Value → Option Bool
  | .text s => some (s.toList.all Text.isBlank)
  | .bytes data => some (data.all fun byte => (Char.ofNat byte.toNat).isWhitespace
      || byte == 0x0b || byte == 0x0c)
  | _ => none

/-- Checks one section. -/
def checkSection (settings : Settings) : Section → Except CheckFault Unit
  | .grid => do
    demand ((size? (settings.value .blankGlyph)).map (· == 1)) .blankGlyph
    demand (isPositive? (settings.value .maxHeight)) .maxDimensions
    demand (isPositive? (settings.value .maxWidth)) .maxDimensions
  | .synthesis => do
    demand (isAtLeast? 0 (settings.value .groupingThreshold)) .groupingThreshold
    demand (isAtLeast? 1 (settings.value .wrapThreshold)) .wrapThreshold
    match isAllBlank? (settings.value .indent) with
    | some blank => demand (some blank) .indent
    | none => .error .textless
  | .verifier => demand (isPositive? (settings.value .maxReported)) .maxReported
  | .execution => do
    let mode := settings.value .mode
    demand (if canBeLookedUp mode then some (isOneOf modes mode) else none) (.mode mode)
    demand (some (!isEmpty (settings.value .compiler))) .compiler
    demand (isPositive? (settings.value .timeout)) .timeout
  | .system =>
    let level := settings.value .logLevel
    demand (some (isOneOf logLevels level)) (.logLevel level)

/-- Checks some sections in order. -/
def checkSections (settings : Settings) : List Section → Except CheckFault Unit
  | [] => .ok ()
  | part :: parts => do
    if settings.unchecked.contains part then
      throw .incomparable
    settings.checkSection part
    settings.checkSections parts

/-- Checks all sections in order. -/
def check (settings : Settings) : Except CheckFault Unit :=
  settings.checkSections Section.all

end Settings

end GridRules
