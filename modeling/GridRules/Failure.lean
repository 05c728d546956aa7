import GridRules.Value

/-!
# Failures

A failure has a category, a message and, in most cases, a code that names its cause and details
that a program can read. Each part of the library has its own type of causes; this module holds
what they are reported as.
-/

namespace GridRules

/-- The categories of failures. Those of the first group are reported by this library; those of the
second arise where a value does not fit the operation that it is given to. A foreign category
belongs to a program that uses the library; others may have the same name in another place. -/
inductive Category where
  | general
  | configuration
  | validation
  | grid
  | programText
  | execution
  | badIndex
  | badType
  | badValue
  | badMember
  | badKey
  | badEncoding
  | tooLarge
  | missingFile
  | isDirectory
  | notDirectory
  | fileExists
  | system
  | runtime
  | unclassified
  | foreign (name place : String)
deriving DecidableEq, Repr, Inhabited

/-- The categories whose failures carry a code and details. -/
def Category.isCoded : Category → Bool
  | .general | .configuration | .validation | .grid | .programText | .execution => true
  | _ => false

/-- The name of a category. -/
def Category.name : Category → String
  | .general => "GridSynthException"
  | .configuration => "ConfigurationError"
  | .validation => "ValidationError"
  | .grid => "GridError"
  | .programText => "ProgramSyntaxError"
  | .execution => "ExecutionError"
  | .badIndex => "IndexError"
  | .badType => "TypeError"
  | .badValue => "ValueError"
  | .badMember => "AttributeError"
  | .badKey => "KeyError"
  | .badEncoding => "UnicodeDecodeError"
  | .tooLarge => "OverflowError"
  | .missingFile => "FileNotFoundError"
  | .isDirectory => "IsADirectoryError"
  | .notDirectory => "NotADirectoryError"
  | .fileExists => "FileExistsError"
  | .system => "OSError"
  | .runtime => "RuntimeError"
  | .unclassified => "Exception"
  | .foreign name _ => name

/-- What is reported of a failure. -/
structure Failure where
  category : Category
  message : String := ""
  code : Option String := none
  details : List (Value × Value) := []
deriving Repr, Inhabited

namespace Failure

/-- The text of a failure: the code in brackets, if its category has codes and it has one, before
the message. -/
def text (failure : Failure) : String :=
  match failure.code with
  | none | some "" => failure.message
  | some code =>
    if failure.category.isCoded then "[" ++ code ++ "] " ++ failure.message else failure.message

/-- A failure with nothing but its category. -/
def plain (category : Category) : Failure :=
  { category }

end Failure

end GridRules
