import GridRules.Grid.Reading
import GridRules.Settings.Basic
import GridRules.Workspace

/-!
# Patterns

A pattern is a text, in a file or on standard input, that draws a grid. The settings name the blank
character and bound the size of the grid.
-/

namespace GridRules

/-- The reasons for which a pattern gives no grid. -/
inductive PatternFault where
  | unreadable (name : String) (fault : FileFault)
  | noGrid (fault : GridFault)
  | tooLarge (height width : Nat) (maxHeight maxWidth : Value)
  | unusableBound
deriving Repr

/-- What is reported of a pattern without a grid. -/
def PatternFault.failure : PatternFault → Failure
  | .unreadable _ .badName => FileFault.badName.failure
  | .unreadable name fault =>
    { category := .grid, code := "FILE_READ_ERROR",
      message := "Cannot read " ++ name ++ ": " ++ fault.wording }
  | .noGrid fault => fault.failure
  | .tooLarge height width maxHeight maxWidth =>
    if maxHeight.hasLongNumber || maxWidth.hasLongNumber then .plain .badValue
    else
      { category := .grid, code := "PATTERN_TOO_LARGE",
        message := "Pattern is " ++ toString height ++ "x" ++ toString width
          ++ ", larger than the allowed " ++ maxHeight.shown ++ "x" ++ maxWidth.shown }
  | .unusableBound => .plain .badType

namespace Workspace

/-- The name that stands for standard input. -/
def inputName : String := "-"

/-- The text on standard input, which is gone once it was read, or that of a file. -/
def readText (workspace : Workspace) (name : String) :
    Except PatternFault (String × Workspace) :=
  if name = inputName then
    .ok (String.ofList (Text.universalNewlines workspace.input.toList),
      { workspace with input := "" })
  else
    match workspace.read (Path.ofText name) with
    | .ok text => .ok (text, workspace)
    | .error fault => .error (.unreadable name fault)

end Workspace

namespace Settings

/-- The character that leaves cells empty, if the settings name one. -/
def blank (settings : Settings) : Option Char :=
  match settings.value .blankGlyph with
  | .text s => Grid.singleCharacter? s
  | _ => none

/-- Whether a length is above a bound; none if the bound is no number. -/
def exceeds? (length : Nat) (bound : Value) : Option Bool :=
  (isAtLeast? length bound).map not

/-- Refuses a grid beyond the bounds of the settings. -/
def bounded (settings : Settings) (grid : Grid) : Except PatternFault Grid :=
  let maxHeight := settings.value .maxHeight
  let maxWidth := settings.value .maxWidth
  let tooLarge : PatternFault := .tooLarge grid.height grid.width maxHeight maxWidth
  match exceeds? grid.height maxHeight with
  | none => .error .unusableBound
  | some true => .error tooLarge
  | some false =>
    match exceeds? grid.width maxWidth with
    | none => .error .unusableBound
    | some true => .error tooLarge
    | some false => .ok grid

end Settings

/-- The grid of a pattern, and the workspace after it was read. -/
def Workspace.pattern (workspace : Workspace) (settings : Settings) (name : String) :
    Except PatternFault (Grid × Workspace) := do
  let (text, workspace) ← workspace.readText name
  let grid ← (Grid.ofText text settings.blank).mapError .noGrid
  let grid ← settings.bounded grid
  return (grid, workspace)

end GridRules
