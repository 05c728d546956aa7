/-!
# Lines

A text is a sequence of lines separated by line feeds. Splitting keeps empty lines, so a text with
`n` line feeds has `n + 1` lines and joining the lines gives the text back.
-/

namespace GridRules.Text

/-- The pieces of a text between the occurrences of a separator. -/
def splitOn (separator : Char) : List Char → List (List Char)
  | [] => [[]]
  | c :: rest =>
    match splitOn separator rest with
    | [] => [[]]
    | piece :: pieces => if c == separator then [] :: piece :: pieces else (c :: piece) :: pieces

/-- The lines of a text. -/
def lines (text : List Char) : List (List Char) :=
  splitOn '\n' text

/-- Lines joined by line feeds. -/
def unlines : List (List Char) → List Char
  | [] => []
  | [line] => line
  | line :: next :: rest => line ++ '\n' :: unlines (next :: rest)

theorem splitOn_ne_nil (separator : Char) (text : List Char) : splitOn separator text ≠ [] := by
  cases text with
  | nil => simp [splitOn]
  | cons c rest =>
      rw [splitOn]
      split
      · simp
      · split <;> simp

theorem unlines_cons {pieces : List (List Char)} (line : List Char) (h : pieces ≠ []) :
    unlines (line :: pieces) = line ++ '\n' :: unlines pieces := by
  cases pieces with
  | nil => exact absurd rfl h
  | cons piece rest => rfl

theorem unlines_lines (text : List Char) : unlines (lines text) = text := by
  induction text with
  | nil => rfl
  | cons c rest ih =>
      have hne := splitOn_ne_nil '\n' rest
      rw [lines] at ih ⊢
      rw [splitOn]
      split
      · next h => exact absurd h hne
      · next piece pieces h =>
          rw [h] at ih
          by_cases hc : c = '\n'
          · simp [hc, unlines_cons, ih]
          · rw [← ih]
            cases pieces <;> simp [hc, unlines]

/-- The text without one line feed at its end. -/
def dropFinalNewline (text : List Char) : List Char :=
  if text.getLast? = some '\n' then text.dropLast else text

/-- Every carriage return followed by a line feed gives way to the line feed alone. -/
def dropCarriageReturns : List Char → List Char
  | [] => []
  | '\r' :: '\n' :: rest => '\n' :: dropCarriageReturns rest
  | c :: rest => c :: dropCarriageReturns rest

/-- All three line endings, carriage return and line feed together or either of them alone, become
line feeds. -/
def universalNewlines : List Char → List Char
  | [] => []
  | '\r' :: '\n' :: rest => '\n' :: universalNewlines rest
  | '\r' :: rest => '\n' :: universalNewlines rest
  | c :: rest => c :: universalNewlines rest

end GridRules.Text
