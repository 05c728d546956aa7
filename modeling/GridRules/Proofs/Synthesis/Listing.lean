import GridRules.Proofs.Synthesis.CharacterLiteral
import GridRules.Proofs.Synthesis.Condition

/-!
# The statements of a listing

A list of rules has a text of a program, which is read as two declarations, two loops and a return.
In the inner loop stands one chain of alternatives, with a branch for each rule in order.
-/

namespace GridRules

open Program

/-! ### Lines -/

/-- The characters of lines, with a line feed behind each. -/
def lineText (lines : List String) : List Char :=
  lines.flatMap fun line => line.toList ++ ['\n']

theorem lineText_append (lines others : List String) :
    lineText (lines ++ others) = lineText lines ++ lineText others :=
  List.flatMap_append

theorem toList_joined_lines (lines : List String) (last : String) :
    (Synthesis.joined "\n" (lines ++ [last])).toList = lineText lines ++ last.toList := by
  induction lines with
  | nil => rfl
  | cons line lines ih =>
      have hjoined : Synthesis.joined "\n" (line :: (lines ++ [last])) =
          line ++ "\n" ++ Synthesis.joined "\n" (lines ++ [last]) := by
        cases lines <;> rfl
      rw [List.cons_append, hjoined]
      simp [ih, lineText]

/-- The text has the given lexemes whatever follows it, and no number among them is too long. -/
def Says (text : List Char) (ws : List Lexeme) : Prop :=
  Closed text ws ∧ ∀ w ∈ ws, w.IsShort

theorem Says.append {a b : List Char} {ws vs : List Lexeme} (ha : Says a ws) (hb : Says b vs) :
    Says (a ++ b) (ws ++ vs) :=
  ⟨ha.1.append hb.1, List.forall_mem_append.2 ⟨ha.2, hb.2⟩⟩

theorem Says.append_after {a b : List Char} {ws vs : List Lexeme} (ha : Open a ws)
    (hshort : ∀ w ∈ ws, w.IsShort) (hb : Says b vs) (hends : Ends b) (hne : b ≠ []) :
    Says (a ++ b) (ws ++ vs) :=
  ⟨ha.append_closed hb.1 hends hne, List.forall_mem_append.2 ⟨hshort, hb.2⟩⟩

theorem says_blank {text : List Char} (h : ∀ c ∈ text, Text.isBlank c = true) : Says text [] :=
  ⟨closed_of_blank h, by simp⟩

/-- A text of fixed lexemes, found in at most `count` pieces. -/
def IsFixed (count : Nat) (text : List Char) (ws : List Lexeme) : Prop :=
  frontLexemes? count text = some (ws, []) ∧
    (¬ ['/', '/'] <:+: text ∧ '#' ∉ text ∧ ws.IsChain fun v w => ¬ opensComment v w) ∧
    ∀ w ∈ ws, w.IsShort

instance (count : Nat) (text : List Char) (ws : List Lexeme) : Decidable (IsFixed count text ws) :=
  inferInstanceAs (Decidable (_ ∧ _ ∧ _))

/-- A fixed text in front of a blank. -/
theorem IsFixed.spaced {count : Nat} {text : List Char} {ws : List Lexeme}
    (h : IsFixed count text ws) {c : Char} (hc : c ∈ [' ', '\n']) : Says (text ++ [c]) ws := by
  obtain ⟨hend, hblank⟩ : isEnd c = true ∧ Text.isBlank c = true := by
    simp only [List.mem_cons, List.not_mem_nil, or_false] at hc
    rcases hc with rfl | rfl <;> decide
  exact ⟨(open_of_frontLexemes? h.1 h.2.1).closed_blank hend hblank, h.2.2⟩

/-- The parts of the lines of a listing that are the same in all layouts. -/
structure FixedParts : Prop where
  declaration : ∀ name ∈ ["H", "W"],
    IsFixed 5 ("int " ++ name ++ " =").toList [word "int", word name, symbol "="]
  insertion : IsFixed 3 "cout <<".toList [word "cout", symbol "<<"]
  lineEnd : IsFixed 6 "cout << endl;".toList
    [word "cout", symbol "<<", word "endl", symbol ";"]
  exit : IsFixed 5 "return 0;".toList ([word "return"] ++ ([⟨.number, "0"⟩] ++ [symbol ";"]))
  loop : ∀ entry ∈ [("r", "H"), ("c", "W")],
    IsFixed 30 ("for (int " ++ entry.1 ++ " = 0; " ++ entry.1 ++ " < " ++ entry.2 ++ "; "
      ++ entry.1 ++ "++) \x7b").toList
      ([word "for"] ++ (loopHead entry.1 [⟨.number, "0"⟩] ([word entry.1] ++
        symbol "<" :: [word entry.2]) ([word entry.1] ++ [symbol "++"]) ++ [symbol "\x7b"]))
  nextBranch : IsFixed 5 "\x7d else if".toList [symbol "\x7d", word "else", word "if"]
  lastBranch : IsFixed 5 "\x7d else \x7b".toList [symbol "\x7d", word "else", symbol "\x7b"]
  names : IsFixed 7 "using namespace std;".toList usingLine
  main : IsFixed 8 "int main() \x7b".toList (mainHead ++ [symbol "\x7b"])

theorem fixedParts : FixedParts where
  declaration := by decide +kernel
  insertion := by decide +kernel
  lineEnd := by decide +kernel
  exit := by decide +kernel
  loop := by decide +kernel
  nextBranch := by decide +kernel
  lastBranch := by decide +kernel
  names := by decide +kernel
  main := by decide +kernel

theorem says_semicolon : Says [';', '\n'] [symbol ";"] := by
  have hclosed : Closed [';'] [symbol ";"] := closed_of_piece? fun _ => rfl
  have hblank : Closed ['\n'] [] := closed_of_blank (List.forall_mem_singleton.2 (by decide))
  exact ⟨hclosed.append hblank, by decide⟩

/-! ### Statements -/

/-- The lines are statements whatever follows them. -/
def Spells (lines : List String) (statements : List Statement) : Prop :=
  ∃ ws, Says (lineText lines) ws ∧ Forms (.statements statements) ws

theorem Spells.append {lines others : List String} {first second : List Statement}
    (h : Spells lines first) (h' : Spells others second) :
    Spells (lines ++ others) (first ++ second) := by
  obtain ⟨ws, hlexemes, hforms⟩ := h
  obtain ⟨vs, hlexemes', hforms'⟩ := h'
  refine ⟨ws ++ vs, ?_, hforms.append hforms'⟩
  rw [lineText_append]
  exact hlexemes.append hlexemes'

theorem spells_empty : Spells [""] [] :=
  ⟨[], says_blank (List.forall_mem_singleton.2 (by decide)), .nil⟩

section Lines

variable {indent : String} (hindent : Indents indent)

include hindent

theorem says_indented {line : String} {ws : List Lexeme} (h : Says (line.toList ++ ['\n']) ws) :
    Says (lineText [indent ++ line]) ws := by
  simpa [lineText] using (says_blank hindent).append h

theorem says_line {line : String} {count : Nat} {ws : List Lexeme}
    (h : IsFixed count line.toList ws) : Says (lineText [indent ++ line]) ws :=
  says_indented hindent (h.spaced (by decide))

/-- The line that declares the variable of a side, with a comment behind it. -/
def declareLine (indent name value remark : String) : String :=
  indent ++ ("int " ++ name ++ " = " ++ value ++ ";  //" ++ remark)

theorem spells_declareLine {name value remark : String} {e : Expr} (hname : name ∈ ["H", "W"])
    (hvalue : Writes 1 value.toList e) (hremark : '\n' ∉ remark.toList) :
    Spells [declareLine indent name value remark] [.declare name e] := by
  obtain ⟨ws, hopen, hderives, hshort⟩ := hvalue
  have hstart := (fixedParts.declaration name hname).spaced (c := ' ') (by decide)
  have hblank : Says [' ', ' '] [] := says_blank (List.all_eq_true.1 (by decide))
  have hsemicolon : Says [';'] [symbol ";"] := ⟨closed_of_piece? fun _ => rfl, by decide⟩
  have hremark : Says ('/' :: '/' :: remark.toList ++ ['\n']) [] :=
    ⟨closed_lineComment hremark, by simp⟩
  have hend := (hsemicolon.append hblank).append hremark
  have hline := hstart.append (.append_after hopen hshort hend (by simp [Ends, isEnd]) (by simp))
  refine ⟨_, ?_, (Forms.declare hderives).one⟩
  simpa [lineText, declareLine, binding] using (says_blank hindent).append hline

/-- A line that prints one glyph. -/
theorem spells_print {w : Lexeme} {glyph : Char} {literal : String}
    (hliteral : Says literal.toList [w]) (hglyph : IsGlyph [w] glyph) :
    Spells [indent ++ ("cout << " ++ literal ++ ";")] [.print [glyph]] := by
  have hstart := fixedParts.insertion.spaced (c := ' ') (by decide)
  refine ⟨_, says_indented hindent ?_, (Forms.print .absent (.cons hglyph .nil) (by simp)).one⟩
  simpa using (hstart.append hliteral).append says_semicolon

theorem spells_glyph (glyph : Char) :
    Spells [indent ++ ("cout << " ++ Synthesis.characterLiteral (String.singleton glyph) ++ ";")]
      [.print [glyph]] :=
  spells_print hindent ⟨closed_characterLiteral glyph, by simp [Lexeme.IsShort]⟩
    (isGlyph_characterLiteral glyph)

theorem spells_space : Spells [indent ++ "cout << ' ';"] [.print [' ']] :=
  spells_glyph hindent ' '

theorem spells_endLine : Spells [indent ++ "cout << endl;"] [.print ['\n']] :=
  ⟨_, says_line hindent fixedParts.lineEnd,
    (Forms.print .absent (.cons (.endLine .absent) .nil) (by simp)).one⟩

theorem spells_exit : Spells [indent ++ "return 0;"] [.exit (.number 0)] := by
  have hzero : Derives 1 [⟨.number, "0"⟩] (.number 0) :=
    (Derives.number "0").looser (by decide) le_rfl
  exact ⟨_, says_line hindent fixedParts.exit, (Forms.exit hzero).one⟩

/-- The lines of a loop over rows or columns. -/
theorem spells_loop {counter bound : String} (h : (counter, bound) ∈ [("r", "H"), ("c", "W")])
    {lines : List String} {body : List Statement} (hbody : Spells lines body) :
    Spells ([indent ++ ("for (int " ++ counter ++ " = 0; " ++ counter ++ " < " ++ bound ++ "; "
        ++ counter ++ "++) \x7b")] ++ lines ++ [indent ++ "\x7d"])
      [.loop counter (.number 0) (.binary .less (.var counter) (.var bound)) body] := by
  obtain ⟨us, hlexemes, hforms⟩ := hbody
  have hall : ∀ entry ∈ [("r", "H"), ("c", "W")],
      entry.1 ∈ ["r", "c", "H", "W"] ∧ entry.2 ∈ ["r", "c", "H", "W"] := by
    decide
  obtain ⟨hleft, hright⟩ := hall _ h
  have hhead := fixedParts.loop _ h
  have hbrace : IsFixed 1 "\x7d".toList [symbol "\x7d"] := by decide
  have hzero : Derives 1 [⟨.number, "0"⟩] (.number 0) :=
    (Derives.number "0").looser (by decide) le_rfl
  have hcondition := Derives.binary .less rfl
    ((derives_variable hleft).looser (by decide) le_rfl)
    ((derives_variable hright).looser (by decide) le_rfl)
  have hloop := Forms.loop hzero (hcondition.looser (by decide : 1 ≤ 4) (by decide))
    (show Increments counter _ from .behind) (.block hforms)
  refine ⟨_, ?_, hloop.one⟩
  have hlines := ((says_line hindent hhead).append hlexemes).append
    (says_line hindent hbrace)
  rw [lineText_append, lineText_append]
  simpa [word, braced, BinaryOperator.text] using hlines

end Lines

/-! ### Chains of alternatives -/

/-- A rule stands in a program as a branch on an expression that prints a character. -/
def IsBranch (layout : Layout) (table : CellTable) (rule : Rule) (branch : Expr × Char) : Prop :=
  (∃ text, Synthesis.condition layout table rule = .ok text ∧ Writes 1 text.toList branch.1) ∧
    rule.symbol = String.singleton branch.2

/-- The statements that print one cell. -/
def cellStatements : List (Expr × Char) → List Statement
  | [] => [.print [' ']]
  | first :: rest =>
    [.choose ((first :: rest).map fun branch => (branch.1, [.print [branch.2]])) [.print [' ']]]

/-- The lexemes are what follows the first branch of a chain: further branches and a last
alternative. -/
def Continues (us : List Lexeme) (branches : List (Expr × List Statement))
    (otherwise : List Statement) : Prop :=
  ∀ {ws vs condition body}, Derives 1 ws condition → Forms (.statements body) vs →
    Forms (.chain false ((condition, body) :: branches) otherwise)
      (parenthesized ws ++ (braced vs ++ us))

section Branches

variable {layout : Layout} (hlayout : layout.IsPlain) {table : CellTable}

include hlayout

theorem exists_branchLines {rule : Rule} {branch : Expr × Char}
    (h : IsBranch layout table rule branch)
    {count : Nat} {opener : String} {os : List Lexeme} (hopener : IsFixed count opener.toList os) :
    ∃ lines ws vs, Synthesis.branchLines layout table opener rule = .ok lines ∧
      Derives 1 ws branch.1 ∧ Forms (.statements [.print [branch.2]]) vs ∧
      Says (lineText lines) (os ++ (parenthesized ws ++ ([symbol "\x7b"] ++ vs))) := by
  obtain ⟨⟨text, htext, ws, hopen, hderives, hshort⟩, hsymbol⟩ := h
  obtain ⟨indent, hbranch, hindent⟩ := exists_indentation hlayout 3
  obtain ⟨indent', hbody, hindent'⟩ := exists_indentation hlayout 4
  obtain ⟨vs, hprint, hforms⟩ := spells_glyph hindent' branch.2
  refine ⟨_, ws, vs, by rw [Synthesis.branchLines, htext, ok_bind, hbranch, ok_bind, hbody]; rfl,
    hderives, hforms, ?_⟩
  have hstart := (hopener.spaced (c := ' ') (by decide)).append ⟨closed_opening, by decide⟩
  have hbrace : Says [')', ' ', '\x7b', '\n'] [symbol ")", symbol "\x7b"] := by
    have hfixed : IsFixed 3 [')', ' ', '\x7b'] [symbol ")", symbol "\x7b"] := by decide
    exact hfixed.spaced (by decide)
  have hcondition := Says.append_after hopen hshort hbrace (by simp [Ends, isEnd]) (by simp)
  have hhead : Says ((opener ++ (" (" ++ (text ++ ") \x7b"))).toList ++ ['\n'])
      (os ++ [symbol "("] ++ (ws ++ [symbol ")", symbol "\x7b"])) := by
    simpa using hstart.append hcondition
  have hlines := (says_indented hindent hhead).append hprint
  rw [← lineText_append] at hlines
  simpa [parenthesized, hsymbol, String.append_assoc] using hlines

/-- The lines behind the first branch of a chain: the closing brace of its block, the further
branches and the last alternative. -/
theorem exists_alternatives {rules : List Rule} {branches : List (Expr × Char)}
    (h : List.Forall₂ (IsBranch layout table) rules branches) {indent indent' : String}
    (hindent : Indents indent) (hindent' : Indents indent') :
    ∃ others us, rules.mapM (Synthesis.branchLines layout table "\x7d else if") = .ok others ∧
      Continues us (branches.map fun branch => (branch.1, [.print [branch.2]])) [.print [' ']] ∧
      Says (lineText (others.flatten
        ++ [indent ++ "\x7d else \x7b", indent' ++ "cout << ' ';", indent ++ "\x7d"]))
        (symbol "\x7d" :: us) := by
  induction h with
  | nil =>
      obtain ⟨os, hprint, hforms⟩ := spells_space hindent'
      have hbrace : IsFixed 1 "\x7d".toList [symbol "\x7d"] := by decide
      have hlines := ((says_line hindent fixedParts.lastBranch).append hprint).append
        (says_line hindent hbrace)
      rw [← lineText_append, ← lineText_append] at hlines
      refine ⟨[], [word "else"] ++ braced os, rfl, ?_, by simpa [braced] using hlines⟩
      intro ws vs condition body hcondition hbody
      exact .otherwise hcondition (.block hbody) (.block hforms)
        (by simp [braced, symbol, word])
  | @cons rule branch rules branches hbranch _ ih =>
      obtain ⟨others, us, hothers, hcontinues, hlexemes⟩ := ih
      obtain ⟨lines, ws, vs, hlines, hderives, hforms, hline⟩ :=
        exists_branchLines hlayout hbranch fixedParts.nextBranch
      refine ⟨lines :: others,
        [word "else", word "if"] ++ (parenthesized ws ++ (braced vs ++ us)), ?_, ?_, ?_⟩
      · rw [List.mapM_cons, hlines, hothers]
        rfl
      · intro ws vs condition body hcondition hbody
        exact .next hcondition (.block hbody) (hcontinues hderives hforms)
      · rw [List.flatten_cons, List.append_assoc, lineText_append]
        simpa [braced] using hline.append hlexemes

theorem exists_cellLines {rules : List Rule} {branches : List (Expr × Char)}
    (h : List.Forall₂ (IsBranch layout table) rules branches) :
    ∃ lines, Synthesis.cellLines layout table rules = .ok lines ∧
      Spells lines (cellStatements branches) := by
  obtain ⟨indent, hbranch, hindent⟩ := exists_indentation hlayout 3
  cases h with
  | nil =>
      refine ⟨_, ?_, spells_space hindent⟩
      rw [Synthesis.cellLines, hbranch]
      rfl
  | @cons rule branch rules branches hfirst hrest =>
      obtain ⟨indent', hbody, hindent'⟩ := exists_indentation hlayout 4
      obtain ⟨others, us, hothers, hcontinues, hlexemes⟩ :=
        exists_alternatives hlayout hrest hindent hindent'
      have hopener : IsFixed 1 "if".toList [word "if"] := by decide
      obtain ⟨start, ws, vs, hstart, hderives, hforms, hline⟩ :=
        exists_branchLines hlayout hfirst hopener
      have hlines : Synthesis.cellLines layout table (rule :: rules) =
          .ok (start ++ others.flatten
            ++ [indent ++ "\x7d else \x7b", indent' ++ "cout << ' ';", indent ++ "\x7d"]) := by
        rw [Synthesis.cellLines, hstart, ok_bind, hothers, ok_bind, hbranch, ok_bind, hbody]
        rfl
      refine ⟨_, hlines, _, ?_, (Forms.choose (hcontinues hderives hforms)).one⟩
      rw [List.append_assoc, lineText_append]
      simpa [braced] using hline.append hlexemes

end Branches

/-! ### Programs -/

/-- The statements that print one row. -/
def rowStatements (branches : List (Expr × Char)) : List Statement :=
  [.loop "c" (.number 0) (.binary .less (.var "c") (.var "W")) (cellStatements branches),
    .print ['\n']]

/-- The statements of the program that draws an area, with the expressions of its sides. -/
def programStatements (height width : Expr) (branches : List (Expr × Char)) : List Statement :=
  [.declare "H" height, .declare "W" width,
    .loop "r" (.number 0) (.binary .less (.var "r") (.var "H")) (rowStatements branches),
    .exit (.number 0)]

theorem says_preamble :
    Says (lineText ["#include <iostream>", "using namespace std;", "", "int main() \x7b"])
      (usingLine ++ (mainHead ++ [symbol "\x7b"])) := by
  have hdirective : Says ('#' :: "include <iostream>".toList ++ ['\n']) [] :=
    ⟨closed_directive (by decide), by simp⟩
  have hblank : Says ['\n'] [] := says_blank (List.forall_mem_singleton.2 (by decide))
  have hnames := fixedParts.names.spaced (c := '\n') (by decide)
  have hmain := fixedParts.main.spaced (c := '\n') (by decide)
  have hlines := ((hdirective.append hnames).append hblank).append hmain
  simpa [lineText] using hlines

/-- The lines of the main function of a listing. -/
def mainLines (outer inner height width : String) (cells : List String) : List String :=
  [declareLine outer "H" height " Height - change to scale",
    declareLine outer "W" width " Width - change to scale",
    "",
    outer ++ "for (int r = 0; r < H; r++) \x7b",
    inner ++ "for (int c = 0; c < W; c++) \x7b"]
  ++ cells
  ++ [inner ++ "\x7d",
    inner ++ "cout << endl;",
    outer ++ "\x7d",
    "",
    outer ++ "return 0;"]

theorem spells_mainLines {outer inner height width : String} (houter : Indents outer)
    (hinner : Indents inner) {cells : List String} {branches : List (Expr × Char)}
    (hcells : Spells cells (cellStatements branches)) {eh ew : Expr}
    (hheight : Writes 1 height.toList eh) (hwidth : Writes 1 width.toList ew) :
    Spells (mainLines outer inner height width cells) (programStatements eh ew branches) := by
  have hheight := spells_declareLine houter (show "H" ∈ ["H", "W"] by decide) hheight
    (show '\n' ∉ " Height - change to scale".toList by decide)
  have hwidth := spells_declareLine houter (show "W" ∈ ["H", "W"] by decide) hwidth
    (show '\n' ∉ " Width - change to scale".toList by decide)
  have hcells := spells_loop hinner (show ("c", "W") ∈ [("r", "H"), ("c", "W")] by decide) hcells
  have hrows := spells_loop houter (show ("r", "H") ∈ [("r", "H"), ("c", "W")] by decide)
    (hcells.append (spells_endLine hinner))
  have hlines := ((((hheight.append hwidth).append spells_empty).append hrows).append
    spells_empty).append (spells_exit houter)
  simpa [mainLines, programStatements, rowStatements, String.append_assoc] using hlines

theorem shown_of_short {n : Int} (h : n.natAbs < Text.leastLong) :
    Layout.shown (.int n) = .ok (toString n) := by
  have hshort : Value.hasLongNumber (.int n) = false := by
    simpa [Value.hasLongNumber] using h
  rw [Layout.shown, hshort]
  rfl

theorem shown_of_long {n : Int} (h : Text.leastLong ≤ n.natAbs) :
    Layout.shown (.int n) = .error .longNumber := by
  have hlong : Value.hasLongNumber (.int n) = true := by
    simpa [Value.hasLongNumber] using h
  rw [Layout.shown, hlong]
  rfl

section Listings

variable {layout : Layout} (hlayout : layout.IsPlain) {table : CellTable} {rules : List Rule}
  {height width : Int}

include hlayout

/-- Rules that stand in a program as branches have a listing, which is read as its statements. -/
theorem exists_listing {branches : List (Expr × Char)}
    (h : List.Forall₂ (IsBranch layout table) rules branches)
    (hheight : height.natAbs < Text.leastLong) (hwidth : width.natAbs < Text.leastLong) :
    ∃ listing, Listing.ofRules rules (.int height) (.int width) table layout = .ok listing ∧
      ofText listing.code = .ok (programStatements (.ofInt height) (.ofInt width) branches) := by
  obtain ⟨outer, houter, hindents⟩ := exists_indentation hlayout 1
  obtain ⟨inner, hinner, hindents'⟩ := exists_indentation hlayout 2
  obtain ⟨cells, hcells, hspells⟩ := exists_cellLines hlayout h
  have hlines : Synthesis.programLines layout table rules (.int height) (.int width) =
      .ok (["#include <iostream>", "using namespace std;", "", "int main() \x7b"] ++
        mainLines outer inner (toString height) (toString width) cells ++ ["\x7d"]) := by
    rw [Synthesis.programLines, houter, ok_bind, hinner, ok_bind, shown_of_short hheight, ok_bind,
      shown_of_short hwidth, ok_bind, hcells, ok_bind]
    simp [mainLines, declareLine, String.append_assoc, pure, Except.pure]
  obtain ⟨ws, hmain, hforms⟩ := spells_mainLines hindents hindents' hspells
    ((writes_ofInt hheight).looser (by decide) le_rfl)
    ((writes_ofInt hwidth).looser (by decide) le_rfl)
  have hclosing : Says ['\x7d'] [symbol "\x7d"] := ⟨closed_of_piece? fun _ => rfl, by decide⟩
  have hprogram := (says_preamble.append hmain).append hclosing
  refine ⟨_, by rw [Listing.ofRules, hlines]; rfl,
    ofText_of_isProgram ?_ hprogram.2 ?_⟩
  · rw [toList_joined_lines, lineText_append]
    exact hprogram.1.lexed
  · simpa [braced] using Program.IsProgram.intro .present hforms

/-- A side with too many digits leaves rules without a listing. -/
theorem ofRules_longSide
    (hlong : Text.leastLong ≤ height.natAbs ∨ Text.leastLong ≤ width.natAbs) :
    Listing.ofRules rules (.int height) (.int width) table layout = .error .longNumber := by
  obtain ⟨outer, houter, -⟩ := exists_indentation hlayout 1
  obtain ⟨inner, hinner, -⟩ := exists_indentation hlayout 2
  have hlines : Synthesis.programLines layout table rules (.int height) (.int width) =
      .error .longNumber := by
    rw [Synthesis.programLines, houter, ok_bind, hinner, ok_bind]
    by_cases hheight : Text.leastLong ≤ height.natAbs
    · rw [shown_of_long hheight]
      rfl
    · rw [shown_of_short (not_le.1 hheight), ok_bind, shown_of_long (hlong.resolve_left hheight)]
      rfl
  rw [Listing.ofRules, hlines]
  rfl

end Listings

end GridRules
