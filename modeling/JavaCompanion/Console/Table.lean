/-
Tables, panels and source texts on the console, as lines of text.

A column is as wide as its widest cell, with a blank on either side.  Where the columns
together are wider than the console, the widest ones are narrowed first, down to the next
widest, and so on; columns that are not to be broken are narrowed last.  Cells are broken into
lines in the width of their column, and a word that does not fit is cut.
-/
import JavaCompanion.Console.Markup
import JavaCompanion.Console.Wrap

namespace JavaCompanion
namespace Console

def consoleWidth : Nat := 1000

/-! ## Widths -/

/-- The quotient of two numbers rounded to the nearest whole number, a half to the even one. -/
def roundedQuotient (n d : Nat) : Nat :=
  let q := n / d
  let twice := 2 * (n % d)
  if twice < d then q else if twice = d then q + q % 2 else q + 1

/-- One share in taking `excess` from widths: the most it can lose, and whether it takes part. -/
structure Share where
  width : Nat
  most : Nat
  takesPart : Bool

/-- Takes an excess from the widths that take part, in equal shares among `parts` of them. -/
def takeShares (excess parts : Nat) : List Share → List Nat
  | [] => []
  | s :: rest =>
    if s.takesPart && 0 < parts then
      let lost := min s.most (roundedQuotient excess parts)
      (s.width - lost) :: takeShares (excess - lost) (parts - 1) rest
    else s.width :: takeShares excess parts rest

/-- Takes an excess from the widths that take part and have something to lose. -/
def reduce (excess : Nat) (shares : List Share) : List Nat :=
  let shares := shares.map fun s => { s with takesPart := s.takesPart && s.most != 0 }
  takeShares excess (shares.countP (·.takesPart)) shares

def greatest (ns : List Nat) : Nat := ns.foldl max 0

/-- Narrows the widest of the columns that may be broken, until all fit or all of these are
equally wide.  The fuel bounds the number of rounds. -/
def narrow (limit : Nat) (breakable : List Bool) : Nat → List Nat → List Nat
  | 0, widths => widths
  | fuel + 1, widths =>
    let columns := widths.zip breakable
    let excess := total widths - limit
    let widest := greatest ((columns.filter (·.2)).map (·.1))
    let second := greatest ((columns.filter fun c => c.2 && c.1 != widest).map (·.1))
    if excess = 0 || widest = second then widths
    else
      narrow limit breakable fuel
        (reduce excess (columns.map fun c =>
          ⟨c.1, min excess (widest - second), c.2 && c.1 == widest⟩))

/-! ## Tables -/

structure Column where
  header : String
  isBreakable : Bool := true

/-- Rows of cells under headers.  All texts may hold markup. -/
structure Table where
  title : String
  columns : List Column
  rows : List (List String)

namespace Table

/-- The width that a column of texts takes where it has `limit` at most. -/
def columnWidth (limit : Nat) (texts : List String) : Nat :=
  if limit < 3 then limit else greatest (texts.map fun s => min (contentWidth s + 2) limit)

/-- The widths of columns of texts that have `limit` together. -/
def widths (limit : Nat) (columns : List (Bool × List String)) : List Nat :=
  let wished := columns.map fun c => max 1 (columnWidth limit c.2)
  if total wished ≤ limit then wished
  else
    let narrowed := if columns.any (·.1)
      then narrow limit (columns.map (·.1)) (wished.length + 1) wished else wished
    let fitting := if total narrowed ≤ limit then narrowed
      else reduce (total narrowed - limit) (narrowed.map fun w => ⟨w, w, true⟩)
    (fitting.zip columns).map fun c => columnWidth c.1 c.2.2

/-- The lines of a cell in its column. -/
def cellLines (width : Nat) (isBreakable : Bool) (text : String) : List String :=
  if width ≤ 2 then []
  else wrap (if isBreakable then .cut else .cutLines) (width - 2) text

/-- Cells side by side.  A cell of fewer lines than others stands at the top, or in a header
at the bottom. -/
def rowLines (isHeader : Bool) (cells : List (List String)) : List String :=
  let height := greatest (cells.map List.length)
  (List.range height).map fun k =>
    String.intercalate "  " (cells.map fun lines =>
      let above := if isHeader then height - lines.length else 0
      if k < above then "" else lines[k - above]?.getD "")

/-- The texts of a column from the header on, without markup. -/
def columnTexts (t : Table) (index : Nat) (c : Column) : Except Unshown (List String) :=
  (c.header :: t.rows.map fun row => row[index]?.getD "").mapM shown

def lines (t : Table) : Except Unshown (List String) := do
  let texts ← t.columns.zipIdx.mapM fun c => do
    return (c.1.isBreakable, ← t.columnTexts c.2 c.1)
  let borders := t.columns.length + 1
  let ws := widths (consoleWidth - borders) texts
  let title ← shown t.title
  let row (k : Nat) : List String :=
    rowLines (k = 0) ((ws.zip texts).map fun c => cellLines c.1 c.2.1 (c.2.2[k]?.getD ""))
  return wrap .fold (total ws + borders) title ++ (List.range (t.rows.length + 1)).flatMap row

end Table

/-! ## Panels and source texts -/

/-- A text in a frame with a title. -/
structure Panel where
  title : String
  text : String

/-- A title in the frame, on one line with a blank on either side. -/
def Panel.titleLine (title : String) : String :=
  let line := fillTabs 8 columns 0 (title.toList.map fun c => if c = '\n' then ' ' else c)
  String.ofList (cutTo (consoleWidth - 4) (' ' :: line ++ [' ']))

/-- The lines of a panel; on either side of the text are the frame and a blank. -/
def Panel.lines (p : Panel) : Except Unshown (List String) := do
  let title ← shown p.title
  let text ← shown p.text
  return titleLine title :: wrap .fold (consoleWidth - 4) text

/-- A line of source text: tabs are filled up, controls are left out, and a line that is too
long is cut. -/
def sourceLine (line : List Char) : List Char :=
  let shown := (fillTabs 4 (fun _ => 1) 0 line).filter (!isConsoleControl ·)
  cutTo consoleWidth (dropExcessBlanks consoleWidth shown)

/-- Source text line by line, whatever its line endings.  A byte order mark is left out. -/
def sourceLines (code : String) : List String :=
  let cs := if code.toList.head? = some '\ufeff' then code.toList.drop 1 else code.toList
  (Text.parts '\n' (Text.foldBreaks cs)).map fun line => String.ofList (sourceLine line)

def textLines (s : String) : Except Unshown (List String) := do
  return wrap .fold consoleWidth (← shown s)

end Console
end JavaCompanion
