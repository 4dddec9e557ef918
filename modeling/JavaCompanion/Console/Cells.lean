/-
Columns that texts take on a console.

A text is cut to a number of columns by looking for the place where that many are reached; a
character of two columns that lies across it gives way to a blank.
-/
import JavaCompanion.Console.WidthTable
import JavaCompanion.Text.Lines

namespace JavaCompanion
namespace Console

/-- The columns that a character takes. -/
def columns (c : Char) : Nat :=
  let n := c.toNat
  if 32 ≤ n && n < 127 then 1
  else if Text.inRanges flatRanges n then 0
  else if Text.inRanges wideRanges n then 2
  else 1

/-- The columns that several pieces take together. -/
def total (widths : List Nat) : Nat := widths.foldl (· + ·) 0

/-- The columns that a row of characters takes. -/
def cells (cs : List Char) : Nat := total (cs.map columns)

/-- The columns that the widest line of a text takes. -/
def contentWidth (s : String) : Nat :=
  ((Text.splitLines s).map fun line => cells line.toList).foldl max 0

/-- The beginning of a text that takes `total` columns, looked for between two places by
halving.  The fuel bounds the number of steps. -/
def cutBetween (total : Nat) (cs : List Char) : Nat → Nat → Nat → List Char
  | 0, first, _ => cs.take first
  | fuel + 1, first, last =>
    let middle := (first + last) / 2
    let front := cs.take (middle + 1)
    let n := cells front
    if n = total + 1 && front.getLast?.any (columns · == 2) then front.dropLast ++ [' ']
    else if n = total then front
    else if total < n then cutBetween total cs fuel first middle
    else cutBetween total cs fuel middle last

/-- A text of no more columns than `total`. -/
def cutTo (total : Nat) (cs : List Char) : List Char :=
  if cells cs ≤ total then cs
  else if total = 0 then []
  else if cs.all fun c => columns c == 1 then cs.take total
  else cutBetween total cs (cs.length + 1) 0 cs.length

/-- As `cutTo`, where a sign in the last column tells that something is missing. -/
def cutWithSign (total : Nat) (cs : List Char) : List Char :=
  if cells cs ≤ total then cs else cutTo (total - 1) cs ++ ['…']

/-- The characters of a row in rows of at most `width` columns, where `line` holds the row
begun, last character first. -/
def chopFrom (width : Nat) (line : List Char) (taken : Nat) : List Char → List (List Char)
  | [] => [line.reverse]
  | c :: rest =>
    if width < taken + columns c then
      line.reverse :: chopFrom width [c] (columns c) rest
    else chopFrom width (c :: line) (taken + columns c) rest

/-- A row cut into rows of at most `width` columns. -/
def chop (width : Nat) (cs : List Char) : List (List Char) := chopFrom width [] 0 cs

end Console
end JavaCompanion
