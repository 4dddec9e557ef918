/-
The layout of generated code.

No line ends in blanks, no two lines in a row are empty, and the text ends with exactly one
line end.  Lines are what stands between two occurrences of the line end in use.
-/
import JavaCompanion.Fault
import JavaCompanion.Text.Blank
import JavaCompanion.Text.Split

namespace JavaCompanion
namespace Generation

/-- Spaces and tabs. -/
def isPadding (c : Char) : Bool := c = ' ' || c = '\t'

def trimPadding (cs : List Char) : List Char := Text.dropEndWhile isPadding cs

/-- The lines without those that are empty and follow an empty one. -/
def collapse : Bool → List (List Char) → List (List Char)
  | _, [] => []
  | afterEmpty, line :: rest =>
    if line.isEmpty then
      if afterEmpty then collapse true rest else [] :: collapse true rest
    else line :: collapse false rest

/-- The lines before the empty ones at the end. -/
def dropEmptyEnd (lines : List (List Char)) : List (List Char) :=
  (lines.reverse.dropWhile List.isEmpty).reverse

/-- Lines as they are laid out. -/
def laidOut (lines : List (List Char)) : List (List Char) :=
  dropEmptyEnd (collapse false (lines.map trimPadding))

def joinLines (lineEnd : List Char) : List (List Char) → List Char
  | [] => []
  | [line] => line
  | line :: rest => line ++ lineEnd ++ joinLines lineEnd rest

/-- Code in its final layout, for a line end that is not empty. -/
def layout (lineEnd code : String) : String :=
  let eol := lineEnd.toList
  String.ofList (joinLines eol (laidOut (Text.pieces eol code.toList)) ++ eol)

/-- As `layout`, for a line end as it is configured. -/
def layoutWith (lineEnding : Value) (code : String) : Except Fault String :=
  match lineEnding with
  | .text "" => .error .emptySeparator
  | .text lineEnd => .ok (layout lineEnd code)
  | .null => .error (.mismatch (.member lineEnding))
  | _ => .error (.mismatch (.operand lineEnding))

def countLines (lineEnd code : String) : Nat :=
  (Text.pieces lineEnd.toList code.toList).length - 1

end Generation
end JavaCompanion
