/-
Text broken into lines of a limited width.

A line may be broken behind the blanks that follow a word.  A word that is wider than any line
is broken where the line is full, or else left to be cut.
-/
import JavaCompanion.Console.Cells
import JavaCompanion.Text.Blank
import JavaCompanion.Text.Split

namespace JavaCompanion
namespace Console

open Text

/-- What happens to a text that is wider than its place. -/
inductive Overflow where
  /-- Long words go on in the next line. -/
  | fold
  /-- Long words are cut, and a sign tells so. -/
  | cut
  /-- Lines are cut and never broken, and a sign tells so. -/
  | cutLines
  deriving DecidableEq, Repr

/-! ## Words -/

/-- How many characters the first word takes with the blanks around it, if there is one. -/
def wordLength (cs : List Char) : Nat :=
  let rest := cs.dropWhile isBlank
  if rest.isEmpty then 0
  else
    let behind := rest.dropWhile fun c => !isBlank c
    cs.length - (behind.dropWhile isBlank).length

/-- The words of a line, each with the blanks behind it. -/
def wordsOf (cs : List Char) : List (List Char) :=
  if wordLength cs = 0 then []
  else if cs.isEmpty then []
  else cs.take (wordLength cs) :: wordsOf (cs.drop (wordLength cs))
termination_by cs.length
decreasing_by
  rename_i h hne
  have : cs ≠ [] := by simpa using hne
  have := List.length_pos_iff.2 this
  simp only [List.length_drop]
  omega

/-! ## Breaks -/

/-- The places where the pieces of a long word begin, from `start` on, and the columns that
the last piece takes. -/
def pieceBreaks (start : Nat) : List (List Char) → List Nat × Nat
  | [] => ([], 0)
  | [piece] => (if start = 0 then [] else [start], cells piece)
  | piece :: rest =>
    let (places, last) := pieceBreaks (start + piece.length) rest
    (if start = 0 then places else start :: places, last)

/-- The places where a line is broken, for the words from `start` on, behind `taken` columns
of the line begun. -/
def breaksFrom (width : Nat) (folded : Bool) :
    Nat → Nat → List (List Char) → List Nat
  | _, _, [] => []
  | start, taken, word :: rest =>
    let next := start + word.length
    let size := cells (trimRight word)
    if size + taken ≤ width then breaksFrom width folded next (taken + cells word) rest
    else if width < size then
      if folded then
        let (places, last) := pieceBreaks start (chop width word)
        places ++ breaksFrom width folded next last rest
      else
        (if start = 0 then [] else [start]) ++ breaksFrom width folded next (cells word) rest
    else if taken ≠ 0 && start ≠ 0 then
      start :: breaksFrom width folded next (cells word) rest
    else breaksFrom width folded next taken rest

/-- The pieces of a row between places in ascending order. -/
def splitPlaces (from_ : Nat) : List Nat → List Char → List (List Char)
  | [], cs => [cs]
  | place :: rest, cs =>
    cs.take (place - from_) :: splitPlaces place rest (cs.drop (place - from_))

/-! ## Lines -/

/-- Tabs filled up with blanks, to the next of the places that are `size` columns apart. -/
def fillTabs (size : Nat) (width : Char → Nat) (taken : Nat) : List Char → List Char
  | [] => []
  | c :: rest =>
    if c = '\t' then
      let blanks := size - taken % size
      List.replicate blanks ' ' ++ fillTabs size width (taken + blanks) rest
    else c :: fillTabs size width (taken + width c) rest

/-- A line without the blanks at its end by which it is too long. -/
def dropExcessBlanks (width : Nat) (cs : List Char) : List Char :=
  if width < cs.length then
    let blanks := cs.length - (trimRight cs).length
    cs.take (cs.length - min blanks (cs.length - width))
  else cs

/-- A line in its place. -/
def fitted (overflow : Overflow) (width : Nat) (cs : List Char) : List Char :=
  match overflow with
  | .fold => cutTo width (dropExcessBlanks width cs)
  | _ => cutWithSign width (dropExcessBlanks width cs)

/-- One line broken into lines. -/
def wrapLine (overflow : Overflow) (width : Nat) (line : List Char) : List (List Char) :=
  let cs := fillTabs 8 columns 0 line
  let pieces := if overflow = .cutLines then [cs]
    else splitPlaces 0 (breaksFrom width (overflow = .fold) 0 0 (wordsOf cs)) cs
  pieces.map (fitted overflow width)

/-- The lines of a text, no wider than `width`. -/
def wrap (overflow : Overflow) (width : Nat) (s : String) : List String :=
  ((parts '\n' s.toList).flatMap (wrapLine overflow width)).map String.ofList

end Console
end JavaCompanion
