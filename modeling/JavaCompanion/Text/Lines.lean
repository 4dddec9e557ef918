/-
The lines of a text.

A line ends at a line feed, at a carriage return, at both in that order, or at one of the
rarer breaks: vertical tab, form feed, the file, group and record separators, the
next-line control, and the line and paragraph separators.  Nothing follows a break at the
end of the text, so the empty text has no line and a lone break has one.
-/
namespace JavaCompanion
namespace Text

def isLineBreak (c : Char) : Bool :=
  let n := c.toNat
  (10 ≤ n && n ≤ 13) || (28 ≤ n && n ≤ 30) || n == 0x85 || n == 0x2028 || n == 0x2029

/-- The lines of the rest of a text, where `line` holds the line begun, last character
first. -/
def linesFrom (line : List Char) : List Char → List (List Char)
  | [] => if line.isEmpty then [] else [line.reverse]
  | '\r' :: '\n' :: rest => line.reverse :: linesFrom [] rest
  | c :: rest =>
    if isLineBreak c then line.reverse :: linesFrom [] rest else linesFrom (c :: line) rest

def splitLines (s : String) : List String := (linesFrom [] s.toList).map String.ofList

/-- Text as a text file is read: a carriage return, alone or before a line feed, counts as
a line feed. -/
def foldBreaks : List Char → List Char
  | [] => []
  | '\r' :: '\n' :: rest => '\n' :: foldBreaks rest
  | '\r' :: rest => '\n' :: foldBreaks rest
  | c :: rest => c :: foldBreaks rest

end Text
end JavaCompanion
