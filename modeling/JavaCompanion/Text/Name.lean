/-
Names in any script.

A name begins with a letter or a sign that counts as one, and goes on with letters, digits
and combining marks.
-/
import JavaCompanion.Text.NameTable
import JavaCompanion.Text.Word

namespace JavaCompanion
namespace Text

/-- The characters that are taken together as one name: those of words and the marks. -/
def isNameChar (c : Char) : Bool :=
  isWordChar c || (127 < c.toNat && inRanges markRanges c.toNat)

/-- The few marks with which a name may begin. -/
def leadingMarks : List Nat := [0x1885, 0x1886, 0x2118, 0x212e]

def isNamePart (c : Char) : Bool :=
  if isWordChar c then !inRanges unnamableRanges c.toNat
  else 127 < c.toNat && inRanges markRanges c.toNat

def isNameStart (c : Char) : Bool :=
  if c.toNat < 128 then c.isAlpha || c == '_'
  else if isWordChar c then
    !inRanges unnamableRanges c.toNat && !inRanges laterRanges c.toNat
  else leadingMarks.contains c.toNat

def isName : List Char → Bool
  | [] => false
  | c :: rest => isNameStart c && rest.all isNamePart

end Text
end JavaCompanion
