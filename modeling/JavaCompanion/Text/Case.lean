/-
Upper and lower case of characters and of whole texts.

A character may have an upper case of several characters.  The lower case of a text
depends on its surroundings at one place only: a capital sigma at the end of a word
becomes the final sigma.
-/
import JavaCompanion.Text.CaseTable

namespace JavaCompanion
namespace Text

def isUpper (c : Char) : Bool :=
  if c.toNat < 128 then c.isUpper else inRanges upperRanges c.toNat

def isLower (c : Char) : Bool :=
  if c.toNat < 128 then c.isLower else inRanges lowerRanges c.toNat

def upperChar (c : Char) : List Char :=
  if c.toNat < 128 then [c.toUpper]
  else
    match upperExpansions.find? (·.1 == c.toNat) with
    | some entry => entry.2.map Char.ofNat
    | none => [Char.ofNat (shifted upperShifts c.toNat)]

def upper (s : String) : String := String.ofList (s.toList.flatMap upperChar)

/-! ## Lower case -/

/-- The lower case of a character that stands for itself, whatever surrounds it. -/
def lowerChar (c : Char) : List Char :=
  if c.toNat < 128 then [c.toLower]
  else if c.toNat = 0x130 then ['i', Char.ofNat 0x307]
  else [Char.ofNat (shifted lowerShifts c.toNat)]

def isCaseIgnorable (c : Char) : Bool := inRanges caseIgnorableRanges c.toNat

def isCased (c : Char) : Bool :=
  if c.toNat < 128 then c.isAlpha else inRanges casedRanges c.toNat

/-- Whether the next character that is not ignored is cased. -/
def nextIsCased (cs : List Char) : Bool :=
  match cs.dropWhile isCaseIgnorable with
  | [] => false
  | c :: _ => isCased c

/-- The lower case of the rest of a text, where `passed` holds what stands before it, last
character first. -/
def lowerFrom (passed : List Char) : List Char → List Char
  | [] => []
  | c :: rest =>
    (if c.toNat = 0x3a3 then
      if nextIsCased passed && !nextIsCased rest then [Char.ofNat 0x3c2] else [Char.ofNat 0x3c3]
    else lowerChar c) ++ lowerFrom (c :: passed) rest

def lower (s : String) : String := String.ofList (lowerFrom [] s.toList)

/-- Whether a text has upper case letters and no cased characters but these. -/
def isUpperText (s : String) : Bool :=
  s.toList.any isUpper && s.toList.all fun c => isUpper c || !(isLower c || isCased c)

/-- Each word with its first letter in upper and the others in lower case.  A word is a run
of cased characters. -/
def titleFrom (inWord : Bool) : List Char → List Char
  | [] => []
  | c :: rest => (if inWord then lowerChar c else upperChar c) ++ titleFrom (isCased c) rest

def title (s : String) : String := String.ofList (titleFrom false s.toList)

end Text
end JavaCompanion
