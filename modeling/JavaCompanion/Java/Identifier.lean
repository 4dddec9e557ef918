/-
Java names.

A simple name is a letter, an underscore or a dollar sign, then any number of these and of
digits, all of ASCII, and is not a word of the language.  One line feed after the last
character is let through.  A qualified name is a sequence of such names with a dot between
each two.
-/
import JavaCompanion.Text.Split
import JavaCompanion.Value.Basic

namespace JavaCompanion
namespace Java

/-- The words that cannot be names. -/
def reservedWords : List String :=
  [ "abstract", "assert", "boolean", "break", "byte", "case", "catch", "char", "class", "const",
    "continue", "default", "do", "double", "else", "enum", "extends", "final", "finally",
    "float", "for", "goto", "if", "implements", "import", "instanceof", "int", "interface",
    "long", "native", "new", "package", "private", "protected", "public", "return", "short",
    "static", "strictfp", "super", "switch", "synchronized", "this", "throw", "throws",
    "transient", "try", "void", "volatile", "while", "true", "false", "null", "_" ]

def isNameStart (c : Char) : Bool :=
  ('A' ≤ c && c ≤ 'Z') || ('a' ≤ c && c ≤ 'z') || c = '_' || c = '$'

def isNamePart (c : Char) : Bool := isNameStart c || ('0' ≤ c && c ≤ '9')

/-- What may follow the first character of a name. -/
def continuesName : List Char → Bool
  | [] => true
  | ['\n'] => true
  | c :: rest => isNamePart c && continuesName rest

def isNameShaped : List Char → Bool
  | [] => false
  | c :: rest => isNameStart c && continuesName rest

def isIdentifier (s : String) : Bool := isNameShaped s.toList && !reservedWords.contains s

def isQualifiedName (s : String) : Bool := (Text.splitAt '.' s).all isIdentifier

/-- The test for a raw value.  What counts as absent is no identifier. -/
def isIdentifierValue (v : Value) : Except Mismatch Bool :=
  if v.truthy then do return isIdentifier (← v.asOperand) else .ok false

/-- The test for a raw value.  What counts as absent is no qualified name. -/
def isQualifiedValue (v : Value) : Except Mismatch Bool :=
  if v.truthy then do return isQualifiedName (← v.asMember) else .ok false

@[simp] theorem continuesName_nil : continuesName [] = true := rfl

/-- Characters of names only continue a name. -/
theorem continuesName_of_all {cs : List Char} (h : cs.all isNamePart = true) :
    continuesName cs = true := by
  induction cs with
  | nil => rfl
  | cons c rest ih =>
    simp only [List.all_cons, Bool.and_eq_true] at h
    unfold continuesName
    split
    · rfl
    · rfl
    · next c' rest' _ heq =>
      cases heq
      simp [h.1, ih h.2]

end Java
end JavaCompanion
