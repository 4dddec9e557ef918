/-
Annotations as they are applied in source: the type and the full text.

In the text the type follows the `@`, its parts separated by dots; blanks may stand around
the `@` and the dots and are not part of the type.
-/
import JavaCompanion.Java.Identifier
import JavaCompanion.Text.Blank
import JavaCompanion.Text.Word
import JavaCompanion.Value.Basic

namespace JavaCompanion
namespace Descriptor

/-- An object in a descriptor may give both as any value; the texts are asked for only where
they are needed. -/
structure AnnotationUse where
  typeName : Value
  text : Value

namespace AnnotationUse

/-! ## Reading the type off the text -/

def isPartChar (c : Char) : Bool := Text.isWordChar c || c = '$'

/-- The name that begins here, and what follows it. -/
def namePart : List Char → Option (List Char × List Char)
  | [] => none
  | c :: rest =>
    if Java.isNameStart c then some (c :: rest.takeWhile isPartChar, rest.dropWhile isPartChar)
    else none

/-- The parts that follow a first one, each behind a dot.  The fuel bounds their number. -/
def furtherParts : Nat → List Char → List (List Char)
  | 0, _ => []
  | fuel + 1, cs =>
    match Text.trimLeft cs with
    | '.' :: rest =>
      match namePart (Text.trimLeft rest) with
      | some (part, rest) => part :: furtherParts fuel rest
      | none => []
    | _ => []

/-- The parts of the type of an annotation whose text has no blanks at its ends. -/
def typeParts? : List Char → Option (List (List Char))
  | '@' :: rest =>
    (namePart (Text.trimLeft rest)).map fun found =>
      found.1 :: furtherParts found.2.length found.2
  | _ => none

def dotted (parts : List (List Char)) : String :=
  String.intercalate "." (parts.map String.ofList)

def ofText? (s : String) : Option AnnotationUse :=
  let trimmed := Text.strip s
  (typeParts? trimmed.toList).map fun parts => ⟨.text (dotted parts), .text trimmed⟩

/-! ## Names and namespaces -/

def simpleName (a : AnnotationUse) : Except Mismatch String := do
  let name ← a.typeName.asMember
  return Text.afterLast '.' name

/-- Whether the type lives under a package. -/
def inNamespace (a : AnnotationUse) (namespace_ : Value) : Except Mismatch Bool :=
  if !namespace_.truthy then .ok false
  else if a.typeName.same namespace_ then .ok true
  else do
    let name ← a.typeName.asMember
    let package ← namespace_.asOperand
    return (package ++ ".").toList.isPrefixOf name.toList

end AnnotationUse

end Descriptor
end JavaCompanion
