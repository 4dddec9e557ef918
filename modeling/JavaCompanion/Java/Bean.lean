/-
Names by the bean convention.

A property name begins in lower case where it stands alone and in upper case behind a verb.
A name that begins with two upper case letters, such as an abbreviation, keeps them.
-/
import JavaCompanion.Text.Case

namespace JavaCompanion
namespace Java

open Text

def capitalize (name : String) : String :=
  match name.toList with
  | [] => ""
  | c :: rest => String.ofList (upperChar c ++ rest)

def decapitalize (name : String) : String :=
  match name.toList with
  | [] => ""
  | c :: rest =>
    let second := match rest with
      | [] => false
      | d :: _ => isUpper d
    if isUpper c && second then name else String.ofList (lowerFrom [] [c] ++ rest)

/-- What follows `start` in a name that begins with it, if anything does. -/
def remainder? (name start : String) : Option String :=
  if start.toList.isPrefixOf name.toList then
    match name.toList.drop start.toList.length with
    | [] => none
    | rest => some (String.ofList rest)
  else none

end Java
end JavaCompanion
