/-
Shapes of types for which no companion can be generated.
-/
import JavaCompanion.Value.Display

namespace JavaCompanion
namespace Extraction

inductive ExtractionFault where
  | invalidType (name : String)
  | invalidPackage (type package : String)
  | invalidMethod (owner : String) (name : Value)
  | invalidParameter (owner : String) (member : Value) (name : String)
  /-- A mutator that does not take one parameter. -/
  | parameterCount (owner method : String) (count : Nat)
  | noAccessor (owner method subject : String)
  | privateAccessor (owner accessor method : String)
  | sharedSubject (owner first second subject : String)

def ExtractionFault.message : ExtractionFault → String
  | .invalidType name => "Invalid type name: " ++ Text.quoted name
  | .invalidPackage type package =>
    "Invalid package name for " ++ type ++ ": " ++ Text.quoted package
  | .invalidMethod owner name => "Invalid method name in " ++ owner ++ ": " ++ name.quoted
  | .invalidParameter owner member name =>
    "Invalid parameter name in " ++ owner ++ "." ++ member.display ++ ": " ++ Text.quoted name
  | .parameterCount owner method count =>
    "Mutator " ++ owner ++ "." ++ method ++ " must take exactly one parameter, found "
      ++ toString count
  | .noAccessor owner method subject =>
    "Mutator " ++ owner ++ "." ++ method ++ " has no accessor get" ++ subject
      ++ "() to read its value"
  | .privateAccessor owner accessor method =>
    "Accessor " ++ owner ++ "." ++ accessor ++ " of " ++ method ++ " is private"
  | .sharedSubject owner first second subject =>
    "Mutators " ++ owner ++ "." ++ first ++ " and " ++ second ++ " both observe '" ++ subject
      ++ "'"

end Extraction
end JavaCompanion
