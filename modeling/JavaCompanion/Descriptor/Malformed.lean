/-
What can be wrong with a descriptor.
-/
import JavaCompanion.Value.Display

namespace JavaCompanion
namespace Descriptor

inductive Malformed where
  /-- A text that does not begin with an annotation type. -/
  | notAnnotated (text : String)
  /-- An annotation object with neither a type nor a text. -/
  | emptyAnnotationEntry (entry : Value)
  | annotationEntry (entry : Value)
  | parameterEntry (entry : Value)
  | memberEntry (owner : String) (entry : Value)
  | memberKind (owner : String) (kind : Value)
  | unnamedMember (owner : String) (entry : Value)
  | memberModifier (owner : String) (member spelling : Value)
  | typeEntry (entry : Value)
  | unnamedType (entry : Value)
  | typeAnnotations (name : Value)
  | document
  | typesNoList
  /-- A fault in a document from a known source. -/
  | inSource (source : String) (fault : Malformed)

def Malformed.message : Malformed → String
  | .notAnnotated text => "Not an annotation: " ++ Text.quoted text
  | .emptyAnnotationEntry entry => "Annotation needs 'type' or 'text': " ++ entry.quoted
  | .annotationEntry entry => "Invalid annotation entry: " ++ entry.quoted
  | .parameterEntry entry => "Parameter needs 'type' and 'name': " ++ entry.quoted
  | .memberEntry owner entry => "Invalid member in " ++ owner ++ ": " ++ entry.quoted
  | .memberKind owner kind => "Unknown member kind in " ++ owner ++ ": " ++ kind.quoted
  | .unnamedMember owner entry => "Member of " ++ owner ++ " has no name: " ++ entry.quoted
  | .memberModifier owner member spelling =>
    owner ++ "." ++ member.display ++ ": Unknown modifier: " ++ spelling.quoted
  | .typeEntry entry => "Type entry must be an object: " ++ entry.quoted
  | .unnamedType entry => "Type entry has no name: " ++ entry.quoted
  | .typeAnnotations name => "'annotations' of " ++ name.display ++ " must be an object"
  | .document => "Descriptor document must be an object or a list"
  | .typesNoList => "'types' must be a list"
  | .inSource source fault => source ++ ": " ++ fault.message

end Descriptor
end JavaCompanion
