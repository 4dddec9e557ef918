/-
Why a source file cannot be created.
-/
import JavaCompanion.FileTree.Refusal

namespace JavaCompanion
namespace Output

inductive OutputFault where
  | invalidName (name : String)
  /-- The name has been claimed before. -/
  | claimed (name : String)
  | refused (path : String) (reason : FileTree.Reason)

def OutputFault.message : OutputFault → String
  | .invalidName name => "Invalid type name for a source file: " ++ Text.quoted name
  | .claimed name => "Attempt to recreate a file for type " ++ name
  | .refused path reason => "Cannot create " ++ path ++ ": " ++ reason.text

end Output
end JavaCompanion
