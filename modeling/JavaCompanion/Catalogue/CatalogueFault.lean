/-
Why the catalogue of generators refuses an operation.
-/
import JavaCompanion.Config.ConfigFault

namespace JavaCompanion
namespace Catalogue

def kindName : Value → String
  | .null => "NoneType"
  | .bool _ => "bool"
  | .int _ => "int"
  | .float _ => "float"
  | .text _ => "str"
  | .list _ => "list"
  | .object _ => "dict"

inductive CatalogueFault where
  | notGenerator
  /-- The alias is the name of a generator. -/
  | aliasIsName (alias_ : String)
  /-- The alias stands for another generator. -/
  | aliasTaken (alias_ target : String)
  | unknownName (name : String) (available : List String)
  | configKind (value : Value)
  | misconfigured (generator : String) (fault : Config.ConfigFault)

def CatalogueFault.message : CatalogueFault → String
  | .notGenerator => "Generator class must inherit from CodeGenerator"
  | .aliasIsName alias_ =>
    "Alias '" ++ alias_ ++ "' conflicts with existing generator name"
  | .aliasTaken alias_ target => "Alias '" ++ alias_ ++ "' already points to '" ++ target ++ "'"
  | .unknownName name available =>
    "No generator registered as: " ++ name ++ ". Available: "
      ++ String.intercalate ", " available
  | .configKind value => "Invalid config type: <class '" ++ kindName value ++ "'>"
  | .misconfigured generator fault =>
    "Failed to configure " ++ generator ++ " generator: " ++ fault.message

end Catalogue
end JavaCompanion
