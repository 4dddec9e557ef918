/-
What can be wrong with a configuration or with the settings of one type.
-/
import JavaCompanion.FileTree.Refusal
import JavaCompanion.Json.Error
import JavaCompanion.Value.Display

namespace JavaCompanion
namespace Config

inductive ConfigFault where
  | fileMissing (path : String)
  | fileNotJson (path : String)
  | fileMalformed (path : String) (fault : Json.Malformed)
  | fileRefused (path : String) (refusal : FileTree.Refusal)
  | fileNoObject (path : String)
  | saveRefused (path : String) (refusal : FileTree.Refusal)
  | notBoolean (key : String) (value : Value)
  | notTexts (key : String) (value : Value)
  | unknownOptions (generator : String) (names : List String)
  | invalidName (generator : String) (name : Value)
  | unknownModifier (key : String) (spelling : Value)
  | noVerbs
  | invalidVerb (verb : String)
  | invalidPolicy (value : Value)

def ConfigFault.message : ConfigFault → String
  | .fileMissing path => "Configuration file not found: " ++ path
  | .fileNotJson path => "Configuration file must be JSON: " ++ path
  | .fileMalformed path fault =>
    "Invalid JSON in configuration file " ++ path ++ ": " ++ fault.message
  | .fileRefused path refusal =>
    "Failed to load configuration file " ++ path ++ ": " ++ refusal.message
  | .fileNoObject path => "Configuration file must contain a JSON object: " ++ path
  | .saveRefused path refusal =>
    "Failed to save configuration to " ++ path ++ ": " ++ refusal.message
  | .notBoolean key value => "'" ++ key ++ "' must be true or false, got " ++ value.quoted
  | .notTexts key value =>
    "'" ++ key ++ "' must be a string or a list of strings, got " ++ value.quoted
  | .unknownOptions generator names =>
    "Unknown " ++ generator ++ " option(s): " ++ String.intercalate ", " names
  | .invalidName generator name => "Invalid " ++ generator ++ " name: " ++ name.quoted
  | .unknownModifier key spelling => "'" ++ key ++ "': Unknown modifier: " ++ spelling.quoted
  | .noVerbs => "'method_prefixes' must name at least one prefix"
  | .invalidVerb verb => "Invalid method prefix: " ++ Text.quoted verb
  | .invalidPolicy value => "'prefix_match' must be 'first' or 'all', got " ++ value.quoted

end Config
end JavaCompanion
