/-
Why a descriptor document cannot be loaded.
-/
import JavaCompanion.FileTree.Refusal
import JavaCompanion.Json.Error

namespace JavaCompanion
namespace Loading

inductive LoadingFault where
  | fileMalformed (path : String) (fault : Json.Malformed)
  | fileRefused (path : String) (refusal : FileTree.Refusal)
  | streamMalformed (name : String) (fault : Json.Malformed)
  | invalidUrl (url : String)
  | timeout (url : String)
  | unreachable (url detail : String)
  | status (code : Int) (url : String)
  | request (url detail : String)
  | replyMalformed (url detail : String)
  | noSource
  | twoSources

def LoadingFault.message : LoadingFault → String
  | .fileMalformed path fault => "Invalid JSON in file " ++ path ++ ": " ++ fault.message
  | .fileRefused path refusal => "Error reading file " ++ path ++ ": " ++ refusal.message
  | .streamMalformed name fault => "Invalid JSON in " ++ name ++ ": " ++ fault.message
  | .invalidUrl url => "Invalid URL: " ++ url
  | .timeout url => "Request timeout for URL: " ++ url
  | .unreachable url _ => "Connection error for URL: " ++ url
  | .status code url => "HTTP error " ++ toString code ++ " for URL: " ++ url
  | .request url detail => "Request error for URL " ++ url ++ ": " ++ detail
  | .replyMalformed url detail => "Invalid JSON response from URL " ++ url ++ ": " ++ detail
  | .noSource => "Either file_path or url must be provided"
  | .twoSources => "Cannot specify both file_path and url"

/-- What is logged about a fault; it can say more than the message. -/
def LoadingFault.logged : LoadingFault → String
  | .invalidUrl url => "Invalid URL format: " ++ url
  | .unreachable url detail => "Connection error for URL " ++ url ++ ": " ++ detail
  | f => f.message

end Loading
end JavaCompanion
