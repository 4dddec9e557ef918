/-
Loading descriptor documents: JSON from a file, from the network or from an open stream.

Every document comes with the name of its source, for later messages.
-/
import JavaCompanion.Descriptor.Document
import JavaCompanion.FileTree.Encoding
import JavaCompanion.Json.Reader
import JavaCompanion.Loading.Address
import JavaCompanion.Session

namespace JavaCompanion
namespace Loading

structure Loaded where
  source : String
  data : Value

def note (level : Log.Level) (message : String) : Step Unit :=
  Step.log ⟨level, Log.loadingLogger, message⟩

/-- Gives up loading, and logs why. -/
def refuse (f : LoadingFault) : Step α := do
  note .error f.logged
  Step.fail (.loading f)


/-! ## Files -/

/-- The text of a file that is there. -/
def contentOf (p : FileTree.Path) : Step String := do
  match (← Step.tree).read p with
  | .error reason => refuse (.fileRefused p.text ⟨reason, p.text⟩)
  | .ok bytes =>
    match FileTree.decodeLines bytes with
    | some s => return s
    | none => Step.fail .undecodable

/-- The value that the text of a file writes. -/
def dataIn (p : FileTree.Path) (text : String) : Step Value :=
  match Json.read text with
  | .ok v => pure v
  | .error (.malformed m) => refuse (.fileMalformed p.text m)
  | .error f => Step.fail (.ofUnread (fun m => .loading (.fileMalformed p.text m)) f)

def fromFile (name : String) : Step Loaded := do
  let p := FileTree.Path.ofString name
  note .debug ("Loading descriptors from file: " ++ p.text)
  match (← Step.tree).isThere p with
  | .error reason => Step.fail (.system ⟨reason, p.text⟩)
  | .ok false =>
    note .error ("File not found: " ++ p.text)
    Step.fail (.fileMissing p.text)
  | .ok true =>
    if Text.lower p.suffix != ".json" then
      note .warning ("File does not have .json extension: " ++ p.text)
    let data ← dataIn p (← contentOf p)
    note .info ("Loaded descriptors from " ++ p.text)
    return ⟨p.text, data⟩

/-! ## The network -/

/-- Sends a request that may take so many seconds. -/
def request (url : String) (timeout : Value) : Step Reply := do
  modify fun s => { s with requests := s.requests ++ [(url, timeout)] }
  return (← get).reply

def failedRequest (url : String) (why : RequestFailure) (detail : String) : Step α :=
  match why with
  | .timeout => refuse (.timeout url)
  | .connection => refuse (.unreachable url detail)
  | .status => Step.fail (.mismatch (.member .null))
  | .other => refuse (.request url detail)

/-- Refuses a failure status, and warns of a reply that does not say it is JSON. -/
def checkReply (url : String) (status : Int) (headers : List (String × String)) : Step Unit := do
  if isFailure status then refuse (.status status url)
  let kind := Text.lower (headerValue headers "content-type")
  if !kind.contains "application/json" && !url.endsWith ".json" then
    note .warning ("URL " ++ url ++ " does not have JSON content type: " ++ kind)

/-- What is said of a whole number with so many digits. -/
def digitsDetail (count : Nat) : String :=
  "Exceeds the limit (" ++ toString Text.digitLimit
    ++ " digits) for integer string conversion: value has " ++ toString count
    ++ " digits; use sys.set_int_max_str_digits() to increase the limit"

/-- The value that the body of a reply writes. -/
def bodyData (url text : String) : Step Value :=
  match Json.read text with
  | .ok v => pure v
  | .error (.malformed m) => refuse (.replyMalformed url m.message)
  | .error (.tooManyDigits count) => refuse (.replyMalformed url (digitsDetail count))
  | .error .tooDeep => Step.fail .tooDeep

def dataOf (url : String) : Reply → Step Value
  | .failed why detail => failedRequest url why detail
  | .received status headers body => do
    checkReply url status headers
    bodyData url (bodyText body)
  | .unreadable status headers detail => do
    checkReply url status headers
    refuse (.replyMalformed url detail)

def fromUrl (url : String) (timeout : Value) : Step Loaded := do
  note .debug ("Loading descriptors from URL: " ++ url)
  match isAddress? url with
  | none => Step.fail (.mismatch (.content (.text url)))
  | some false => refuse (.invalidUrl url)
  | some true =>
    let data ← dataOf url (← request url timeout)
    note .info ("Loaded descriptors from " ++ url)
    return ⟨url, data⟩

/-! ## Streams -/

def standardInput : String := "<stdin>"

def fromText (name text : String) : Except Fault Loaded :=
  match Json.read text with
  | .ok data => .ok ⟨name, data⟩
  | .error f => .error (.ofUnread (fun m => .loading (.streamMalformed name m)) f)

/-! ## Either of two sources -/

/-- The document of a file or of an address, exactly one of which is given.  An empty name
counts as none. -/
def load (file url : Option String) (timeout : Value) : Step Loaded :=
  match file.filter (· != ""), url.filter (· != "") with
  | none, none => Step.fail (.loading .noSource)
  | some _, some _ => Step.fail (.loading .twoSources)
  | some name, none => fromFile name
  | none, some url => fromUrl url timeout

def elements (d : Loaded) : Step (List Descriptor.Element) := do
  let es ← Step.lift (Descriptor.elementsOf d.source d.data)
  note .debug ("Parsed " ++ toString es.length ++ " type(s) from " ++ d.source)
  return es

end Loading
end JavaCompanion
