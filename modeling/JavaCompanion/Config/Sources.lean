/-
Where configurations come from.

A configuration begins with the defaults of a generator.  The settings of a file replace
those, and explicit ones replace both; the options of generators are merged one by one.
Settings that nobody knows become options.
-/
import JavaCompanion.Config.Basic
import JavaCompanion.Json.Reader
import JavaCompanion.Json.Writer
import JavaCompanion.Session

namespace JavaCompanion
namespace Config

/-! ## Merging -/

def optionsName : String := "generator_options"

/-- Merges one setting.  Options join those that are there, which must be an object then. -/
def mergeField (settings : Fields) (f : String × Value) : Except Mismatch Fields :=
  match f with
  | (name, .object options) =>
    if name = optionsName then
      match (Fields.get? settings optionsName).getD (.object []) with
      | .object old => .ok (Fields.put optionsName (.object (Fields.putAll old options)) settings)
      | v => .error (.member v)
    else .ok (Fields.put name (.object options) settings)
  | (name, v) => .ok (Fields.put name v settings)

def merge (settings overrides : Fields) : Except Mismatch Fields :=
  overrides.foldlM mergeField settings

/-! ## Defaults -/

/-- The settings with which the configuration of each known generator begins. -/
def defaults : List (String × Fields) :=
  [ ("factory",
      [ ("add_comments", .bool true),
        (optionsName, .object
          [ ("default_class_modifiers", .list [.text "public"]),
            ("default_method_modifiers", .list [.text "public"]) ]) ]),
    ("observable",
      [ ("add_comments", .bool true),
        (optionsName, .object
          [ ("default_method_prefixes", .list [.text "set"]),
            ("default_prefix_match", .text "first") ]) ]) ]

def defaultsOf (generator : String) : Fields :=
  ((defaults.find? (·.1 == generator)).map (·.2)).getD []

def knownGenerators : List String := defaults.map (·.1)

/-! ## From settings to a configuration -/

/-- The settings with those that nobody knows moved into the options.  An option whose key is
no text goes by the text of its key. -/
def gatherOptions (settings : Fields) : Except Mismatch Fields :=
  let known := settings.filter fun f => settingNames.contains f.1
  match settings.filter fun f => !settingNames.contains f.1 with
  | [] => .ok known
  | extra => do
    let options ← ((Fields.get? known optionsName).getD (.object [])).asEntries
    return Fields.put optionsName
      (.object (Fields.putAll (Value.namedEntries options) extra)) known

def ofSettings (settings : Fields) : Except Fault Config := do
  let c ← ofFields (← shaped (gatherOptions settings))
  return { c with lineEnding := resolvedEnding c.lineEnding }

/-! ## Files -/

def loadedRecord (path : String) : Log.Record :=
  ⟨.debug, Log.configLogger, "Loaded configuration file " ++ path⟩

/-- The settings in a file of the tree. -/
def settingsIn (t : FileTree) (name : String) : Except Fault Fields := do
  let p := FileTree.Path.ofString name
  match t.isThere p with
  | .error reason => .error (.system ⟨reason, p.text⟩)
  | .ok false => refuse (.fileMissing p.text)
  | .ok true =>
    if Text.lower p.suffix != ".json" then refuse (.fileNotJson p.text)
    match t.read p with
    | .error reason => refuse (.fileRefused p.text ⟨reason, p.text⟩)
    | .ok bytes =>
      match FileTree.decodeLines bytes with
      | none => .error .undecodable
      | some s =>
        match Json.read s with
        | .error f => .error (.ofUnread (fun m => .config (.fileMalformed p.text m)) f)
        | .ok (.object settings) => .ok settings
        | .ok _ => refuse (.fileNoObject p.text)

def readSettings (name : String) : Step Fields := do
  let settings ← Step.lift (settingsIn (← Step.tree) name)
  Step.log (loadedRecord (FileTree.Path.ofString name).text)
  return settings

/-! ## Complete configurations -/

def warningRecord (warning : String) : Log.Record :=
  ⟨.warning, Log.configLogger, "Configuration: " ++ warning⟩

def fileSettings (file : Value) : Step Fields :=
  if !file.truthy then pure []
  else do readSettings (← Step.lift (shaped file.asOperand))

/-- Explicit settings, if any are given. -/
def explicitSettings (v : Value) : Except Mismatch Fields :=
  if !v.truthy then .ok []
  else
    match v with
    | .object fields => .ok fields
    | _ => .error (.member v)

/-- The configuration from defaults, the settings of a file and explicit ones. -/
def combine (defaults file : Fields) (custom : Value) : Except Fault Config := do
  let settings ← shaped (merge defaults file)
  let overrides ← shaped (explicitSettings custom)
  ofSettings (← shaped (merge settings overrides))

/-- The configuration for a generator, with its warnings in the log. -/
def load (generator : String) (custom file : Value) : Step Config := do
  let ofFile ← fileSettings file
  let c ← Step.lift (combine (defaultsOf generator) ofFile custom)
  let ws ← Step.lift (shaped c.warnings)
  Step.logAll (ws.map warningRecord)
  return c

/-! ## Saving -/

/-- The settings as they are saved, with line endings by name. -/
def savedFields (c : Config) : Fields := toFields { c with lineEnding := namedEnding c.lineEnding }

/-- The text under which a configuration is saved. -/
def saved (c : Config) : String := Json.write (.object c.savedFields)

/-- How many calls inside each other it takes to copy the settings. -/
def copyHeight (c : Config) : Nat :=
  (c.toFields.map fun f => f.2.height 3 2).foldl max 0

def ofStop : Json.Stop → Fault
  | .tooManyDigits => .tooManyDigits
  | .surrogate => .unencodable

/-- Copies the settings, and writes the copy to a file.  The file is not touched if there are not
enough calls left for the copy, and holds what has been written if that is stopped. -/
def save (c : Config) (name : String) : Step Unit := do
  let s ← get
  let p := FileTree.Path.ofString name
  if s.callsLeft < c.copyHeight then Step.fail .tooDeep
  match s.tree.openFile p false with
  | .error reason =>
    Step.fail (.ofReason (.config (.saveRefused p.text ⟨reason, p.text⟩)) reason p.text)
  | .ok (t, place) =>
    let v := Value.object c.savedFields
    Step.setTree (t.append place ((Text.bytes? (Json.handedOver v)).getD .empty))
    match Json.stop? v with
    | some stop => Step.fail (ofStop stop)
    | none => return ()

end Config
end JavaCompanion
