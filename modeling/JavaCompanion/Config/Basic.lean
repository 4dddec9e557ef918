/-
The configuration of a run, shared by all generators.

Every setting is kept as it was given.  A setting of a wrong shape is warned about, and stops
a run only at the step that cannot use it.
-/
import JavaCompanion.Fault

namespace JavaCompanion

namespace Config

/-- Annotations under this package steer the generators, unless another is configured. -/
def defaultControlNamespace : String := "com.companion.annotations"

end Config

structure Config where
  indentWidth : Value := .int 4
  lineEnding : Value := .text "\n"
  generatedMarker : Value := .text "javax.annotation.Generated"
  injectMarker : Value := .text "@javax.inject.Inject"
  singletonMarker : Value := .text "@javax.inject.Singleton"
  providerType : Value := .text "javax.inject.Provider"
  controlNamespace : Value := .text Config.defaultControlNamespace
  addComments : Value := .bool true
  headerTemplate : Value := .null
  generatorOptions : Value := .object []

namespace Config

def unboundMarker (c : Config) : String :=
  c.controlNamespace.display ++ ".factory.Unbound"

/-- Every setting with its name, in the order in which they are saved. -/
def toFields (c : Config) : Fields :=
  [ ("indent_width", c.indentWidth), ("line_ending", c.lineEnding),
    ("generated_annotation", c.generatedMarker), ("inject_annotation", c.injectMarker),
    ("singleton_annotation", c.singletonMarker), ("provider_type", c.providerType),
    ("control_namespace", c.controlNamespace), ("add_comments", c.addComments),
    ("header_template", c.headerTemplate), ("generator_options", c.generatorOptions) ]

def settingNames : List String := toFields {} |>.map (·.1)

/-- Changes one setting, if there is one of that name. -/
def set? (c : Config) (name : String) (v : Value) : Option Config :=
  match name with
  | "indent_width" => some { c with indentWidth := v }
  | "line_ending" => some { c with lineEnding := v }
  | "generated_annotation" => some { c with generatedMarker := v }
  | "inject_annotation" => some { c with injectMarker := v }
  | "singleton_annotation" => some { c with singletonMarker := v }
  | "provider_type" => some { c with providerType := v }
  | "control_namespace" => some { c with controlNamespace := v }
  | "add_comments" => some { c with addComments := v }
  | "header_template" => some { c with headerTemplate := v }
  | "generator_options" => some { c with generatorOptions := v }
  | _ => none

def setField (c : Config) (f : String × Value) : Except Fault Config :=
  match c.set? f.1 f.2 with
  | some c => .ok c
  | none => .error (.unknownField f.1)

/-- The configuration with these settings, the others as by default. -/
def ofFields (fields : Fields) : Except Fault Config := fields.foldlM setField {}

/-! ## Line endings by name -/

def lineEndings : List (String × String) := [("lf", "\n"), ("crlf", "\r\n")]

/-- The line ending that a setting means: names stand for endings whatever their case, any
other text for itself. -/
def resolvedEnding (v : Value) : Value :=
  match v with
  | .text s =>
    match lineEndings.find? (·.1 == Text.lower s) with
    | some entry => .text entry.2
    | none => v
  | _ => v

/-- The name of a line ending, or the value itself if it has none. -/
def namedEnding (v : Value) : Value :=
  match lineEndings.find? fun entry => v.text? == some entry.2 with
  | some entry => .text entry.1
  | none => v

/-! ## Warnings -/

def widthWarnings (c : Config) : List String :=
  match c.indentWidth.int? with
  | some n =>
    if n < 0 then ["Invalid indent_width: " ++ c.indentWidth.display] else []
  | none => ["Invalid indent_width: " ++ c.indentWidth.display]

def endingWarnings (c : Config) : List String :=
  if lineEndings.any fun entry => c.lineEnding.text? == some entry.2 then []
  else ["Unusual line_ending: " ++ c.lineEnding.quoted]

def namespaceWarnings (c : Config) : List String :=
  if c.controlNamespace.truthy then []
  else ["Empty control_namespace: control annotations will be echoed"]

def annotationWarnings (name : String) (v : Value) : Except Mismatch (List String) := do
  let s ← v.asMember
  return if s.startsWith "@" then [] else [name ++ " should start with '@': " ++ s]

def warnings (c : Config) : Except Mismatch (List String) := do
  let inject ← annotationWarnings "inject_annotation" c.injectMarker
  let singleton ← annotationWarnings "singleton_annotation" c.singletonMarker
  return c.widthWarnings ++ c.endingWarnings ++ c.namespaceWarnings ++ inject ++ singleton

/-! ## Settings given as annotation values -/

def refuse (f : ConfigFault) : Except Fault α := .error (.config f)

/-- Whether the text of a value can be made, as a check. -/
def checkShowable (v : Value) : Except Fault Unit :=
  if v.isShowable then .ok ()
  else .error (if v.digits ≤ Text.digitLimit then .tooDeep else .tooManyDigits)

/-- Refuses a value, whose text is part of the message. -/
def refuseValue (v : Value) (f : ConfigFault) : Except Fault α := do
  checkShowable v
  refuse f

def boolean (key : String) (v : Value) : Except Fault Bool :=
  match v with
  | .bool b => .ok b
  | _ => refuseValue v (.notBoolean key v)

/-- A setting that is a list of texts; a text alone is a list of one. -/
def texts (key : String) (v : Value) : Except Fault (List String) :=
  match v with
  | .text s => .ok [s]
  | .list items =>
    match items.mapM Value.text? with
    | some ss => .ok ss
    | none => refuseValue v (.notTexts key v)
  | _ => refuseValue v (.notTexts key v)

end Config
end JavaCompanion
