/-
Generators from the catalogue.

A generator is created under a name or an alias.  Its configuration is given complete, as
overrides of the defaults, as a file, or not at all.
-/
import JavaCompanion.Config.Sources

namespace JavaCompanion
namespace Catalogue

open Generation

/-- A configuration as it is given for a new generator. -/
inductive Given where
  | none
  | complete (c : Config)
  | overrides (settings : Fields)
  | file (path : String)
  | other (v : Value)

def Given.ofValue : Value → Given
  | .null => .none
  | .text path => .file path
  | .object settings => .overrides settings
  | v => .other v

def configure (key : String) : Given → Step Config
  | .none => Config.load key .null .null
  | .complete c => pure c
  | .overrides settings => Config.load key (.object settings) .null
  | .file path => Config.load key .null (.text path)
  | .other v => Step.fail (.catalogue (.configKind v))

/-- As `configure`, where a faulty configuration is reported as the catalogue's own fault. -/
def configureFor (key : String) (given : Given) : Step Config :=
  tryCatch (configure key given) fun f =>
    match f with
    | .config f => Step.fail (.catalogue (.misconfigured key f))
    | f => Step.fail f

def make (entry : Entry) (c : Config) : Except Fault Generator :=
  match entry with
  | .concrete k => .ok { kind := k, config := c }
  | .abstract_ className _ => .error (.abstractGenerator className)

def catalogueStep (x : Except CatalogueFault α) : Step α := Step.lift (orFault .catalogue x)

def current : Step Catalogue := do return (← get).catalogue

def create (name : String) (given : Given) : Step Generator := do
  let (key, entry) ← catalogueStep ((← current).select name)
  let c ← configureFor key given
  Step.lift (make entry c)

/-- A generator of every entry, in the order of the names. -/
def createAll (given : Given) : Step (List Generator) := do
  (← current).names.mapM fun name => create name given

/-! ## Registration -/

def registeredRecord (name : String) (e : Entry) : Log.Record :=
  ⟨.debug, Log.catalogueLogger,
    "Registered generator " ++ keyOf name ++ " (" ++ e.className ++ ")"⟩

def setCatalogue (c : Catalogue) : Step Unit := modify fun s => { s with catalogue := c }

def registerStep (name : String) (entry : Option Entry) (aliases : List String)
    (replace : Bool) : Step Unit := do
  let c ← current
  let (c', stop) := c.register name entry aliases replace
  setCatalogue c'
  match stop, entry with
  | some f, _ => Step.fail (.catalogue f)
  | none, some e => if !c.isSkipped name replace then Step.log (registeredRecord name e)
  | none, none => pure ()

def registerSupplied : Step Unit :=
  supplied.forM fun s => registerStep s.1 (some s.2.1) s.2.2 false

/-! ## Information -/

structure Info where
  name : String
  className : String
  description : String
  annotationKey : String
  fileExtension : String
  provenance : String
  aliases : List String
  module : String

def infoOf (c : Catalogue) (key : String) (k : Kind) : Info where
  name := k.name
  className := k.className
  description := k.description
  annotationKey := k.annotationKey
  fileExtension := k.fileExtension
  provenance := k.provenance
  aliases := c.aliasesOf key
  module := k.module

/-- Describes a generator, which is created with its default configuration for it. -/
def info (name : String) : Step Info := do
  let c ← current
  let key ← catalogueStep (c.resolve name)
  let g ← create key .none
  return c.infoOf key g.kind

def allInfo : Step (List (String × Info)) := do
  (← current).names.mapM fun name => do return (name, ← info name)

/-! ## Generators for companions of one type -/

/-- The overrides by which a factory follows the Jakarta annotations. -/
def jakartaSettings : Fields :=
  [ ("inject_annotation", .text "@jakarta.inject.Inject"),
    ("singleton_annotation", .text "@jakarta.inject.Singleton"),
    ("provider_type", .text "jakarta.inject.Provider") ]

/-- A factory generator with Jakarta annotations, unless the overrides say otherwise. -/
def injectable (overrides : Fields) : Step Generator := do
  let c ← Config.load "factory" (.object (Fields.putAll jakartaSettings overrides)) .null
  return { kind := .factory, config := c }

/-- A generator made without the catalogue takes its configuration as it is given.  What is no
configuration is noticed when an element is planned, once its names are found valid. -/
def direct (k : Kind) : Given → Generator
  | .complete c => { kind := k, config := c }
  | .none => { kind := k, config := {} }
  | .overrides [] => { kind := k, config := {} }
  | .overrides settings => unconfigured (.object settings)
  | .file "" => { kind := k, config := {} }
  | .file path => unconfigured (.text path)
  | .other v => if v.truthy then unconfigured v else { kind := k, config := {} }
where
  unconfigured (v : Value) : Generator :=
    { kind := { k with plan := fun _ e => do
        Extraction.validate e
        .error (.mismatch (.member v)) }
      config := {} }

end Catalogue
end JavaCompanion
