/-
The plan of a factory.

Parameters that are not marked unbound are bound: given once, when the factory is made, and
kept in a field each.  Parameters written alike are one.  Every constructor of the type
becomes a creation method that takes what is not bound and passes all of it on.
-/
import JavaCompanion.Extraction.Signatures
import JavaCompanion.Factory.Settings
import JavaCompanion.Generation.Outline
import JavaCompanion.Java.NameScope
import JavaCompanion.Java.TypeName

namespace JavaCompanion
namespace Factory

open Java

/-! ## Bound parameters -/

def isAmong (ps : List Parameter) (p : Parameter) : Bool := ps.any p.same

/-- Adds a parameter the first time it is met, unless it is marked unbound. -/
def addBound (found : List Parameter) (p : Parameter) : List Parameter :=
  if p.unbound || isAmong found p then found else found ++ [p]

/-- The bound parameters of a type in the order in which its constructors first have them. -/
def boundParameters (cs : List Constructor) : List Parameter :=
  (cs.flatMap (·.parameters)).foldl addBound []

/-- The parameters that are left to a call. -/
def creationParameters (c : Constructor) (bound : List Parameter) : List Parameter :=
  c.parameters.filter fun p => !isAmong bound p

/-- A bound parameter and the field that keeps it.  A field of a provider is asked for the
value when it is needed. -/
structure Binding where
  parameter : Parameter
  fieldName : String
  fieldType : String
  dereference : Bool := false

namespace Binding

/-- The expression that yields the value. -/
def reference (b : Binding) : String :=
  "this." ++ b.fieldName ++ if b.dereference then ".get()" else ""

end Binding

/-- The type of a field and whether it holds a provider of the value. -/
def fieldType (providers : Bool) (providerType : Value) (type : String) : String × Bool :=
  if providers && !isProvider type providerType then (wrapProvider type providerType, true)
  else (type, false)

/-- Gives each parameter a field, with a name of its own in the scope. -/
def bind (providers : Bool) (providerType : Value) (scope : NameScope) :
    List Parameter → List Binding
  | [] => []
  | p :: rest =>
    let (fieldName, scope) := scope.claim p.name ""
    let (type, dereference) := fieldType providers providerType p.type
    { parameter := p, fieldName, fieldType := type, dereference }
      :: bind providers providerType scope rest

/-- Fields that are not named like their parameter are worth a warning. -/
def bindingWarnings (bs : List Binding) : List String :=
  bs.filterMap fun b =>
    if b.fieldName = b.parameter.name then none
    else some ("Bound parameter '" ++ b.parameter.text ++ "' is stored in field '" ++ b.fieldName
      ++ "'")

/-! ## Creation methods -/

structure CreationMethod where
  parameters : List Parameter
  arguments : List String
  thrown : List String := []

/-- What is passed on for one parameter. -/
def argument (bs : List Binding) (p : Parameter) : String :=
  match bs.find? fun b => b.parameter.same p with
  | some b => b.reference
  | none => p.name

def creationMethod (bs : List Binding) (c : Constructor) : CreationMethod where
  parameters := creationParameters c (bs.map (·.parameter))
  arguments := c.parameters.map (argument bs)
  thrown := c.thrown

/-! ## Plans -/

structure Plan extends Generation.Outline where
  /-- The type that is created. -/
  target : String
  methodName : String
  settings : Settings
  bound : List Binding
  creationMethods : List CreationMethod

def className (settings : Settings) (typeName : String) : Value :=
  settings.name.getD (.text (typeName ++ "Factory"))

/-- Parameters are told apart by their texts, so all of them must have one. -/
def requireTexts (cs : List Constructor) : Except Mismatch Unit := do
  for c in cs do
    discard c.text?

def Plan.of (e : Descriptor.Element) (config : Config) (settings : Settings)
    (cs : List Constructor) : Plan :=
  let bound := bind settings.providers config.providerType {} (boundParameters cs)
  { package := e.package
    className := className settings e.simpleName
    source := e.qualifiedName
    provenance := Generation.provenanceOf "factory"
    warnings := bindingWarnings bound
    target := e.simpleName
    methodName := "get" ++ e.simpleName
    settings, bound
    creationMethods := cs.map (creationMethod bound) }

def plan (config : Config) (e : Descriptor.Element) : Except Fault Plan := do
  Extraction.validate e
  let values := (e.annotationValues? "factory").getD []
  let settings ← Settings.ofValues values config.generatorOptions
  let cs ← shaped (Extraction.constructors e config.controlNamespace config.unboundMarker)
  shaped (requireTexts cs)
  return .of e config settings cs

end Factory
end JavaCompanion
