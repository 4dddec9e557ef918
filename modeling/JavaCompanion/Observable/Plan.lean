/-
The plan of an observable class.

Every mutator of the type is observed: listeners registered for its subject are told when it
changes the value.  A method that mutates several subjects is wrapped once, and the local
names that the wrapper needs are kept apart from each other and from its parameter.
-/
import JavaCompanion.Extraction.Mutators
import JavaCompanion.Generation.Outline
import JavaCompanion.Java.NameScope
import JavaCompanion.Observable.Settings

namespace JavaCompanion
namespace Observable

open Extraction Java

/-! ## Names derived from a subject -/

def listenerType (subject : String) : String := capitalize subject ++ "Listener"

def listenerField (subject : String) : String := decapitalize subject ++ "Listeners"

def callbackName (subject : String) : String := decapitalize subject ++ "Changed"

def fireName (subject : String) : String := "fire" ++ capitalize subject ++ "Listener"

/-! ## Observed mutators -/

/-- A mutator with the local names of its wrapper. -/
structure Observed where
  mutator : Mutator
  oldValueName : String
  newValueName : String
  resultName : String

namespace Observed

def subject (o : Observed) : String := o.mutator.subject

def listenerType (o : Observed) : String := Observable.listenerType o.subject

def fieldName (o : Observed) : String := listenerField o.subject

def callbackName (o : Observed) : String := Observable.callbackName o.subject

def fireName (o : Observed) : String := Observable.fireName o.subject

/-- The type of the value that listeners are told. -/
def valueType (o : Observed) : String := o.mutator.stateType

def accessorCall (o : Observed) : String := o.mutator.accessor.name.display ++ "()"

end Observed

/-- Observes a mutator, with local names that are free in the scope. -/
def observe (scope : NameScope) (m : Mutator) : Observed × NameScope :=
  let (oldValueName, scope) := scope.claim "oldValue" NameScope.defaultSeparator
  let (newValueName, scope) := scope.claim "newValue" NameScope.defaultSeparator
  let (resultName, scope) := scope.claim "result" NameScope.defaultSeparator
  ({ mutator := m, oldValueName, newValueName, resultName }, scope)

/-- Observes the mutators of one method, which share a scope. -/
def observeAll (scope : NameScope) : List Mutator → List Observed
  | [] => []
  | m :: rest =>
    let (o, scope) := observe scope m
    o :: observeAll scope rest

/-- The scope of a wrapper: its parameters are taken. -/
def wrapperScope (m : Method) : NameScope :=
  (m.parameters.map (·.name)).foldl NameScope.add {}

/-- Whether two mutators are of one method.  An element has no two mutators of one name that
come from different methods. -/
def sameMethod (m n : Mutator) : Bool := m.method.name.same n.method.name

def observedOf (ms : List Mutator) : List Observed :=
  (Generation.groups sameMethod ms).flatMap fun g =>
    observeAll (wrapperScope g.1.method) (g.1 :: g.2)

/-! ## Plans -/

structure Plan extends Generation.Outline where
  /-- The class that is extended. -/
  parent : String
  settings : Settings
  constructors : List Constructor
  observed : List Observed

/-- Every wrapped method once: the first mutator of it, and the others. -/
def Plan.wrapped (p : Plan) : List (Observed × List Observed) :=
  Generation.groups (fun a b => sameMethod a.mutator b.mutator) p.observed

def className (settings : Settings) (typeName : String) : Value :=
  settings.name.getD (.text ("Observable" ++ typeName))

def nothingObserved (owner : String) (verbs : List String) : String :=
  owner ++ " has no methods starting with " ++ String.intercalate ", " verbs
    ++ "; nothing is observed"

def Plan.of (e : Descriptor.Element) (settings : Settings) (cs : List Constructor)
    (found : Found) : Plan :=
  let observed := observedOf found.mutators
  { package := e.package
    className := className settings e.simpleName
    source := e.qualifiedName
    provenance := Generation.provenanceOf "observable"
    warnings := found.warnings ++
      if observed.isEmpty then [nothingObserved e.qualifiedName settings.verbs] else []
    parent := e.qualifiedName
    settings, constructors := cs, observed }

def plan (config : Config) (e : Descriptor.Element) : Except Fault Plan := do
  validate e
  let values := (e.annotationValues? "observable").getD []
  let settings ← Settings.ofValues values config.generatorOptions
  let cs ← shaped (constructors e config.controlNamespace none)
  let found ← mutators e settings.verbs settings.policy config.controlNamespace
  return .of e settings cs found

end Observable
end JavaCompanion
