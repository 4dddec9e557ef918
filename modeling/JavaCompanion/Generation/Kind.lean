/-
Kinds of generators.

A generator works in two steps: it plans a file for an element, and it writes the class of a
plan.  A kind of generator is given by these two steps and by how it presents itself.
-/
import JavaCompanion.Factory.Source
import JavaCompanion.Log.Record
import JavaCompanion.Observable.Source

namespace JavaCompanion
namespace Generation

inductive Plan where
  | factory (p : Factory.Plan)
  | observable (p : Observable.Plan)

namespace Plan

def outline : Plan → Outline
  | .factory p => p.toOutline
  | .observable p => p.toOutline

def write (config : Config) (p : Plan) (e : Emitter) : Except Fault Emitter :=
  match p with
  | .factory p => e.emit (Factory.operations config p)
  | .observable p => do
    let e ← e.emit (Observable.headOperations p)
    let listType ← shaped (Observable.listType config)
    e.emit (Observable.bodyOperations p listType)

def records : Plan → List Log.Record
  | .factory p =>
    (if p.creationMethods.isEmpty then
      [⟨.debug, Log.factoryLogger, p.source ++ " declares no constructors"⟩] else [])
      ++ [⟨.debug, Log.factoryLogger,
        "Factory " ++ p.qualifiedName.display ++ ": " ++ toString p.bound.length
          ++ " bound parameter(s), " ++ toString p.creationMethods.length
          ++ " creation method(s)"⟩]
  | .observable p =>
    [ Extraction.foundRecord p.source p.observed.length,
      ⟨.debug, Log.observableLogger,
        "Observable " ++ p.qualifiedName.display ++ ": " ++ toString p.constructors.length
          ++ " constructor(s), " ++ toString p.observed.length ++ " mutator(s)"⟩ ]

end Plan

structure Kind where
  className : String
  /-- Where the class of the generator is found. -/
  module : String
  name : String
  /-- The annotation that selects the types to generate for. -/
  annotationKey : String
  description : String
  plan : Config → Descriptor.Element → Except Fault Plan
  write : Config → Plan → Emitter → Except Fault Emitter

namespace Kind

def provenance (k : Kind) : String := provenanceOf k.name

def fileExtension (_ : Kind) : String := ".java"

def factory : Kind where
  className := "FactoryGenerator"
  module := "companion_gen.codegen.generators.factory.generator"
  name := "factory"
  annotationKey := "factory"
  description := "Factory classes that bind shared constructor parameters"
  plan config e := do return .factory (← Factory.plan config e)
  write := Plan.write

def observable : Kind where
  className := "ObservableGenerator"
  module := "companion_gen.codegen.generators.observable.generator"
  name := "observable"
  annotationKey := "observable"
  description := "Subclasses that notify listeners when mutators change a value"
  plan config e := do return .observable (← Observable.plan config e)
  write := Plan.write

end Kind

/-- A kind of generator with the configuration it works under. -/
structure Generator where
  kind : Kind
  config : Config
  /-- The most blanks that can be held as one text where the generator runs. -/
  textLimit : Nat := ({} : Emitter.Style).textLimit

end Generation
end JavaCompanion
