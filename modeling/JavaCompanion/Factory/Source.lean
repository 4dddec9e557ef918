/-
The source of a factory: a field for each bound parameter, a constructor that takes them, and
the creation methods.
-/
import JavaCompanion.Emitter.Operation
import JavaCompanion.Factory.Plan

namespace JavaCompanion
namespace Factory

open Emitter Java

def finalOnly : Value := keywords [.final]

def publicOnly : Value := keywords [.«public»]

def fieldModifiers : Value := keywords [.«private», .final]

def Binding.field (b : Binding) : Operation :=
  .field b.fieldType b.fieldName fieldModifiers none

def Binding.parameterOperation (b : Binding) : Operation :=
  .parameter (.list b.parameter.annotations) b.fieldType b.fieldName finalOnly

def Binding.assignment (b : Binding) : Operation := fieldAssignment b.fieldName b.fieldName

def parameterOperation (p : Parameter) : Operation :=
  .parameter (.list p.annotations) p.type p.name finalOnly

/-- The constructor, which keeps every bound parameter in its field. -/
def constructorOperations (config : Config) (p : Plan) : List Operation :=
  annotationIf config.injectMarker p.settings.inject
    ++ [.constructorStart p.className.display publicOnly]
    ++ p.bound.map Binding.parameterOperation
    ++ [.bodyStart []]
    ++ p.bound.map Binding.assignment
    ++ [.blockEnd]

def creationOperations (p : Plan) (m : CreationMethod) : List Operation :=
  [.methodStart p.target p.methodName (keywords p.settings.methodModifiers)]
    ++ m.parameters.map parameterOperation
    ++ [.bodyStart (m.thrown.map .text), .returnStart,
      .newInstance p.target (m.arguments.map .text), .statementEnd, .blockEnd]

def operations (config : Config) (p : Plan) : List Operation :=
  annotationIf config.singletonMarker p.settings.singleton
    ++ classDeclaration p.className.display p.provenance (keywords p.settings.modifiers)
    ++ p.bound.map Binding.field
    ++ constructorOperations config p
    ++ p.creationMethods.flatMap (creationOperations p)
    ++ [.blockEnd]

end Factory
end JavaCompanion
