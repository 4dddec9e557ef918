/-
The source of an observable class.

The class extends the type.  It has a list of listeners for each subject, the constructors of
the type, a wrapper for each mutating method, methods that manage the listeners and tell
them, and an interface for each kind of listener.
-/
import JavaCompanion.Emitter.Operation
import JavaCompanion.Observable.Plan

namespace JavaCompanion
namespace Observable

open Emitter Java

def finalOnly : Value := keywords [.final]

def publicOnly : Value := keywords [.«public»]

def privateOnly : Value := keywords [.«private»]

def noModifiers : Value := .list []

def noAnnotations : Value := .list []

def parameterOperation (p : Parameter) : Operation :=
  .parameter (.list p.annotations) p.type p.name finalOnly

def passOn (ps : List Parameter) : List Operation := ps.map fun p => .argument (.text p.name)

/-! ## Fields and constructors -/

def Observed.field (o : Observed) : Operation :=
  .field ("java.util.List<" ++ o.listenerType ++ ">") o.fieldName
    (keywords [.«private», .final]) none

def headOperations (p : Plan) : List Operation :=
  [.classStart p.className.display p.provenance publicOnly, .classExtends p.parent, .classEnd]
    ++ p.observed.map Observed.field

/-- A constructor that passes everything on and begins with empty lists of listeners. -/
def constructorOperations (p : Plan) (listType : String) (c : Constructor) : List Operation :=
  [.constructorStart p.className.display publicOnly]
    ++ c.parameters.map parameterOperation
    ++ [.bodyStart (c.thrown.map .text), .superConstructorStart]
    ++ passOn c.parameters
    ++ [.callEnd]
    ++ p.observed.map (fun o => fieldAssignment o.fieldName ("new " ++ listType ++ "<>()"))
    ++ [.blockEnd]

/-- A type without declared constructors has the implicit one. -/
def constructorsOrImplicit (cs : List Constructor) : List Constructor :=
  if cs.isEmpty then [{}] else cs

/-! ## Wrappers -/

/-- Modifiers of a method that the wrapper does not repeat. -/
def notInherited : List Modifier := [.«abstract», .native]

def wrapperModifiers (m : Method) : Value :=
  keywords (m.modifiers.filter fun k => !notInherited.contains k)

/-- Reads the value through the accessor into a local variable. -/
def readValue (o : Observed) (name : String) : Operation :=
  .declaration o.valueType name o.accessorCall localModifiers

def superCall (m : Method) (resultName : String) : List Operation :=
  if m.isVoid then
    [.superCallStart m.name.display] ++ passOn m.parameters ++ [.callEnd]
  else
    [.declarationStart m.returnType resultName localModifiers, .superCallStart m.name.display]
      ++ passOn m.parameters ++ [.callEnd, .statementEnd]

def fireCall (oldValue : Bool) (o : Observed) : List Operation :=
  [.callStart o.fireName] ++ (if oldValue then [.argument (.text o.oldValueName)] else [])
    ++ [.argument (.text o.newValueName), .callEnd]

/-- The wrapper of one method: the old values, the call, the new values, and the news for the
listeners of every subject. -/
def wrapperOperations (oldValue : Bool) (first : Observed) (others : List Observed) :
    List Operation :=
  let m := first.mutator.method
  let group := first :: others
  [.methodStart m.returnType m.name.display (wrapperModifiers m)]
    ++ m.parameters.map parameterOperation
    ++ [.bodyStart (m.thrown.map .text)]
    ++ (if oldValue then group.map fun o => readValue o o.oldValueName else [])
    ++ superCall m first.resultName
    ++ group.map (fun o => readValue o o.newValueName)
    ++ group.flatMap (fireCall oldValue)
    ++ (if m.isVoid then [] else [.returnValue (some first.resultName)])
    ++ [.blockEnd]

/-! ## Listeners -/

/-- A method that adds or removes a listener. -/
def managementOperations (o : Observed) (action : String) : List Operation :=
  [ .methodStart "void" (action ++ capitalize o.subject ++ "Listener") publicOnly,
    .parameter noAnnotations o.listenerType "listener" finalOnly, .bodyStart [],
    .callStart (o.fieldName ++ "." ++ action), .argument (.text "listener"), .callEnd,
    .blockEnd ]

/-- The parameters by which a change is told. -/
def changeParameters (oldValue : Bool) (o : Observed) (modifiers : Value) : List Operation :=
  (if oldValue then [.parameter noAnnotations o.valueType "oldValue" modifiers] else [])
    ++ [.parameter noAnnotations o.valueType "newValue" modifiers]

/-- The method that tells every listener of a subject. -/
def fireOperations (oldValue : Bool) (o : Observed) : List Operation :=
  [.methodStart "void" o.fireName privateOnly]
    ++ changeParameters oldValue o finalOnly
    ++ [.bodyStart [], .loopStart o.listenerType "listener" o.fieldName localModifiers,
      .callStart ("listener." ++ o.callbackName)]
    ++ (if oldValue then [.argument (.text "oldValue")] else [])
    ++ [.argument (.text "newValue"), .callEnd, .loopEnd, .blockEnd]

def listenerOperations (oldValue : Bool) (o : Observed) : List Operation :=
  managementOperations o "add" ++ managementOperations o "remove" ++ fireOperations oldValue o

def interfaceOperations (p : Plan) (o : Observed) : List Operation :=
  [ .interfaceStart o.listenerType p.provenance publicOnly (.list []),
    .methodStart "void" o.callbackName noModifiers ]
    ++ changeParameters p.settings.oldValue o noModifiers
    ++ [.bodiless [], .interfaceEnd]

/-! ## The whole class -/

/-- Everything after the fields, with lists of the given type for the listeners. -/
def bodyOperations (p : Plan) (listType : String) : List Operation :=
  (constructorsOrImplicit p.constructors).flatMap (constructorOperations p listType)
    ++ p.wrapped.flatMap (fun w => wrapperOperations p.settings.oldValue w.1 w.2)
    ++ p.observed.flatMap (listenerOperations p.settings.oldValue)
    ++ p.observed.flatMap (interfaceOperations p)
    ++ [.blockEnd]

/-- The class that implements the lists of listeners. -/
def listType (config : Config) : Except Mismatch String :=
  match config.generatorOptions with
  | .object options =>
    .ok ((Fields.get? options "listener_list_impl").getD (.text "java.util.ArrayList")).display
  | v => .error (.member v)

end Observable
end JavaCompanion
