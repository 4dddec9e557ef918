/-
The operations of an emitter, called by name.

A call is checked against the parameters of its operation before anything is written.
-/
import JavaCompanion.Emitter.Operation
import JavaCompanion.Script.Arguments

namespace JavaCompanion
namespace Script

open Emitter

def noModifiers : Parameter := .optional "modifiers" (.list [])

def finalOnly : Parameter := .optional "modifiers" localModifiers

/-- The text of a value that may be left out. -/
def optionalText (v : Value) : Option String := if v.isNull then none else some v.display

/-- The text of a value, where what counts as absent is empty. -/
def presentText (v : Value) : String := if v.truthy then v.display else ""

/-- The parameters of a writing operation, with whether it takes further arguments. -/
def emitterParameters? : String → Option (List Parameter × Bool)
  | "write_package_declaration" => some ([.required "package_name"], false)
  | "write_header_comment" => some ([.required "text"], false)
  | "write_annotation" => some ([.required "annotation"], false)
  | "write_annotation_if" => some ([.required "annotation", .required "condition"], false)
  | "write_class_declaration" | "write_class_declaration_start" =>
    some ([.required "class_name", .optional "provenance" .null, noModifiers], false)
  | "write_class_extends_declaration" => some ([.required "name"], false)
  | "write_class_implements_declaration" => some ([], true)
  | "write_interface_declaration" =>
    some ([.required "name", .optional "provenance" .null, noModifiers,
      .optional "extends" (.list [])], false)
  | "write_field" =>
    some ([.required "type_name", .required "name", noModifiers, .optional "value" .null], false)
  | "write_constructor_declaration_start" => some ([.required "name", noModifiers], false)
  | "write_method_declaration_start" =>
    some ([.required "return_type", .required "name", noModifiers], false)
  | "write_method_parameter" =>
    some ([.required "annotations", .required "type_name", .required "name", noModifiers], false)
  | "write_method_declaration_end" | "write_interface_method_declaration_end" => some ([], true)
  | "write_super_method_start" | "write_method_call_start" => some ([.required "name"], false)
  | "write_method_call_parameter" => some ([.required "value"], false)
  | "write_declaration_start" =>
    some ([.required "type_name", .required "name", finalOnly], false)
  | "write_declaration_and_assignment" =>
    some ([.required "type_name", .required "name", .required "value", finalOnly], false)
  | "write_assignment" | "write_field_assignment" =>
    some ([.required "target", .required "value"], false)
  | "write_return" => some ([.optional "value" .null], false)
  | "write_new_instance" => some ([.required "name"], true)
  | "write_new_for_loop_start" =>
    some ([.required "type_name", .required "name", .required "iterable", finalOnly], false)
  | "write" => some ([.required "string"], false)
  | "write_class_declaration_end" | "write_block_end" | "write_interface_block_end"
  | "write_super_constructor_start" | "write_method_call_end" | "write_return_start"
  | "write_statement_end" | "write_for_loop_end" => some ([], false)
  | _ => none

/-- What a writing operation does with bound parameters and further arguments. -/
def emitterOperations (operation : String) (b : Fields) (more : List Value) :
    List Operation :=
  let name := b.textOf "name"
  let type := b.textOf "type_name"
  let ms := b.valueOf "modifiers"
  let provenance := presentText (b.valueOf "provenance")
  match operation with
  | "write_package_declaration" =>
    [.packageDeclaration (presentText (b.valueOf "package_name"))]
  | "write_header_comment" => [.headerComment (b.valueOf "text")]
  | "write_annotation" => [.annotate (b.valueOf "annotation")]
  | "write_annotation_if" =>
    annotationIf (b.valueOf "annotation") (b.valueOf "condition").truthy
  | "write_class_declaration" => classDeclaration (b.textOf "class_name") provenance ms
  | "write_class_declaration_start" => [.classStart (b.textOf "class_name") provenance ms]
  | "write_class_extends_declaration" => [.classExtends name]
  | "write_class_implements_declaration" => [.classImplements more]
  | "write_class_declaration_end" => [.classEnd]
  | "write_interface_declaration" =>
    [.interfaceStart name provenance ms (b.valueOf "extends")]
  | "write_block_end" => [.blockEnd]
  | "write_interface_block_end" => [.interfaceEnd]
  | "write_field" => [.field type name ms (optionalText (b.valueOf "value"))]
  | "write_constructor_declaration_start" => [.constructorStart name ms]
  | "write_method_declaration_start" => [.methodStart (b.textOf "return_type") name ms]
  | "write_method_parameter" => [.parameter (b.valueOf "annotations") type name ms]
  | "write_method_declaration_end" => [.bodyStart more]
  | "write_interface_method_declaration_end" => [.bodiless more]
  | "write_super_constructor_start" => [.superConstructorStart]
  | "write_super_method_start" => [.superCallStart name]
  | "write_method_call_start" => [.callStart name]
  | "write_method_call_parameter" => [.argument (b.valueOf "value")]
  | "write_method_call_end" => [.callEnd]
  | "write_declaration_start" => [.declarationStart type name ms]
  | "write_declaration_and_assignment" => [.declaration type name (b.textOf "value") ms]
  | "write_assignment" => [.assignment (b.textOf "target") (b.textOf "value")]
  | "write_field_assignment" => [fieldAssignment (b.textOf "target") (b.textOf "value")]
  | "write_return_start" => [.returnStart]
  | "write_return" => [.returnValue (optionalText (b.valueOf "value"))]
  | "write_new_instance" => [.newInstance name more]
  | "write_statement_end" => [.statementEnd]
  | "write_new_for_loop_start" => [.loopStart type name (b.textOf "iterable") ms]
  | "write_for_loop_end" => [.loopEnd]
  | "write" => [.raw (b.valueOf "string")]
  | _ => []

/-- What a call on an emitter gives: the emitter after it, and a result or a fault. -/
structure Called where
  emitter : Emitter
  result : Option Value := none
  fault : Option Fault := none

def callWriting (e : Emitter) (operation : String) (a : Arguments) : Called :=
  match emitterParameters? operation with
  | none => { emitter := e, fault := some (.mismatch (.member (.text operation))) }
  | some (ps, isOpen) =>
    let bound := if isOpen then a.bindSome ps else do return (← a.bind ps, [])
    match bound with
    | .error m => { emitter := e, fault := some (.mismatch m) }
    | .ok (b, more) =>
      let (e', fault) := e.performAll (emitterOperations operation b more)
      { emitter := e', fault }

/-- A call that asks for something and changes nothing. -/
def callAsking (e : Emitter) (a : Arguments) (answer : Except Fault (Option Value)) : Called :=
  match do let _ ← shaped (a.bind []); answer with
  | .ok result => { emitter := e, result }
  | .error f => { emitter := e, fault := some f }

/-- Calls an operation of an emitter, or reads one of its properties. -/
def callEmitter (e : Emitter) (operation : String) (a : Arguments) : Called :=
  match operation with
  | "getvalue" => callAsking e a (e.result.map fun s => some (.text s))
  | "ensure_balanced" => callAsking e a ((orFault .emitter e.ensureBalanced).map fun _ => none)
  | "is_balanced" => callAsking e a (.ok (some (.bool e.isBalanced)))
  | "close" =>
    match a.bind [] with
    | .ok _ => { emitter := e.close }
    | .error m => { emitter := e, fault := some (.mismatch m) }
  | "depth" => { emitter := e, result := some (.int e.depth) }
  | "open_contexts" =>
    { emitter := e, result := some (.list (e.openContexts.map fun c => .text c.name)) }
  | _ => callWriting e operation a

/-- A call whose arguments do not fit writes nothing. -/
theorem callWriting_of_misfit {e : Emitter} {operation : String} {a : Arguments}
    {ps : List Parameter} {m : Mismatch} (hp : emitterParameters? operation = some (ps, false))
    (hb : a.bind ps = .error m) : (callWriting e operation a).emitter = e := by
  simp [callWriting, hp, hb, Bind.bind, Except.bind]

end Script
end JavaCompanion
