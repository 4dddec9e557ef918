/-
Signatures as data: each part of a signature under its name.

The text of a parameter can be missing, if an annotation of it has none; then there is no
view of anything that contains it.
-/
import JavaCompanion.Observable.Plan

namespace JavaCompanion

/-- A list of texts as a value. -/
def Value.texts (ss : List String) : Value := .list (ss.map .text)

/-- A text, or nothing. -/
def Value.optional : Option String → Value
  | some s => .text s
  | none => .null

namespace Java

def Parameter.view (p : Parameter) : Except Mismatch Value := do
  let text ← p.text?
  return .object
    [ ("type", .text p.type), ("name", .text p.name), ("annotations", .list p.annotations),
      ("unbound", .bool p.unbound), ("text", .text text) ]

def Constructor.view (c : Constructor) : Except Mismatch Value := do
  let ps ← c.parameters.mapM (·.view)
  return .object
    [("parameters", .list ps), ("thrown", .texts c.thrown), ("text", .text c.text)]

def Method.view (m : Method) : Except Mismatch Value := do
  let ps ← m.parameters.mapM (·.view)
  return .object
    [ ("parameters", .list ps), ("thrown", .texts m.thrown), ("text", .text m.text),
      ("name", m.name), ("return_type", .text m.returnType),
      ("modifiers", keywords (Modifier.toSet m.modifiers)), ("is_void", .bool m.isVoid),
      ("is_overridable", .bool m.isOverridable) ]

def Mutator.view (m : Mutator) : Except Mismatch Value := do
  let method ← m.method.text?
  let accessor ← m.accessor.text?
  let parameter ← m.parameter.text?
  return .object
    [ ("method", .text method), ("prefix", .text m.verb), ("subject", .text m.subject),
      ("accessor", .text accessor), ("value_type", .text m.valueType),
      ("state_type", .text m.stateType), ("parameter", .text parameter) ]

end Java

def Observable.Observed.view (o : Observed) : Except Mismatch Value := do
  let mutator ← o.mutator.view
  return .object
    [ ("mutator", mutator), ("listener_type", .text o.listenerType),
      ("field_name", .text o.fieldName), ("callback_name", .text o.callbackName),
      ("fire_name", .text o.fireName), ("old_value_name", .text o.oldValueName),
      ("new_value_name", .text o.newValueName), ("result_name", .text o.resultName),
      ("value_type", .text o.valueType), ("accessor_call", .text o.accessorCall) ]

end JavaCompanion
