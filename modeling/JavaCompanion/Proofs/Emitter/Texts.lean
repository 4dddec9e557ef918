/-
The texts that operations are given.

What an operation writes is put together from texts of its own and from these.  A value that is no
text stops it, so the values that are joined without a fault are texts
(`eq_texts_of_mapM_asOperand`).
-/
import JavaCompanion.Emitter.Operation
import JavaCompanion.Proofs.Outcome

namespace JavaCompanion
namespace Emitter

/-- The texts that a value is or holds. -/
def textsIn : Value → List String
  | .text s => [s]
  | .list vs => vs.filterMap Value.text?
  | .object fields => fields.map (·.1)
  | _ => []

/-- The texts that an operation is given, its modifiers apart. -/
def Operation.texts : Operation → List String
  | .packageDeclaration name | .classExtends name | .constructorStart name _
  | .superCallStart name | .callStart name => [name]
  | .headerComment v | .annotate v | .argument v | .raw v => textsIn v
  | .classStart name provenance _ => [name, provenance]
  | .classImplements names => textsIn (.list names)
  | .interfaceStart name provenance _ extended => name :: provenance :: textsIn extended
  | .field type name _ value => type :: name :: value.toList
  | .methodStart type name _ | .declarationStart type name _ => [type, name]
  | .parameter annotations type name _ => type :: name :: textsIn annotations
  | .bodyStart thrown | .bodiless thrown => textsIn (.list thrown)
  | .declaration type name value _ => [type, name, value]
  | .assignment target value => [target, value]
  | .returnValue value => value.toList
  | .newInstance name arguments => name :: textsIn (.list arguments)
  | .loopStart type name iterable _ => [type, name, iterable]
  | _ => []

theorem eq_text_of_asOperand {v : Value} {s : String} (h : v.asOperand = .ok s) : v = .text s := by
  cases v with
  | text t =>
    cases h
    rfl
  | _ => exact nomatch h

theorem eq_texts_of_mapM_asOperand {vs : List Value} {texts : List String}
    (h : vs.mapM Value.asOperand = .ok texts) : vs = texts.map Value.text := by
  have hforall := forall₂_of_mapM h
  clear h
  induction hforall with
  | nil => rfl
  | cons hv _ ih => rw [List.map_cons, ← ih, eq_text_of_asOperand hv]

theorem mapM_asOperand_texts (texts : List String) :
    (texts.map Value.text).mapM Value.asOperand = .ok texts := by
  induction texts with
  | nil => rfl
  | cons t rest ih =>
    rw [List.map_cons, List.mapM_cons, ih]
    rfl

end Emitter
end JavaCompanion
