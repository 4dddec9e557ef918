/-
The operations of a factory are legal.

They lead from the top level back to it and indent by four levels at most.  The fields, the
assignments and the creation methods each begin and end in the body of the class; parameters
and arguments only mark the construct that they stand in.
-/
import JavaCompanion.Factory.Source
import JavaCompanion.Proofs.Emitter.Legality

namespace JavaCompanion
namespace Factory

open Emitter Java

/-! ## Where the operations lead -/

theorem nextAll_constructorOperations (config : Config) (p : Plan) (name : String) :
    nextAll 4 [classBody name] (constructorOperations config p) = some [classBody name] := by
  let header : Frame := { context := .parameters, label := p.className.display, indent := 2 }
  let body : Frame := { context := .methodBody, label := p.className.display, indent := 1 }
  have hannotation : nextAll 4 [classBody name]
      (annotationIf config.injectMarker p.settings.inject) = some [classBody name] :=
    nextAll_ite rfl
  have hparameters : nextAll 4 [header, classBody name] (p.bound.map Binding.parameterOperation)
      = some [{ header with first := p.bound.isEmpty && true }, classBody name] :=
    nextAll_elements fun _ _ _ => rfl
  have hassignments : nextAll 4 [body, classBody name] (p.bound.map Binding.assignment)
      = some [body, classBody name] :=
    nextAll_map fun _ _ => rfl
  have hstart : nextAll 4 [classBody name] [.constructorStart p.className.display publicOnly]
      = some [header, classBody name] := rfl
  have hopen : nextAll 4 [{ header with first := p.bound.isEmpty && true }, classBody name]
      [.bodyStart []] = some [body, classBody name] := rfl
  have hbody := nextAll_append (nextAll_append (nextAll_append hannotation hstart) hparameters)
    hopen
  exact nextAll_append (nextAll_append hbody hassignments) rfl

theorem nextAll_creationOperations (p : Plan) (m : CreationMethod) (name : String) :
    nextAll 4 [classBody name] (creationOperations p m) = some [classBody name] := by
  let header : Frame := { context := .parameters, label := p.methodName, indent := 2 }
  have hparameters : nextAll 4 [header, classBody name] (m.parameters.map parameterOperation)
      = some [{ header with first := m.parameters.isEmpty && true }, classBody name] :=
    nextAll_elements fun _ _ _ => rfl
  exact nextAll_append (nextAll_append rfl hparameters) rfl

/-- A factory is written from the top level and leads back to it. -/
theorem nextAll_operations (config : Config) (p : Plan) :
    nextAll 4 [] (operations config p) = some [] := by
  let body := classBody p.className.display
  have hannotation : nextAll 4 [] (annotationIf config.singletonMarker p.settings.singleton)
      = some [] := nextAll_ite rfl
  have hclass : nextAll 4 [] (classDeclaration p.className.display p.provenance
      (keywords p.settings.modifiers)) = some [body] := rfl
  have hfields : nextAll 4 [body] (p.bound.map Binding.field) = some [body] :=
    nextAll_map fun _ _ => rfl
  have hconstructor := nextAll_constructorOperations config p p.className.display
  have hmethods : nextAll 4 [body] (p.creationMethods.flatMap (creationOperations p))
      = some [body] :=
    nextAll_flatMap fun m _ => nextAll_creationOperations p m p.className.display
  exact nextAll_append (nextAll_append (nextAll_append (nextAll_append (nextAll_append hannotation
    hclass) hfields) hconstructor) hmethods) rfl

/-! ## What the operations write -/

section Values

variable {P : Fault → Prop}

theorem stopsBy_constructorOperations {config : Config} {p : Plan}
    (hinject : ∀ m, config.injectMarker.asOperand = .error m → P (.mismatch m))
    (hbound : ∀ b ∈ p.bound, AnnotationsFailBy P b.parameter.annotations) :
    ∀ op ∈ constructorOperations config p, op.StopsBy P := by
  simp only [constructorOperations, List.forall_mem_append, List.forall_mem_singleton,
    List.forall_mem_map]
  refine ⟨⟨⟨⟨⟨stopsBy_annotationIf hinject, ?_⟩, ?_⟩, ?_⟩, ?_⟩, ?_⟩
  · exact Operation.stopsBy_of_keywords rfl trivial
  · exact fun b hb => Operation.stopsBy_of_keywords rfl (hbound b hb)
  · exact Operation.stopsBy_of_no_modifiers rfl nofun
  · exact fun b _ => Operation.stopsBy_of_no_modifiers rfl trivial
  · exact Operation.stopsBy_of_no_modifiers rfl trivial

theorem stopsBy_creationOperations {p : Plan} {m : CreationMethod}
    (hparameters : ∀ q ∈ m.parameters, AnnotationsFailBy P q.annotations) :
    ∀ op ∈ creationOperations p m, op.StopsBy P := by
  simp only [creationOperations, List.forall_mem_append, List.forall_mem_cons,
    List.forall_mem_map]
  refine ⟨⟨⟨?_, by simp⟩, ?_⟩, ?_, ?_, ?_, ?_, ?_, by simp⟩
  · exact Operation.stopsBy_of_keywords rfl trivial
  · exact fun q hq => Operation.stopsBy_of_keywords rfl (hparameters q hq)
  · exact Operation.stopsBy_of_no_modifiers rfl (textsFailBy_map m.thrown)
  · exact Operation.stopsBy_of_no_modifiers rfl trivial
  · exact Operation.stopsBy_of_no_modifiers rfl (textsFailBy_map m.arguments)
  · exact Operation.stopsBy_of_no_modifiers rfl trivial
  · exact Operation.stopsBy_of_no_modifiers rfl trivial

/-- The markers and the annotations of parameters are all that a factory writes without
knowing that it is a text. -/
theorem stopsBy_operations {config : Config} {p : Plan}
    (hinject : ∀ m, config.injectMarker.asOperand = .error m → P (.mismatch m))
    (hsingleton : ∀ m, config.singletonMarker.asOperand = .error m → P (.mismatch m))
    (hbound : ∀ b ∈ p.bound, AnnotationsFailBy P b.parameter.annotations)
    (hmethods : ∀ m ∈ p.creationMethods, ∀ q ∈ m.parameters, AnnotationsFailBy P q.annotations) :
    ∀ op ∈ operations config p, op.StopsBy P := by
  simp only [operations, classDeclaration, List.forall_mem_append, List.forall_mem_cons,
    List.forall_mem_map, List.forall_mem_flatMap]
  refine ⟨⟨⟨⟨⟨stopsBy_annotationIf hsingleton, ?_, ?_, by simp⟩, ?_⟩, ?_⟩, ?_⟩, ?_, by simp⟩
  · exact Operation.stopsBy_of_keywords rfl trivial
  · exact Operation.stopsBy_of_no_modifiers rfl trivial
  · exact fun b _ => Operation.stopsBy_of_keywords rfl trivial
  · exact stopsBy_constructorOperations hinject hbound
  · exact fun m hm => stopsBy_creationOperations (hmethods m hm)
  · exact Operation.stopsBy_of_no_modifiers rfl trivial

end Values

end Factory
end JavaCompanion
