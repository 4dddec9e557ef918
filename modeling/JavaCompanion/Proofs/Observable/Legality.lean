/-
The operations of an observable class are legal.

The head leads from the top level into the body of the class, and everything after the
fields leads back out of it, over three levels of indentation at most.  A wrapper stays in
its method, whichever of its parts the settings leave out.
-/
import JavaCompanion.Observable.Source
import JavaCompanion.Proofs.Emitter.Legality

namespace JavaCompanion
namespace Observable

open Emitter Java

/-! ## Where the operations lead -/

def methodHeader (name : String) : Frame := { context := .parameters, label := name, indent := 2 }

def methodBody (name : String) : Frame := { context := .methodBody, label := name, indent := 1 }

theorem nextAll_headOperations (p : Plan) :
    nextAll 4 [] (headOperations p) = some [classBody p.className.display] := by
  have hfields : nextAll 4 [classBody p.className.display] (p.observed.map Observed.field)
      = some [classBody p.className.display] :=
    nextAll_map fun _ _ => rfl
  exact nextAll_append rfl hfields

section Body

variable {name : String}

theorem nextAll_constructorOperations (p : Plan) (listType : String) (c : Constructor) :
    nextAll 4 [classBody name] (constructorOperations p listType c) = some [classBody name] := by
  let header := methodHeader p.className.display
  let body := methodBody p.className.display
  let call : Frame := { context := .arguments, label := "super" }
  have hparameters : nextAll 4 [header, classBody name] (c.parameters.map parameterOperation)
      = some [{ header with first := c.parameters.isEmpty && true }, classBody name] :=
    nextAll_elements fun _ _ _ => rfl
  have harguments : nextAll 4 [call, body, classBody name] (passOn c.parameters)
      = some [{ call with first := c.parameters.isEmpty && true }, body, classBody name] :=
    nextAll_elements fun _ _ _ => rfl
  have hassignments : nextAll 4 [body, classBody name] (p.observed.map fun o =>
      fieldAssignment o.fieldName ("new " ++ listType ++ "<>()")) = some [body, classBody name] :=
    nextAll_map fun _ _ => rfl
  have hstart : nextAll 4 [classBody name] [.constructorStart p.className.display publicOnly]
      = some [header, classBody name] := rfl
  have hsuper : nextAll 4 [{ header with first := c.parameters.isEmpty && true }, classBody name]
      [.bodyStart (c.thrown.map .text), .superConstructorStart]
        = some [call, body, classBody name] := rfl
  have hend : nextAll 4 [{ call with first := c.parameters.isEmpty && true }, body,
      classBody name] [.callEnd] = some [body, classBody name] := rfl
  have hcall := nextAll_append (nextAll_append (nextAll_append (nextAll_append hstart hparameters)
    hsuper) harguments) hend
  exact nextAll_append (nextAll_append hcall hassignments) rfl

/-- The call of the overridden method stays in the body, with and without a result. -/
theorem nextAll_superCall (m : Method) (resultName label : String) :
    nextAll 4 [methodBody label, classBody name] (superCall m resultName)
      = some [methodBody label, classBody name] := by
  let call : Frame := { context := .arguments, label := "super." ++ m.name.display }
  unfold superCall
  split
  · have harguments : nextAll 4 [call, methodBody label, classBody name] (passOn m.parameters)
        = some [{ call with first := m.parameters.isEmpty && true }, methodBody label,
            classBody name] :=
      nextAll_elements fun _ _ _ => rfl
    exact nextAll_append (nextAll_append rfl harguments) rfl
  · let statement : Frame := { context := .statement, label := resultName, first := false }
    let inner : Frame := { call with inline := true }
    have harguments : nextAll 4 [inner, statement, methodBody label, classBody name]
          (passOn m.parameters)
        = some [{ inner with first := m.parameters.isEmpty && true }, statement,
            methodBody label, classBody name] :=
      nextAll_elements fun _ _ _ => rfl
    exact nextAll_append (nextAll_append rfl harguments) rfl

theorem nextAll_fireCall (oldValue : Bool) (o : Observed) (label : String) :
    nextAll 4 [methodBody label, classBody name] (fireCall oldValue o)
      = some [methodBody label, classBody name] := by
  cases oldValue <;> rfl

theorem nextAll_wrapperOperations (oldValue : Bool) (first : Observed) (others : List Observed) :
    nextAll 4 [classBody name] (wrapperOperations oldValue first others)
      = some [classBody name] := by
  let m := first.mutator.method
  let header := methodHeader m.name.display
  let body := [methodBody m.name.display, classBody name]
  have hstart : nextAll 4 [classBody name]
      [.methodStart m.returnType m.name.display (wrapperModifiers m)]
        = some [header, classBody name] := rfl
  have hparameters : nextAll 4 [header, classBody name] (m.parameters.map parameterOperation)
      = some [{ header with first := m.parameters.isEmpty && true }, classBody name] :=
    nextAll_elements fun _ _ _ => rfl
  have holds : nextAll 4 body (if oldValue then
      (first :: others).map fun o => readValue o o.oldValueName else []) = some body :=
    nextAll_ite (nextAll_map fun _ _ => rfl)
  have hcall : nextAll 4 body (superCall m first.resultName) = some body :=
    nextAll_superCall m first.resultName m.name.display
  have hnews : nextAll 4 body ((first :: others).map fun o => readValue o o.newValueName)
      = some body := nextAll_map fun _ _ => rfl
  have hfires : nextAll 4 body ((first :: others).flatMap (fireCall oldValue)) = some body :=
    nextAll_flatMap fun o _ => nextAll_fireCall oldValue o m.name.display
  have hreturn : nextAll 4 body
      (if m.isVoid then [] else [.returnValue (some first.resultName)]) = some body := by
    cases m.isVoid <;> rfl
  have hopen : nextAll 4 [{ header with first := m.parameters.isEmpty && true }, classBody name]
      [.bodyStart (m.thrown.map .text)] = some body := rfl
  have hbody := nextAll_append (nextAll_append hstart hparameters) hopen
  exact nextAll_append (nextAll_append (nextAll_append (nextAll_append (nextAll_append
    (nextAll_append hbody holds) hcall) hnews) hfires) hreturn) rfl

theorem nextAll_listenerOperations (oldValue : Bool) (o : Observed) :
    nextAll 4 [classBody name] (listenerOperations oldValue o) = some [classBody name] := by
  have hmanagement : ∀ action, nextAll 4 [classBody name] (managementOperations o action)
      = some [classBody name] := fun _ => rfl
  have hfire : nextAll 4 [classBody name] (fireOperations oldValue o) = some [classBody name] := by
    cases oldValue <;> rfl
  exact nextAll_append (nextAll_append (hmanagement "add") (hmanagement "remove")) hfire

theorem nextAll_interfaceOperations (p : Plan) (o : Observed) :
    nextAll 4 [classBody name] (interfaceOperations p o) = some [classBody name] := by
  unfold interfaceOperations
  cases p.settings.oldValue <;> rfl

theorem nextAll_bodyOperations (p : Plan) (listType : String) :
    nextAll 4 [classBody name] (bodyOperations p listType) = some [] := by
  let body := [classBody name]
  have hconstructors : nextAll 4 body ((constructorsOrImplicit p.constructors).flatMap
      (constructorOperations p listType)) = some body :=
    nextAll_flatMap fun c _ => nextAll_constructorOperations p listType c
  have hwrappers : nextAll 4 body (p.wrapped.flatMap fun w =>
      wrapperOperations p.settings.oldValue w.1 w.2) = some body :=
    nextAll_flatMap fun w _ => nextAll_wrapperOperations p.settings.oldValue w.1 w.2
  have hlisteners : nextAll 4 body (p.observed.flatMap
      (listenerOperations p.settings.oldValue)) = some body :=
    nextAll_flatMap fun o _ => nextAll_listenerOperations p.settings.oldValue o
  have hinterfaces : nextAll 4 body (p.observed.flatMap (interfaceOperations p)) = some body :=
    nextAll_flatMap fun o _ => nextAll_interfaceOperations p o
  exact nextAll_append (nextAll_append (nextAll_append (nextAll_append hconstructors hwrappers)
    hlisteners) hinterfaces) rfl

end Body

/-! ## What the operations write -/

section Values

variable {P : Fault → Prop}

theorem stopsBy_passOn (ps : List Parameter) : ∀ op ∈ passOn ps, op.StopsBy P := by
  simp only [passOn, List.forall_mem_map]
  exact fun q _ => Operation.stopsBy_of_no_modifiers rfl nofun

theorem stopsBy_headOperations (p : Plan) : ∀ op ∈ headOperations p, op.StopsBy P := by
  simp only [headOperations, List.forall_mem_append, List.forall_mem_cons, List.forall_mem_map]
  refine ⟨⟨?_, ?_, ?_, by simp⟩, ?_⟩
  · exact Operation.stopsBy_of_keywords rfl trivial
  · exact Operation.stopsBy_of_no_modifiers rfl trivial
  · exact Operation.stopsBy_of_no_modifiers rfl trivial
  · exact fun o _ => Operation.stopsBy_of_keywords rfl trivial

theorem stopsBy_constructorOperations {p : Plan} {listType : String} {c : Constructor}
    (h : ∀ q ∈ c.parameters, AnnotationsFailBy P q.annotations) :
    ∀ op ∈ constructorOperations p listType c, op.StopsBy P := by
  simp only [constructorOperations, List.forall_mem_append, List.forall_mem_cons,
    List.forall_mem_map]
  refine ⟨⟨⟨⟨⟨⟨⟨?_, by simp⟩, ?_⟩, ?_, ?_, by simp⟩, stopsBy_passOn _⟩, ?_, by simp⟩, ?_⟩, ?_,
    by simp⟩
  · exact Operation.stopsBy_of_keywords rfl trivial
  · exact fun q hq => Operation.stopsBy_of_keywords rfl (h q hq)
  · exact Operation.stopsBy_of_no_modifiers rfl (textsFailBy_map c.thrown)
  · exact Operation.stopsBy_of_no_modifiers rfl trivial
  · exact Operation.stopsBy_of_no_modifiers rfl trivial
  · exact fun o _ => Operation.stopsBy_of_no_modifiers rfl trivial
  · exact Operation.stopsBy_of_no_modifiers rfl trivial

theorem stopsBy_superCall (m : Method) (resultName : String) :
    ∀ op ∈ superCall m resultName, op.StopsBy P := by
  have hstart : (Operation.superCallStart m.name.display).StopsBy P :=
    Operation.stopsBy_of_no_modifiers rfl trivial
  have hend : Operation.callEnd.StopsBy P := Operation.stopsBy_of_no_modifiers rfl trivial
  have hdeclaration : (Operation.declarationStart m.returnType resultName
      localModifiers).StopsBy P := Operation.stopsBy_of_keywords rfl trivial
  have hstatement : Operation.statementEnd.StopsBy P :=
    Operation.stopsBy_of_no_modifiers rfl trivial
  unfold superCall
  split
  · simp only [List.forall_mem_append, List.forall_mem_cons]
    exact ⟨⟨⟨hstart, by simp⟩, stopsBy_passOn _⟩, hend, by simp⟩
  · simp only [List.forall_mem_append, List.forall_mem_cons]
    exact ⟨⟨⟨hdeclaration, hstart, by simp⟩, stopsBy_passOn _⟩, hend, hstatement, by simp⟩

theorem stopsBy_fireCall (oldValue : Bool) (o : Observed) :
    ∀ op ∈ fireCall oldValue o, op.StopsBy P := by
  have hargument : ∀ s, (Operation.argument (.text s)).StopsBy P :=
    fun s => Operation.stopsBy_of_no_modifiers rfl nofun
  simp only [fireCall, List.forall_mem_append, List.forall_mem_cons]
  refine ⟨⟨⟨?_, by simp⟩, ?_⟩, hargument _, ?_, by simp⟩
  · exact Operation.stopsBy_of_no_modifiers rfl trivial
  · split <;> simp [hargument]
  · exact Operation.stopsBy_of_no_modifiers rfl trivial

theorem stopsBy_wrapperOperations {oldValue : Bool} {first : Observed} {others : List Observed}
    (h : ∀ q ∈ first.mutator.method.parameters, AnnotationsFailBy P q.annotations) :
    ∀ op ∈ wrapperOperations oldValue first others, op.StopsBy P := by
  have hread : ∀ o name, (readValue o name).StopsBy P :=
    fun _ _ => Operation.stopsBy_of_keywords rfl trivial
  simp only [wrapperOperations, List.forall_mem_append, List.forall_mem_singleton,
    List.forall_mem_map, List.forall_mem_flatMap]
  refine ⟨⟨⟨⟨⟨⟨⟨⟨?_, ?_⟩, ?_⟩, ?_⟩, stopsBy_superCall _ _⟩, fun o _ => hread o _⟩,
    fun o _ => stopsBy_fireCall oldValue o⟩, ?_⟩, ?_⟩
  · exact Operation.stopsBy_of_keywords rfl trivial
  · exact fun q hq => Operation.stopsBy_of_keywords rfl (h q hq)
  · exact Operation.stopsBy_of_no_modifiers rfl (textsFailBy_map _)
  · split
    · exact List.forall_mem_map.mpr fun o _ => hread o _
    · simp
  · split
    · simp
    · exact List.forall_mem_singleton.mpr (Operation.stopsBy_of_no_modifiers rfl trivial)
  · exact Operation.stopsBy_of_no_modifiers rfl trivial

theorem stopsBy_changeParameters (oldValue : Bool) (o : Observed) (ms : List Modifier) :
    ∀ op ∈ changeParameters oldValue o (keywords ms), op.StopsBy P := by
  have hparameter : ∀ type name, (Operation.parameter noAnnotations type name
      (keywords ms)).StopsBy P := fun _ _ => Operation.stopsBy_of_keywords rfl nofun
  unfold changeParameters
  split <;> simp [hparameter]

theorem stopsBy_listenerOperations (oldValue : Bool) (o : Observed) :
    ∀ op ∈ listenerOperations oldValue o, op.StopsBy P := by
  have hmethod : ∀ name ms, (Operation.methodStart "void" name (keywords ms)).StopsBy P :=
    fun _ _ => Operation.stopsBy_of_keywords rfl trivial
  have hparameter : (Operation.parameter noAnnotations o.listenerType "listener"
      finalOnly).StopsBy P := Operation.stopsBy_of_keywords rfl nofun
  have hbody : (Operation.bodyStart []).StopsBy P :=
    Operation.stopsBy_of_no_modifiers rfl nofun
  have hcall : ∀ target, (Operation.callStart target).StopsBy P :=
    fun _ => Operation.stopsBy_of_no_modifiers rfl trivial
  have hargument : ∀ s, (Operation.argument (.text s)).StopsBy P :=
    fun _ => Operation.stopsBy_of_no_modifiers rfl nofun
  have hcallEnd : Operation.callEnd.StopsBy P := Operation.stopsBy_of_no_modifiers rfl trivial
  have hblockEnd : Operation.blockEnd.StopsBy P := Operation.stopsBy_of_no_modifiers rfl trivial
  have hloop : (Operation.loopStart o.listenerType "listener" o.fieldName
      localModifiers).StopsBy P := Operation.stopsBy_of_keywords rfl trivial
  have hloopEnd : Operation.loopEnd.StopsBy P := Operation.stopsBy_of_no_modifiers rfl trivial
  have hmanagement : ∀ action, ∀ op ∈ managementOperations o action, op.StopsBy P := by
    intro action
    simp only [managementOperations, List.forall_mem_cons]
    exact ⟨hmethod _ _, hparameter, hbody, hcall _, hargument _, hcallEnd, hblockEnd, by simp⟩
  simp only [listenerOperations, fireOperations, List.forall_mem_append, List.forall_mem_cons]
  refine ⟨⟨hmanagement "add", hmanagement "remove"⟩,
    ⟨⟨⟨⟨hmethod _ _, by simp⟩, stopsBy_changeParameters _ _ _⟩, hbody, hloop, hcall _, by simp⟩,
      ?_⟩, hargument _, hcallEnd, hloopEnd, hblockEnd, by simp⟩
  split <;> simp [hargument]

theorem stopsBy_interfaceOperations (p : Plan) (o : Observed) :
    ∀ op ∈ interfaceOperations p o, op.StopsBy P := by
  simp only [interfaceOperations, List.forall_mem_append, List.forall_mem_cons]
  refine ⟨⟨⟨?_, ?_, by simp⟩, stopsBy_changeParameters p.settings.oldValue o []⟩, ?_, ?_, by simp⟩
  · exact Operation.stopsBy_of_keywords rfl ⟨nofun, fun names f hf hnames => by
      cases hnames
      exact nomatch hf⟩
  · exact Operation.stopsBy_of_keywords (show _ = [keywords []] from rfl) trivial
  · exact Operation.stopsBy_of_no_modifiers rfl nofun
  · exact Operation.stopsBy_of_no_modifiers rfl trivial

theorem mem_observed_of_mem_wrapped {p : Plan} {w : Observed × List Observed}
    (h : w ∈ p.wrapped) : w.1 ∈ p.observed := by
  rw [← Generation.flatMap_groups (fun a b => sameMethod a.mutator b.mutator) p.observed]
  exact List.mem_flatMap.mpr ⟨w, h, List.mem_cons_self⟩

/-- The annotations of parameters are all that the class writes without knowing that it is a
text. -/
theorem stopsBy_bodyOperations {p : Plan} {listType : String}
    (hconstructors : ∀ c ∈ p.constructors, ∀ q ∈ c.parameters,
      AnnotationsFailBy P q.annotations)
    (hmethods : ∀ o ∈ p.observed, ∀ q ∈ o.mutator.method.parameters,
      AnnotationsFailBy P q.annotations) :
    ∀ op ∈ bodyOperations p listType, op.StopsBy P := by
  simp only [bodyOperations, List.forall_mem_append, List.forall_mem_flatMap,
    List.forall_mem_singleton]
  refine ⟨⟨⟨⟨fun c hc => stopsBy_constructorOperations fun q hq => ?_, fun w hw => ?_⟩,
    fun o _ => stopsBy_listenerOperations _ o⟩, fun o _ => stopsBy_interfaceOperations p o⟩, ?_⟩
  · unfold constructorsOrImplicit at hc
    split at hc
    · rw [List.mem_singleton.mp hc] at hq
      exact nomatch hq
    · exact hconstructors c hc q hq
  · exact stopsBy_wrapperOperations (hmethods w.1 (mem_observed_of_mem_wrapped hw))
  · exact Operation.stopsBy_of_no_modifiers rfl trivial

end Values

end Observable
end JavaCompanion
