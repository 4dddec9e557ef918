/-
Calls by name that an emitter rejects.

A call stands for at most one operation, except for the declaration of a class without clauses,
which is its start and its end (`oneCall_emitterOperations`).  The end is legal where the start has
led, so a call is rejected through its first operation or not at all (`any_isMisuse_performAll`,
`perform_of_refused`).  What is said of operations thereby holds of calls (`rejected_call_harmless`).
-/
import JavaCompanion.Proofs.Emitter.Rejection
import JavaCompanion.Script.Emitter

namespace JavaCompanion
namespace Script

open Emitter

variable {e e' : Emitter} {ops : List Operation} {f : Fault}

/-! ## The operations of one call -/

/-- The operations that one call can stand for. -/
inductive OneCall : List Operation → Prop
  | nothing : OneCall []
  | one (op : Operation) : OneCall [op]
  | classDeclaration (name provenance : String) (modifiers : Value) :
      OneCall (classDeclaration name provenance modifiers)

theorem oneCall_emitterOperations (operation : String) (b : Fields) (more : List Value) :
    OneCall (emitterOperations operation b more) := by
  unfold emitterOperations
  split
  case h_4 =>
    unfold annotationIf
    split
    · exact .one _
    · exact .nothing
  case h_5 => exact .classDeclaration _ _ _
  all_goals first | exact .one _ | exact .nothing

theorem performAll_one (e : Emitter) (op : Operation) : e.performAll [op] = e.perform op := by
  rw [performAll]
  cases e.perform op with
  | mk e' fault => cases fault <;> rfl

/-- The header that a class declaration begins can be ended. -/
theorem isLegal_classEnd {name provenance : String} {modifiers : Value}
    (h : e.perform (.classStart name provenance modifiers) = (e', none)) :
    isLegal e'.frames .classEnd = true := by
  have hnext := next_of_perform h
  unfold next at hnext
  split at hnext
  · rw [← Option.some.inj hnext]
    rfl
  · exact nomatch hnext

theorem not_isRefusal_classEnd {fault : Option Fault} (hlegal : isLegal e.frames .classEnd = true)
    (h : e.perform .classEnd = (e', fault)) : fault.any isRefusal = false := by
  cases fault with
  | none => rfl
  | some f =>
    rw [Option.any_some]
    by_contra hrefusal
    exact (perform_of_legal hlegal h (Bool.not_eq_false _ ▸ hrefusal)).2 rfl

/-- A refused call ends as its first operation does. -/
theorem perform_of_refused (hops : OneCall ops) (h : e.performAll ops = (e', some f))
    (hf : isRefusal f = true) : ∃ op ∈ ops.head?, e.perform op = (e', some f) := by
  cases hops with
  | nothing => cases h
  | one op => exact ⟨op, rfl, performAll_one e op ▸ h⟩
  | classDeclaration name provenance modifiers =>
    refine ⟨_, rfl, ?_⟩
    rw [classDeclaration, performAll] at h
    split at h
    · next middle hstart =>
      rw [performAll_one] at h
      have hend := not_isRefusal_classEnd (isLegal_classEnd hstart) h
      rw [Option.any_some, hf] at hend
      exact Bool.noConfusion hend
    · exact h

/-- A call misuses the emitter where its first operation is not legal. -/
theorem any_isMisuse_performAll (hops : OneCall ops) :
    (e.performAll ops).2.any isMisuse = ops.head?.any fun op => !isLegal e.frames op := by
  cases hops with
  | nothing => rfl
  | one op => rw [performAll_one, any_isMisuse_perform]; rfl
  | classDeclaration name provenance modifiers =>
    rw [classDeclaration, List.head?_cons, Option.any_some, ← any_isMisuse_perform, performAll]
    split
    · next middle hstart =>
      rw [performAll_one, any_isMisuse_perform, isLegal_classEnd hstart, hstart]
      rfl
    · rfl

/-! ## Calls -/

theorem any_isMisuse_callWriting (h : LegalAlike e e') (operation : String) (a : Arguments) :
    (callWriting e' operation a).fault.any isMisuse
      = (callWriting e operation a).fault.any isMisuse := by
  unfold callWriting
  split
  · rfl
  · dsimp only
    split
    · rfl
    · next b more _ =>
      show (e'.performAll _).2.any isMisuse = (e.performAll _).2.any isMisuse
      have hops := oneCall_emitterOperations operation b more
      rw [any_isMisuse_performAll hops, any_isMisuse_performAll hops]
      simp only [h.isLegal_eq]

/-- Whether an answer is refused because the emitter was misused. -/
def refusesMisuse {α : Type} : Except Fault α → Bool
  | .error f => isMisuse f
  | .ok _ => false

theorem refusesMisuse_map {α β : Type} (g : α → β) (answer : Except Fault α) :
    refusesMisuse (answer.map g) = refusesMisuse answer := by
  cases answer <;> rfl

theorem refusesMisuse_ensureBalanced (e : Emitter) :
    refusesMisuse (orFault .emitter e.ensureBalanced) = !e.frames.isEmpty := by
  unfold ensureBalanced
  cases e.frames <;> rfl

theorem refusesMisuse_result (e : Emitter) :
    refusesMisuse e.result = (!e.ownsText || !e.frames.isEmpty) := by
  unfold result ensureBalanced
  cases e.ownsText with
  | false => rfl
  | true =>
    cases e.frames with
    | nil => cases hclosed : e.closed <;> rfl
    | cons f rest => rfl

theorem any_isMisuse_callAsking {a : Arguments} {answer answer' : Except Fault (Option Value)}
    (h : refusesMisuse answer' = refusesMisuse answer) :
    (callAsking e' a answer').fault.any isMisuse = (callAsking e a answer).fault.any isMisuse := by
  unfold callAsking
  cases a.bind [] with
  | error m => rfl
  | ok bound =>
    cases answer <;> cases answer' <;> exact h

theorem any_isMisuse_callEmitter (h : LegalAlike e e') (operation : String) (a : Arguments) :
    (callEmitter e' operation a).fault.any isMisuse
      = (callEmitter e operation a).fault.any isMisuse := by
  unfold callEmitter
  split
  · apply any_isMisuse_callAsking
    rw [refusesMisuse_map, refusesMisuse_map, refusesMisuse_result, refusesMisuse_result,
      h.ownsText_eq, h.isEmpty_eq]
  · apply any_isMisuse_callAsking
    rw [refusesMisuse_map, refusesMisuse_map, refusesMisuse_ensureBalanced,
      refusesMisuse_ensureBalanced, h.isEmpty_eq]
  · exact any_isMisuse_callAsking rfl
  · cases a.bind [] <;> rfl
  · rfl
  · rfl
  · exact any_isMisuse_callWriting h operation a

theorem unharmed_callWriting {operation : String} {a : Arguments}
    (h : (callWriting e operation a).fault = some f) (hf : isRefusal f = true) :
    Unharmed f e (callWriting e operation a).emitter := by
  unfold callWriting at h ⊢
  split at h
  · cases h
    exact nomatch hf
  · next ps isOpen _ =>
    dsimp only at h ⊢
    split at h
    · cases h
      exact nomatch hf
    · next b more hbound =>
      obtain ⟨op, -, hperform⟩ :=
        perform_of_refused (oneCall_emitterOperations operation b more) (Prod.ext rfl h) hf
      exact unharmed_of_refused hperform hf

theorem emitter_callAsking (e : Emitter) (a : Arguments)
    (answer : Except Fault (Option Value)) : (callAsking e a answer).emitter = e := by
  unfold callAsking
  split <;> rfl

theorem unharmed_callEmitter {operation : String} {a : Arguments}
    (h : (callEmitter e operation a).fault = some f) (hf : isRefusal f = true) :
    Unharmed f e (callEmitter e operation a).emitter := by
  unfold callEmitter at h ⊢
  split at h
  · rw [emitter_callAsking]
    exact .refl f e
  · rw [emitter_callAsking]
    exact .refl f e
  · rw [emitter_callAsking]
    exact .refl f e
  · split at h
    · exact nomatch h
    · cases h
      exact nomatch hf
  · exact nomatch h
  · exact nomatch h
  · exact unharmed_callWriting h hf

theorem openContexts_congr (h : SameConstructs e e') : e'.openContexts = e.openContexts := by
  rw [openContexts, openContexts, List.map_reverse, List.map_reverse]
  exact congrArg List.reverse (contexts_congr h.frames_eq)

/-- A call that the emitter rejects leaves it as it was if it misused it.  If it named a modifier
that nobody knows, the depth and the open contexts are as they were.  In either case a further call
misuses the emitter afterwards only if it would have done so before. -/
theorem rejected_call_harmless (e : Emitter) (operation : String) (a : Arguments) (f : Fault)
    (hfault : (callEmitter e operation a).fault = some f) (hf : isRefusal f = true) :
    let after := (callEmitter e operation a).emitter
    (isMisuse f = true → after = e)
      ∧ after.depth = e.depth
      ∧ after.openContexts = e.openContexts
      ∧ ∀ further b, (callEmitter after further b).fault.any isMisuse
        = (callEmitter e further b).fault.any isMisuse := by
  have hunharmed := unharmed_callEmitter hfault hf
  refine ⟨hunharmed.eq_of_misuse, hunharmed.depth_eq,
    openContexts_congr hunharmed.toSameConstructs, fun further b => ?_⟩
  exact any_isMisuse_callEmitter hunharmed.legal further b

/-- A method of a class, in the middle of its parameter list. -/
def declaredMethod : Emitter :=
  (performAll {} (classDeclaration "Account" "" (.list [])
    ++ [.methodStart "void" "pay" (.list []), .parameter (.list []) "int" "amount" (.list [])])).1

def loudParameter : Arguments :=
  { positional := [.list [], .text "String", .text "reason", .list [.text "loud"]] }

theorem loudParameter_harmless :
    (callEmitter declaredMethod "write_method_parameter" loudParameter).fault
        = some (.unknownModifier (.text "loud"))
      ∧ (callEmitter declaredMethod "write_method_parameter" loudParameter).emitter.openContexts
        = [.classBody, .parameters]
      ∧ (callEmitter (callEmitter declaredMethod "write_method_parameter" loudParameter).emitter
        "write_method_declaration_end" {}).fault.any isMisuse = false := by
  have hfault : (callEmitter declaredMethod "write_method_parameter" loudParameter).fault
      = some (.unknownModifier (.text "loud")) := rfl
  obtain ⟨-, -, hcontexts, hfurther⟩ := rejected_call_harmless _ _ _ _ hfault rfl
  refine ⟨hfault, hcontexts.trans (by decide +kernel), ?_⟩
  rw [hfurther]
  decide +kernel

end Script
end JavaCompanion
