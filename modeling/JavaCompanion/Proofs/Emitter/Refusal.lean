/-
What an operation leaves when it is refused.

A call is refused where it misuses the emitter, and where it names a modifier that nobody
knows.  Both are noticed before the operation moves between constructs.  So a refusal takes
from the open constructs at most what has been marked about the innermost one, and it leaves
the depth (`perform_refused`).
-/
import JavaCompanion.Proofs.Emitter.Transition

namespace JavaCompanion
namespace Emitter

/-- Whether a call was refused, other than stopped by its values or by the layout. -/
def isRefusal : Fault → Bool
  | .emitter _ | .unknownModifier _ => true
  | _ => false

/-- A frame without what has been marked about its construct. -/
def Frame.unmarked (f : Frame) : Frame :=
  { f with first := true, extended := false, implemented := false }

/-- Whether the action moves between constructs or lines up anew. -/
def Action.moves : Action → Bool
  | .push _ | .pop | .deepen _ | .shallow _ => true
  | _ => false

/-- Whether the action can end in a refusal. -/
def Action.refuses : Action → Bool
  | .modifiers _ | .fail _ => true
  | _ => false

theorem Frame.unmarked_mark (f : Frame) (m : Mark) : (f.mark m).unmarked = f.unmarked := by
  cases m <;> rfl

theorem map_unmarked_markTop (m : Mark) (frames : List Frame) :
    (markTop m frames).map Frame.unmarked = frames.map Frame.unmarked := by
  cases frames with
  | nil => rfl
  | cons f rest => rw [markTop, List.map_cons, List.map_cons, Frame.unmarked_mark]

/-- Whether two emitters have the same constructs open, up to their marks, at one depth. -/
structure SameConstructs (e e' : Emitter) : Prop where
  frames_eq : e'.frames.map Frame.unmarked = e.frames.map Frame.unmarked
  depth_eq : e'.depth = e.depth

theorem SameConstructs.refl (e : Emitter) : SameConstructs e e := ⟨rfl, rfl⟩

theorem SameConstructs.trans {e e' e'' : Emitter} (h : SameConstructs e e')
    (h' : SameConstructs e' e'') : SameConstructs e e'' :=
  ⟨h'.frames_eq.trans h.frames_eq, h'.depth_eq.trans h.depth_eq⟩

theorem sameConstructs_of_apply {e e' : Emitter} {a : Action} (ha : a.moves = false)
    (h : e.apply a = .ok e') : SameConstructs e e' := by
  obtain ⟨hframes, hdepth⟩ := Skeleton.mk.inj (apply_skeleton h).1
  cases a with
  | mark m => exact ⟨by rw [hframes]; exact map_unmarked_markTop m e.frames, hdepth⟩
  | push _ | pop | deepen _ | shallow _ => exact nomatch ha
  | _ => exact ⟨congrArg (List.map Frame.unmarked) hframes, hdepth⟩

/-! ## Which actions refuse -/

theorem not_isRefusal_append {e : Emitter} {s : String} {f : Fault} (h : e.append s = .error f) :
    isRefusal f = false := by
  unfold append at h
  split at h
  · cases h
    rfl
  · exact nomatch h

theorem not_isRefusal_bind {e : Emitter} {x : Except Fault String} {f : Fault}
    (hx : ∀ f, x = .error f → isRefusal f = false) (h : (do e.append (← x)) = .error f) :
    isRefusal f = false := by
  rcases bind_eq_error.mp h with h | ⟨s, -, h⟩
  · exact hx f h
  · exact not_isRefusal_append h

theorem not_isRefusal_shaped {α : Type} {x : Except Mismatch α} {f : Fault}
    (h : shaped x = .error f) : isRefusal f = false := by
  obtain ⟨m, -, rfl⟩ := shaped_eq_error.mp h
  rfl

theorem not_isRefusal_joinedText {separator : String} {v : Value} {f : Fault}
    (h : joinedText separator v = .error f) : isRefusal f = false := by
  rcases bind_eq_error.mp h with h | ⟨texts, -, h⟩
  · exact not_isRefusal_shaped h
  · exact nomatch h

theorem not_isRefusal_indentation {style : Style} {depth : Nat} {f : Fault}
    (h : indentation style depth = .error f) : isRefusal f = false := by
  unfold indentation at h
  split at h
  · unfold blanks at h
    split at h
    · cases h
      rfl
    · split at h
      · cases h
        rfl
      · exact nomatch h
  · cases h
    rfl

/-- An action that cannot refuse fails for other reasons, if it fails. -/
theorem not_isRefusal_apply {e : Emitter} {a : Action} {f : Fault} (ha : a.refuses = false)
    (h : e.apply a = .error f) : isRefusal f = false := by
  cases a with
  | modifiers _ | fail _ => cases ha
  | write s => exact not_isRefusal_append h
  | writeValue v => exact not_isRefusal_bind (fun _ => not_isRefusal_shaped) h
  | lineEnd => exact not_isRefusal_bind (fun _ => not_isRefusal_shaped) h
  | joined separator v => exact not_isRefusal_bind (fun _ => not_isRefusal_joinedText) h
  | indent =>
    simp only [apply] at h
    split at h
    · cases h
    · exact not_isRefusal_bind (fun _ => not_isRefusal_indentation) h
  | push _ | pop | mark _ | deepen _ | shallow _ => cases h

/-! ## Runs that are refused -/

/-- Whether nothing refuses once an action has moved between constructs. -/
def settled : List Action → Bool
  | [] => true
  | a :: rest => if a.moves then rest.all (!·.refuses) else settled rest

theorem not_isRefusal_run {as : List Action} {e e' : Emitter} {f : Fault}
    (has : as.all (!·.refuses) = true) (h : e.run as = (e', some f)) : isRefusal f = false := by
  induction as generalizing e with
  | nil => exact nomatch h
  | cons a rest ih =>
    rw [List.all_cons, Bool.and_eq_true, Bool.not_eq_true'] at has
    rw [run] at h
    cases happly : e.apply a with
    | error g =>
      rw [happly] at h
      cases h
      exact not_isRefusal_apply has.1 happly
    | ok middle =>
      rw [happly] at h
      exact ih has.2 h

theorem run_refused {as : List Action} {e e' : Emitter} {f : Fault} (has : settled as = true)
    (h : e.run as = (e', some f)) (hf : isRefusal f = true) : SameConstructs e e' := by
  induction as generalizing e with
  | nil => cases h
  | cons a rest ih =>
    rw [run] at h
    cases happly : e.apply a with
    | error g =>
      rw [happly] at h
      cases h
      exact .refl _
    | ok middle =>
      rw [happly] at h
      unfold settled at has
      split at has
      · rw [not_isRefusal_run has h] at hf
        cases hf
      · next hmoves =>
        exact (sameConstructs_of_apply (Bool.eq_false_iff.mpr hmoves) happly).trans (ih has h)

/-! ## Operations that are refused -/

theorem settled_append {as bs : List Action} (has : ∀ a ∈ as, a.moves = false) :
    settled (as ++ bs) = settled bs := by
  induction as with
  | nil => rfl
  | cons a rest ih =>
    rw [List.cons_append, settled, has a List.mem_cons_self, if_neg Bool.false_ne_true]
    exact ih fun b hb => has b (List.mem_cons_of_mem a hb)

theorem common_stays : Common fun a => a.moves = false := ⟨fun _ => rfl, rfl, rfl⟩

theorem settled_actions (style : Style) (frame : Frame) (op : Operation) :
    settled (op.actions style frame) = true := by
  cases op with
  | packageDeclaration _ | argument _ | callEnd =>
    simp only [Operation.actions]
    split <;> rfl
  | headerComment text =>
    have hlines : ∀ a ∈ Operation.commentLines text, a.moves = false :=
      forall_commentLines common_stays fun _ _ => rfl
    simp only [Operation.actions, List.append_assoc]
    rw [settled_append (by decide), settled_append hlines]
    rfl
  | classStart name provenance ms =>
    have hgenerated := forall_generatedLine common_stays style.generatedMarker provenance
    simp only [Operation.actions]
    rw [settled_append hgenerated]
    rfl
  | interfaceStart name provenance ms extended =>
    have hgenerated := forall_generatedLine common_stays style.generatedMarker provenance
    have hextended : ∀ a ∈ Operation.extendsActions extended, a.moves = false :=
      forall_extendsActions common_stays (fun _ _ => rfl) (fun _ _ => rfl)
    simp only [Operation.actions, List.append_assoc]
    rw [settled_append hgenerated]
    show settled (Operation.extendsActions extended ++ _) = true
    rw [settled_append hextended]
    rfl
  | classExtends _ | classImplements _ =>
    simp only [Operation.actions]
    split
    · rfl
    · split <;> rfl
  | parameter annotations type name ms =>
    have hline : ∀ a ∈ Operation.parameterLine annotations ms (type ++ " " ++ name),
        a.moves = false := forall_parameterLine common_stays (fun _ _ => rfl) rfl
    simp only [Operation.actions, List.append_assoc]
    rw [settled_append (by split <;> simp [Action.moves])]
    show settled (Operation.parameterLine annotations ms (type ++ " " ++ name)) = true
    rw [← List.append_nil (Operation.parameterLine ..), settled_append hline]
    rfl
  | bodyStart thrown =>
    have hthrows : ∀ a ∈ Operation.throwsActions thrown, a.moves = false :=
      forall_throwsActions common_stays fun _ _ => rfl
    simp only [Operation.actions]
    split
    · rfl
    · rw [List.append_assoc, settled_append (by simp [Action.moves]), settled_append hthrows]
      rfl
  | bodiless thrown =>
    have hthrows : ∀ a ∈ Operation.throwsActions thrown, a.moves = false :=
      forall_throwsActions common_stays fun _ _ => rfl
    simp only [Operation.actions]
    rw [List.append_assoc, settled_append (by simp [Action.moves]), settled_append hthrows]
    rfl
  | newInstance name arguments =>
    have hcommon : Common fun a => a.refuses = false := ⟨fun _ => rfl, rfl, rfl⟩
    have hlines : ∀ a ∈ Operation.argumentLines arguments, a.refuses = false :=
      forall_argumentLines hcommon fun _ _ => rfl
    simp only [Operation.actions]
    split
    · rfl
    · simpa [settled, Action.moves, Action.refuses] using hlines
  | superCallStart _ | callStart _ =>
    simp only [Operation.actions, Operation.callActions]
    split <;> rfl
  | _ => rfl

/-- A refused operation leaves the constructs that were open, up to their marks. -/
theorem perform_refused {e e' : Emitter} {op : Operation} {f : Fault}
    (h : e.perform op = (e', some f)) (hf : isRefusal f = true) : SameConstructs e e' := by
  unfold perform at h
  split at h
  · exact run_refused (settled_actions _ _ op) h hf
  · cases h
    exact .refl e

end Emitter
end JavaCompanion
