/-
Calls that are rejected.

An operation misuses the emitter exactly where it is not legal (`any_isMisuse_perform`), and then
it has done nothing (`eq_of_misuse`).  A modifier that nobody knows is noticed later, when something
may have been written and the innermost construct may have been marked.  But an operation that is
given modifiers stands neither in the header of a class nor in a statement, where the marks decide
what is legal.  So whatever was legal before a rejected operation is legal after it
(`unharmed_of_refused`).
-/
import JavaCompanion.Proofs.Emitter.Legality
import JavaCompanion.Proofs.Emitter.Nesting

namespace JavaCompanion
namespace Emitter

variable {e e' : Emitter} {op : Operation} {f : Fault}

/-- Whether an operation is legal where these frames are open. -/
def isLegal (frames : List Frame) (op : Operation) : Bool :=
  op.places.contains (placeOf frames) && op.admits (innermost frames)

/-- Whether the emitter was misused. -/
def isMisuse : Fault → Bool
  | .emitter _ => true
  | _ => false

/-! ## What a run leaves alone, and what stops it -/

theorem continues_run (e : Emitter) (as : List Action) : Continues e (e.run as).1 := by
  induction as generalizing e with
  | nil => exact .refl e
  | cons a rest ih =>
    rw [run]
    cases happly : e.apply a with
    | error f => exact .refl e
    | ok middle => exact (apply_skeleton happly).2.trans (ih middle)

theorem continues_perform (e : Emitter) (op : Operation) : Continues e (e.perform op).1 := by
  unfold perform
  split
  · exact continues_run e _
  · exact .refl e

/-- A run ends with the fault of one of its actions. -/
theorem exists_of_run_error {as : List Action} (h : e.run as = (e', some f)) :
    ∃ a ∈ as, ∃ middle : Emitter, middle.apply a = .error f := by
  induction as generalizing e with
  | nil => cases h
  | cons a rest ih =>
    rw [run] at h
    cases happly : e.apply a with
    | error g =>
      rw [happly] at h
      cases h
      exact ⟨a, List.mem_cons_self, _, happly⟩
    | ok middle =>
      rw [happly] at h
      obtain ⟨b, hb, hfails⟩ := ih h
      exact ⟨b, List.mem_cons_of_mem a hb, hfails⟩

/-- The action is refused for nothing but a modifier that nobody knows, and for that only if the
operation is given modifiers. -/
def Action.RefusesOnly (op : Operation) (a : Action) : Prop :=
  ∀ (e : Emitter) (f : Fault), e.apply a = .error f → isRefusal f = true →
    (∃ spelling, f = .unknownModifier spelling) ∧ op.modifierLists ≠ []

theorem refusesOnly_of_not_refuses {a : Action} (ha : a.refuses = false) : a.RefusesOnly op := by
  intro e f h hf
  rw [not_isRefusal_apply ha h] at hf
  exact absurd hf Bool.false_ne_true

theorem refusesOnly_fail (h : isRefusal f = false) : (Action.fail f).RefusesOnly op := by
  intro e g hg hrefusal
  cases hg
  rw [h] at hrefusal
  exact absurd hrefusal Bool.false_ne_true

theorem refusesOnly_modifiers {v : Value} (hv : v ∈ op.modifierLists) :
    (Action.modifiers v).RefusesOnly op := by
  intro e f h hf
  refine ⟨?_, List.ne_nil_of_mem hv⟩
  rcases bind_eq_error.mp h with htext | ⟨s, -, hwrite⟩
  · unfold modifierText at htext
    split at htext
    · cases htext
    · next g hg =>
      cases htext
      cases g with
      | mismatch m => exact absurd hf Bool.false_ne_true
      | unknown spelling => exact ⟨spelling, rfl⟩
  · split at hwrite
    · cases hwrite
    · rw [not_isRefusal_append hwrite] at hf
      exact absurd hf Bool.false_ne_true

theorem not_isRefusal_joinedAnnotations {v : Value}
    (h : Operation.joinedAnnotations v = .error f) : isRefusal f = false := by
  unfold Operation.joinedAnnotations at h
  split at h
  · cases h
  · exact not_isRefusal_joinedText h

theorem usesBy_refusesOnly (op given : Operation) : op.UsesBy (Action.RefusesOnly given) := by
  cases op with
  | headerComment _ => exact fun m _ => refusesOnly_fail rfl
  | annotate _ | argument _ | raw _ => exact refusesOnly_of_not_refuses rfl
  | bodyStart _ | bodiless _ | newInstance _ _ => exact fun v _ => refusesOnly_of_not_refuses rfl
  | classImplements _ => exact refusesOnly_of_not_refuses rfl
  | interfaceStart _ _ _ _ =>
    exact ⟨fun m _ => refusesOnly_fail rfl, fun names _ => refusesOnly_of_not_refuses rfl⟩
  | parameter _ _ _ _ => exact fun f hf => refusesOnly_fail (not_isRefusal_joinedAnnotations hf)
  | _ => exact trivial

theorem refusesOnly_actions {style : Style} {frame : Frame} (h : op.admits frame = true) :
    ∀ a ∈ op.actions style frame, a.RefusesOnly op := by
  have hmarks : ∀ a : Action, a.refuses = false → a.RefusesOnly op := fun _ =>
    refusesOnly_of_not_refuses
  have hcommon : Common (Action.RefusesOnly op) :=
    ⟨fun _ => hmarks _ rfl, hmarks _ rfl, hmarks _ rfl⟩
  have hmoving : Moving (Action.RefusesOnly op) :=
    ⟨fun _ => hmarks _ rfl, hmarks _ rfl, fun _ => hmarks _ rfl, fun _ => hmarks _ rfl,
      fun _ => hmarks _ rfl⟩
  exact forall_actions hcommon hmoving (fun v hv => refusesOnly_modifiers hv)
    (usesBy_refusesOnly op op) h

/-! ## Operations that are refused -/

/-- An operation that is not legal does nothing. -/
theorem perform_of_not_legal (h : isLegal e.frames op = false) :
    ∃ m, e.perform op = (e, some (.emitter m)) := by
  unfold perform
  split
  · next hplaced =>
    have hadmits : op.admits (innermost e.frames) = false := by
      rw [isLegal, show placeOf e.frames = e.place from rfl, hplaced] at h
      exact h
    obtain ⟨m, hm⟩ := actions_of_not_admits e.style hadmits
    refine ⟨m, ?_⟩
    show e.run (op.actions e.style (innermost e.frames)) = _
    rw [hm]
    rfl
  · exact ⟨_, rfl⟩

theorem run_of_legal (h : isLegal e.frames op = true) :
    e.perform op = e.run (op.actions e.style (innermost e.frames)) := by
  rw [isLegal, Bool.and_eq_true] at h
  exact if_pos h.1

/-- A legal operation is refused for an unknown modifier only. -/
theorem perform_of_legal (h : isLegal e.frames op = true) (hperform : e.perform op = (e', some f))
    (hf : isRefusal f = true) :
    (∃ spelling, f = .unknownModifier spelling) ∧ op.modifierLists ≠ [] := by
  rw [run_of_legal h] at hperform
  rw [isLegal, Bool.and_eq_true] at h
  obtain ⟨a, ha, middle, hfails⟩ := exists_of_run_error hperform
  exact refusesOnly_actions h.2 a ha middle f hfails hf

theorem any_isMisuse_perform (e : Emitter) (op : Operation) :
    (e.perform op).2.any isMisuse = !isLegal e.frames op := by
  cases hlegal : isLegal e.frames op with
  | false =>
    obtain ⟨m, hm⟩ := perform_of_not_legal hlegal
    rw [hm]
    rfl
  | true =>
    cases hperform : e.perform op with
    | mk e' fault =>
      cases fault with
      | none => rfl
      | some f =>
        cases f with
        | emitter m =>
          obtain ⟨⟨_, hunknown⟩, -⟩ := perform_of_legal hlegal hperform rfl
          exact nomatch hunknown
        | _ => rfl

theorem eq_of_misuse (h : e.perform op = (e', some f)) (hf : isMisuse f = true) : e' = e := by
  have hmisuse := any_isMisuse_perform e op
  rw [h, Option.any_some, hf, Bool.true_eq, Bool.not_eq_true'] at hmisuse
  obtain ⟨m, hm⟩ := perform_of_not_legal hmisuse
  rw [h] at hm
  exact congrArg Prod.fst hm

/-- An operation that succeeds was legal, and has led to the frames after it. -/
theorem next_of_perform (h : e.perform op = (e', none)) : next e.frames op = some e'.frames := by
  have hlegal := any_isMisuse_perform e op
  rw [h, Option.any_none, eq_comm, Bool.not_eq_false'] at hlegal
  have hadmits := ((Bool.and_eq_true ..).mp hlegal).2
  have hskeleton := (run_skeleton (run_of_perform h)).1
  let actions := op.actions e.style (innermost e.frames)
  -- The operation leads to its frames from whatever depth.
  have hafter : e'.frames = op.after e.frames := calc
    e'.frames = (actions.foldl Action.skeleton e.skeleton).frames :=
      congrArg Skeleton.frames hskeleton
    _ = (actions.foldl Action.skeleton ⟨e.frames, total e.frames⟩).frames :=
      frames_foldl_congr (by rfl) actions
    _ = op.after e.frames := congrArg Skeleton.frames (foldl_actions hadmits)
  rw [next, hafter]
  exact if_pos hlegal

/-! ## What is legal afterwards -/

/-- Whether the same operations are legal, and the same can be asked. -/
structure LegalAlike (e e' : Emitter) : Prop where
  isLegal_eq : ∀ op, isLegal e'.frames op = isLegal e.frames op
  isEmpty_eq : e'.frames.isEmpty = e.frames.isEmpty
  ownsText_eq : e'.ownsText = e.ownsText

theorem unmarked_innermost {frames frames' : List Frame}
    (h : frames'.map Frame.unmarked = frames.map Frame.unmarked) :
    (innermost frames').unmarked = (innermost frames).unmarked := by
  cases frames with
  | nil => rw [List.map_eq_nil_iff.mp h]
  | cons f rest =>
    cases frames' with
    | nil => exact nomatch h
    | cons f' rest' => exact (List.cons.inj h).1

theorem admits_congr {frame frame' : Frame} (h : frame'.unmarked = frame.unmarked)
    (hheader : frame.context ≠ .classHeader) (hstatement : frame.context ≠ .statement)
    (hplaced : op.places.contains (some frame.context) = true) :
    op.admits frame' = op.admits frame := by
  cases op with
  | classExtends _ | classImplements _ =>
    exact absurd (by simpa [Operation.places] using hplaced) hheader
  | newInstance _ _ => exact absurd (by simpa [Operation.places] using hplaced) hstatement
  | bodyStart _ => exact congrArg (fun g => !g.bodiless) h
  | _ => rfl

theorem place_of_modifiers {place : Place} (hmodifiers : op.modifierLists ≠ [])
    (hplaced : op.places.contains place = true) :
    place ≠ some .classHeader ∧ place ≠ some .statement := by
  constructor
  · rintro rfl
    cases op <;> simp [Operation.modifierLists, Operation.places, Operation.bodies]
      at hmodifiers hplaced
  · rintro rfl
    cases op <;> simp [Operation.modifierLists, Operation.places, Operation.bodies]
      at hmodifiers hplaced

/-- Marks are of account in the header of a class and in a statement only. -/
theorem isLegal_congr {frames frames' : List Frame}
    (h : frames'.map Frame.unmarked = frames.map Frame.unmarked)
    (hheader : placeOf frames ≠ some .classHeader) (hstatement : placeOf frames ≠ some .statement)
    (op : Operation) : isLegal frames' op = isLegal frames op := by
  unfold isLegal
  rw [placeOf_congr h]
  cases hplaced : op.places.contains (placeOf frames) with
  | false => rfl
  | true =>
    cases frames with
    | nil => rw [List.map_eq_nil_iff.mp h]
    | cons f rest =>
      have hcontext : ∀ c, placeOf (f :: rest) ≠ some c → f.context ≠ c := fun c hne heq =>
        hne (congrArg some heq)
      rw [admits_congr (unmarked_innermost h) (hcontext _ hheader) (hcontext _ hstatement) hplaced]

/-- What is left where `f` has refused an operation. -/
structure Unharmed (f : Fault) (e e' : Emitter) : Prop extends SameConstructs e e' where
  eq_of_misuse : isMisuse f = true → e' = e
  legal : LegalAlike e e'

theorem Unharmed.refl (f : Fault) (e : Emitter) : Unharmed f e e :=
  ⟨.refl e, fun _ => rfl, fun _ => rfl, rfl, rfl⟩

theorem unharmed_of_refused (h : e.perform op = (e', some f)) (hf : isRefusal f = true) :
    Unharmed f e e' := by
  have hsame := perform_refused h hf
  have hempty : e'.frames.isEmpty = e.frames.isEmpty := by
    rw [Bool.eq_iff_iff, List.isEmpty_iff, List.isEmpty_iff, ← List.map_eq_nil_iff,
      hsame.frames_eq, List.map_eq_nil_iff]
  have howns : e'.ownsText = e.ownsText := by
    have hcontinues := continues_perform e op
    rw [h] at hcontinues
    exact hcontinues.ownsText_eq
  refine ⟨hsame, fun hmisuse => eq_of_misuse h hmisuse, ?_, hempty, howns⟩
  cases hlegal : isLegal e.frames op with
  | false =>
    obtain ⟨m, hm⟩ := perform_of_not_legal hlegal
    rw [h] at hm
    cases hm
    exact fun _ => rfl
  | true =>
    have hmodifiers := (perform_of_legal hlegal h hf).2
    rw [isLegal, Bool.and_eq_true] at hlegal
    obtain ⟨hheader, hstatement⟩ := place_of_modifiers hmodifiers hlegal.1
    exact isLegal_congr hsame.frames_eq hheader hstatement

end Emitter
end JavaCompanion
