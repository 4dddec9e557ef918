/-
What actions do to the open constructs.

Which operations are legal depends on the frames and on nothing that has been written.  The
skeleton of an emitter is its frames and its depth, and every action that succeeds changes it
in a way that the action alone determines (`apply_skeleton`).  A run of actions therefore
either reaches the skeleton that they determine together, or it ends with a fault for which
one of them can fail (`run_ends`).
-/
import JavaCompanion.Emitter.Operation
import JavaCompanion.Proofs.Outcome

namespace JavaCompanion
namespace Emitter

structure Skeleton where
  frames : List Frame
  depth : Nat

def skeleton (e : Emitter) : Skeleton := ⟨e.frames, e.depth⟩

def Action.skeleton (s : Skeleton) : Action → Skeleton
  | .push f => ⟨f :: s.frames, s.depth + f.indent⟩
  | .pop =>
    match s.frames with
    | [] => s
    | f :: rest => ⟨rest, s.depth - f.indent⟩
  | .mark m => ⟨markTop m s.frames, s.depth⟩
  | .deepen n => ⟨s.frames, s.depth + n⟩
  | .shallow n => ⟨s.frames, s.depth - n⟩
  | _ => s

/-- The levels by which an action can deepen the indentation. -/
def Action.rise : Action → Nat
  | .push f => f.indent
  | .deepen n => n
  | _ => 0

def rises : List Action → Nat
  | [] => 0
  | a :: rest => a.rise + rises rest

@[simp] theorem rises_nil : rises [] = 0 := rfl

@[simp] theorem rises_cons (a : Action) (rest : List Action) :
    rises (a :: rest) = a.rise + rises rest := rfl

@[simp] theorem rises_append (as bs : List Action) : rises (as ++ bs) = rises as + rises bs := by
  induction as with
  | nil => simp
  | cons a rest ih =>
    rw [List.cons_append, rises_cons, rises_cons, ih]
    omega

/-- What no action changes. -/
structure Continues (e e' : Emitter) : Prop where
  style_eq : e'.style = e.style
  closed_eq : e'.closed = e.closed
  ownsText_eq : e'.ownsText = e.ownsText

theorem Continues.refl (e : Emitter) : Continues e e := ⟨rfl, rfl, rfl⟩

theorem Continues.trans {e e' e'' : Emitter} (h : Continues e e') (h' : Continues e' e'') :
    Continues e e'' :=
  ⟨h'.style_eq.trans h.style_eq, h'.closed_eq.trans h.closed_eq,
    h'.ownsText_eq.trans h.ownsText_eq⟩

/-! ## One action -/

theorem append_eq_ok {e e' : Emitter} {s : String} (h : e.append s = .ok e') :
    e'.skeleton = e.skeleton ∧ Continues e e' := by
  unfold append at h
  split at h
  · exact nomatch h
  · cases h
    exact ⟨rfl, rfl, rfl, rfl⟩

theorem append_of_bind {e e' : Emitter} {x : Except Fault String}
    (h : (do e.append (← x)) = .ok e') : e'.skeleton = e.skeleton ∧ Continues e e' := by
  obtain ⟨s, -, hs⟩ := bind_eq_ok.mp h
  exact append_eq_ok hs

theorem apply_skeleton {e e' : Emitter} {a : Action} (h : e.apply a = .ok e') :
    e'.skeleton = a.skeleton e.skeleton ∧ Continues e e' := by
  cases a with
  | write s => exact append_eq_ok h
  | writeValue v => exact append_of_bind h
  | lineEnd => exact append_of_bind h
  | indent =>
    simp only [apply] at h
    split at h
    · cases h
      exact ⟨rfl, .refl e⟩
    · exact append_of_bind h
  | modifiers v =>
    obtain ⟨s, -, hs⟩ := bind_eq_ok.mp h
    split at hs
    · cases hs
      exact ⟨rfl, .refl e⟩
    · exact append_eq_ok hs
  | joined separator v => exact append_of_bind h
  | push f =>
    cases h
    exact ⟨rfl, rfl, rfl, rfl⟩
  | pop =>
    cases h
    cases hframes : e.frames with
    | nil => exact ⟨by simp [popFrame, skeleton, Action.skeleton, hframes],
        by rw [popFrame, hframes]; exact .refl e⟩
    | cons f rest => exact ⟨by simp [popFrame, skeleton, Action.skeleton, hframes],
        by rw [popFrame, hframes]; exact ⟨rfl, rfl, rfl⟩⟩
  | mark m =>
    cases h
    exact ⟨rfl, rfl, rfl, rfl⟩
  | deepen n =>
    cases h
    exact ⟨rfl, rfl, rfl, rfl⟩
  | shallow n =>
    cases h
    exact ⟨rfl, rfl, rfl, rfl⟩
  | fail f => exact nomatch h

theorem skeleton_depth_le (s : Skeleton) (a : Action) :
    (a.skeleton s).depth ≤ s.depth + a.rise := by
  cases a with
  | pop =>
    obtain ⟨frames, depth⟩ := s
    cases frames with
    | nil => exact Nat.le_refl _
    | cons f rest => exact Nat.sub_le _ _
  | shallow n => exact Nat.sub_le _ _
  | _ => exact Nat.le_refl _

/-- The depth is of no account for the frames. -/
theorem frames_skeleton_congr {s s' : Skeleton} (h : s.frames = s'.frames) (a : Action) :
    (a.skeleton s).frames = (a.skeleton s').frames := by
  obtain ⟨frames, depth⟩ := s
  obtain ⟨frames', depth'⟩ := s'
  have hframes : frames = frames' := h
  subst hframes
  cases a with
  | pop => cases frames <;> rfl
  | _ => rfl

theorem frames_foldl_congr {s s' : Skeleton} (h : s.frames = s'.frames) (as : List Action) :
    (as.foldl Action.skeleton s).frames = (as.foldl Action.skeleton s').frames := by
  induction as generalizing s s' with
  | nil => exact h
  | cons a rest ih => exact ih (frames_skeleton_congr h a)

/-! ## Runs -/

/-- A run that succeeds reaches the skeleton that its actions determine together. -/
theorem run_skeleton {as : List Action} {e e' : Emitter} (h : e.run as = (e', none)) :
    e'.skeleton = as.foldl Action.skeleton e.skeleton ∧ Continues e e' := by
  induction as generalizing e with
  | nil =>
    cases h
    exact ⟨rfl, .refl _⟩
  | cons a rest ih =>
    rw [run] at h
    cases happly : e.apply a with
    | error f =>
      rw [happly] at h
      cases h
    | ok middle =>
      rw [happly] at h
      obtain ⟨hskel, hcont⟩ := apply_skeleton happly
      obtain ⟨hlast, hrest⟩ := ih h
      rw [hskel] at hlast
      exact ⟨hlast, hcont.trans hrest⟩

/-- Under a style, at no more than `n` levels and while the text is open, the action fails for
reasons in `P` only. -/
def Action.FailsBy (style : Style) (n : Nat) (P : Fault → Prop) (a : Action) : Prop :=
  ∀ e : Emitter, e.style = style → e.closed = false → e.depth ≤ n →
    ∀ f, e.apply a = .error f → P f

/-- A run has reached the skeleton, or has ended with a fault in `P`. -/
def Ends (P : Fault → Prop) (e : Emitter) (s : Skeleton) : Emitter × Option Fault → Prop
  | (e', none) => e'.skeleton = s ∧ Continues e e'
  | (_, some f) => P f

/-- What comes after a part that went on ends as it does on its own. -/
theorem Ends.after {P : Fault → Prop} {e e' : Emitter} {s : Skeleton}
    {r : Emitter × Option Fault} (hends : Ends P e' s r) (h : Continues e e') : Ends P e s r := by
  obtain ⟨e'', fault⟩ := r
  cases fault with
  | none => exact ⟨hends.1, h.trans hends.2⟩
  | some f => exact hends

theorem run_ends {P : Fault → Prop} {n : Nat} {as : List Action} {e : Emitter}
    (hopen : e.closed = false) (hdepth : e.depth + rises as ≤ n)
    (hfails : ∀ a ∈ as, a.FailsBy e.style n P) :
    Ends P e (as.foldl Action.skeleton e.skeleton) (e.run as) := by
  induction as generalizing e with
  | nil => exact ⟨rfl, .refl e⟩
  | cons a rest ih =>
    rw [rises_cons] at hdepth
    rw [run, List.foldl_cons]
    cases happly : e.apply a with
    | error f => exact hfails a List.mem_cons_self e rfl hopen (by omega) f happly
    | ok e' =>
      obtain ⟨hskel, hcont⟩ := apply_skeleton happly
      have hle : e'.depth ≤ e.depth + a.rise := by
        have hlt := skeleton_depth_le e.skeleton a
        rw [← hskel] at hlt
        exact hlt
      have hrest := ih (hcont.closed_eq.trans hopen) (by omega) (fun b hb => by
        rw [hcont.style_eq]
        exact hfails b (List.mem_cons_of_mem a hb))
      rw [hskel] at hrest
      exact hrest.after hcont

end Emitter
end JavaCompanion
