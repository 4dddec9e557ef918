/-
Runs of actions, followed one action at a time.

An emitter that has gone on from `e` is `e.reached frames depth s`: it has written `s` behind the
text of `e`, and these constructs are open at this depth.  Each action leads from one such emitter
to the next (`run_write` and its kin).  An indentation is the only one that can stop where the
layout is given by a width and a text, namely where its blanks cannot be made
(`run_indent_stops`).
-/
import JavaCompanion.Proofs.Emitter.Formats
import JavaCompanion.Proofs.Emitter.Rejection

namespace JavaCompanion
namespace Emitter

/-! ## The layout -/

/-- The emitter indents by this width and ends lines with this text. -/
structure Lays (e : Emitter) (width : Int) (eol : String) : Prop where
  width_eq : e.style.indentWidth.int? = some width
  lineEnding_eq : e.style.lineEnding = .text eol

variable {e : Emitter} {width : Int} {eol s w : String} {frames : List Frame} {depth : Nat}
  {more : List Action} {op : Operation}

/-! ## Where an emitter has got to -/

/-- The emitter after a text, where these frames are open at this depth. -/
def reached (e : Emitter) (frames : List Frame) (depth : Nat) (s : String) : Emitter :=
  { e with text := e.text ++ s, frames, depth }

theorem reached_self (e : Emitter) : e.reached e.frames e.depth "" = e := by
  rw [reached, String.append_empty]

/-! ## Actions that write -/

theorem run_write (hopen : e.closed = false) :
    (e.reached frames depth s).run (.write w :: more)
      = (e.reached frames depth (s ++ w)).run more := by
  have happend : (e.reached frames depth s).append w = .ok (e.reached frames depth (s ++ w)) := by
    rw [append_of_open (e := e.reached frames depth s) hopen, reached, reached,
      String.append_assoc]
  rw [run, apply, happend]

theorem run_writeValue (hopen : e.closed = false) :
    (e.reached frames depth s).run (.writeValue (.text w) :: more)
      = (e.reached frames depth (s ++ w)).run more :=
  run_write hopen

theorem run_lineEnd (hopen : e.closed = false) (h : e.Lays width eol) :
    (e.reached frames depth s).run (.lineEnd :: more)
      = (e.reached frames depth (s ++ eol)).run more := by
  have hvalue : (e.reached frames depth s).apply .lineEnd
      = (e.reached frames depth s).appendValue (.text eol) := by
    rw [← h.lineEnding_eq]
    rfl
  rw [run, hvalue]
  exact run_write hopen

theorem run_indent (hopen : e.closed = false) (h : e.Lays width eol)
    (hfits : CanIndent e.style.textLimit width depth) :
    (e.reached frames depth s).run (.indent :: more)
      = (e.reached frames depth (s ++ levelBlanks width depth)).run more := by
  by_cases hdepth : depth = 0
  · subst hdepth
    rw [levelBlanks_zero, String.append_empty]
    rfl
  · have hindent : (e.reached frames depth s).apply .indent
        = (e.reached frames depth s).append (levelBlanks width depth) := by
      show (if depth = 0 then _ else do append _ (← indentation e.style depth)) = _
      rw [if_neg hdepth, indentation_of_canIndent h.width_eq hfits]
      rfl
    rw [run, hindent]
    exact run_write hopen

/-- The blanks of an indentation are too many, or too few to be counted. -/
theorem run_indent_stops (h : e.Lays width eol)
    (hfits : ¬ CanIndent e.style.textLimit width depth) :
    ∃ f, f.IsOversize ∧ ((e.reached frames depth s).run (.indent :: more)).2 = some f := by
  have hdepth : depth ≠ 0 := by
    rintro rfl
    exact hfits (canIndent_zero _ width)
  obtain ⟨f, hsize, hf⟩ := indentation_of_not_canIndent h.width_eq hfits
  have hindent : (e.reached frames depth s).apply .indent = .error f := by
    show (if depth = 0 then _ else do append _ (← indentation e.style depth)) = _
    rw [if_neg hdepth, hf]
    rfl
  exact ⟨f, hsize, by rw [run, hindent]⟩

/-! ## Actions that move -/

theorem run_push (f : Frame) :
    (e.reached frames depth s).run (.push f :: more)
      = (e.reached (f :: frames) (depth + f.indent) s).run more := rfl

theorem run_pop (f : Frame) :
    (e.reached (f :: frames) depth s).run (.pop :: more)
      = (e.reached frames (depth - f.indent) s).run more := rfl

theorem run_mark (m : Mark) :
    (e.reached frames depth s).run (.mark m :: more)
      = (e.reached (markTop m frames) depth s).run more := rfl

theorem run_deepen (n : Nat) :
    (e.reached frames depth s).run (.deepen n :: more)
      = (e.reached frames (depth + n) s).run more := rfl

theorem run_shallow (n : Nat) :
    (e.reached frames depth s).run (.shallow n :: more)
      = (e.reached frames (depth - n) s).run more := rfl

/-! ## Operations -/

theorem emit_of_perform {e e' : Emitter} (h : e.perform op = (e', none)) (ops : List Operation) :
    e.emit (op :: ops) = e'.emit ops := by
  rw [emit_cons, h]
  rfl

theorem emit_of_stops {e : Emitter} {f : Fault} (h : (e.perform op).2 = some f)
    (ops : List Operation) : e.emit (op :: ops) = .error f := by
  rw [emit_cons, show e.perform op = ((e.perform op).1, some f) from Prod.ext rfl h]
  rfl

theorem perform_reached (hplaced : op.places.contains (placeOf frames) = true) :
    (e.reached frames depth s).perform op
      = (e.reached frames depth s).run (op.actions e.style (innermost frames)) :=
  if_pos hplaced

/-! ## What a run without a fault tells -/

theorem exists_apply_of_run {as : List Action} (h : (e.run as).2 = none) {a : Action}
    (ha : a ∈ as) : ∃ middle middle', middle.apply a = .ok middle' ∧ Continues e middle := by
  induction as generalizing e with
  | nil => cases ha
  | cons b rest ih =>
    rw [run] at h
    cases happly : e.apply b with
    | error f =>
      rw [happly] at h
      cases h
    | ok e' =>
      rw [happly] at h
      rcases List.mem_cons.mp ha with rfl | ha
      · exact ⟨e, e', happly, .refl e⟩
      · obtain ⟨middle, middle', hmiddle, hcont⟩ := ih h ha
        exact ⟨middle, middle', hmiddle, (apply_skeleton happly).2.trans hcont⟩

/-- An emitter that has written a text was open. -/
theorem open_of_run {as : List Action} (h : (e.run as).2 = none) {w : String}
    (hw : Action.write w ∈ as) : e.closed = false := by
  obtain ⟨middle, middle', hmiddle, hcont⟩ := exists_apply_of_run h hw
  rw [← hcont.closed_eq]
  by_contra hclosed
  rw [Bool.not_eq_false] at hclosed
  rw [apply, append, hclosed] at hmiddle
  cases hmiddle

theorem canIndent_of_run (hlays : e.Lays width eol) (h : (e.run (.indent :: more)).2 = none) :
    CanIndent e.style.textLimit width e.depth := by
  by_contra hfits
  have hstops : ∃ f, f.IsOversize
      ∧ ((e.reached e.frames e.depth "").run (.indent :: more)).2 = some f :=
    run_indent_stops hlays hfits
  rw [reached_self, h] at hstops
  obtain ⟨f, -, hf⟩ := hstops
  exact nomatch hf

theorem run_of_started {start : Operation} (h : (e.perform start).2 = none) :
    start.places.contains e.place = true
      ∧ e.perform start = e.run (start.actions e.style (innermost e.frames))
      ∧ (e.run (start.actions e.style (innermost e.frames))).2 = none := by
  unfold perform at h ⊢
  split at h
  · next hplaced => exact ⟨hplaced, if_pos hplaced, h⟩
  · exact nomatch h

end Emitter
end JavaCompanion
