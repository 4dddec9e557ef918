/-
The same operations in two formats.

A format is an indentation width and a line end.  Two emitters that are given the same operations,
each in its own format, stay in step: they open the same constructs, fail for the same reasons, and
write the same lines up to the blanks that these begin with (`alongside_emit`).  Only the blanks of
an indentation can stop one of them where the other goes on, as not every number of them makes a
text.
-/
import JavaCompanion.Proofs.Emitter.LineStart
import JavaCompanion.Proofs.Emitter.OneLine

namespace JavaCompanion

/-- Whether a text could not be made for its size. -/
def Fault.IsOversize (f : Fault) : Prop := f = .countTooLarge ∨ f = .textTooLong

/-! ## Steps side by side -/

section Alongside

variable {α β γ δ : Type} {P : α → β → Prop} {Q : γ → δ → Prop}

/-- Two steps lead to related results or end with one fault, unless the size of a text has stopped
one of them. -/
inductive Alongside (P : α → β → Prop) : Except Fault α → Except Fault β → Prop
  | ok {a : α} {b : β} (h : P a b) : Alongside P (.ok a) (.ok b)
  | error (f : Fault) : Alongside P (.error f) (.error f)
  | left {f : Fault} (h : f.IsOversize) (y : Except Fault β) : Alongside P (.error f) y
  | right {f : Fault} (h : f.IsOversize) (x : Except Fault α) : Alongside P x (.error f)

namespace Alongside

theorem bind {x : Except Fault α} {y : Except Fault β} {f : α → Except Fault γ}
    {g : β → Except Fault δ} (h : Alongside P x y)
    (hnext : ∀ a b, P a b → Alongside Q (f a) (g b)) : Alongside Q (x >>= f) (y >>= g) := by
  cases h with
  | ok h => exact hnext _ _ h
  | error f => exact .error f
  | left h => exact .left h _
  | right h => exact .right h _

/-- What is known of a result may be used to relate it. -/
theorem imp_of_ok {x : Except Fault α} {y : Except Fault β} {P' : α → β → Prop}
    (h : Alongside P x y) (himp : ∀ a b, x = .ok a → P a b → P' a b) : Alongside P' x y := by
  cases h with
  | ok h => exact .ok (himp _ _ rfl h)
  | error f => exact .error f
  | left h => exact .left h _
  | right h => exact .right h _

/-- The same step on both sides. -/
theorem same {x : Except Fault α} {P : α → α → Prop} (h : ∀ a, x = .ok a → P a a) :
    Alongside P x x := by
  cases x with
  | ok a => exact .ok (h a rfl)
  | error f => exact .error f

end Alongside

end Alongside

namespace Emitter

open Text

/-! ## The blanks of an indentation -/

/-- The blanks of so many levels.  A width below zero gives none. -/
def levelBlanks (width : Int) (levels : Nat) : String :=
  String.ofList (List.replicate (levels * width).toNat ' ')

/-- Whether the blanks of so many levels can be counted, and are not too many for a text. -/
structure CanIndent (limit : Nat) (width : Int) (levels : Nat) : Prop where
  low : -countLimit ≤ levels * width
  high : levels * width < countLimit
  text : levels * width ≤ limit

instance (limit : Nat) (width : Int) (levels : Nat) : Decidable (CanIndent limit width levels) :=
  decidable_of_iff (_ ∧ _ ∧ _) ⟨fun ⟨hlow, hhigh, htext⟩ => ⟨hlow, hhigh, htext⟩,
    fun h => ⟨h.low, h.high, h.text⟩⟩

theorem canIndent_zero (limit : Nat) (width : Int) : CanIndent limit width 0 := by
  constructor <;> simp [countLimit]

theorem levelBlanks_zero (width : Int) : levelBlanks width 0 = "" := by
  rw [levelBlanks, Int.natCast_zero, Int.zero_mul]
  rfl

theorem indentation_of_canIndent {style : Style} {width : Int} {depth : Nat}
    (hwidth : style.indentWidth.int? = some width) (h : CanIndent style.textLimit width depth) :
    indentation style depth = .ok (levelBlanks width depth) := by
  rw [indentation, hwidth]
  show blanks style.textLimit (depth * width) = _
  rw [blanks, if_neg (by simpa using ⟨h.low, h.high⟩), if_neg (Int.not_lt.mpr h.text)]
  rfl

theorem indentation_of_not_canIndent {style : Style} {width : Int} {depth : Nat}
    (hwidth : style.indentWidth.int? = some width) (h : ¬ CanIndent style.textLimit width depth) :
    ∃ f, f.IsOversize ∧ indentation style depth = .error f := by
  rw [indentation, hwidth]
  show ∃ f, f.IsOversize ∧ blanks style.textLimit (depth * width) = .error f
  unfold blanks
  split
  · exact ⟨_, .inl rfl, rfl⟩
  · next hrange =>
    split
    · exact ⟨_, .inr rfl, rfl⟩
    · next htext =>
      rw [Bool.or_eq_true, not_or, decide_eq_true_eq, decide_eq_true_eq] at hrange
      exact absurd ⟨Int.not_lt.mp hrange.1, Int.not_le.mp hrange.2, Int.not_lt.mp htext⟩ h

/-! ## Two formats -/

/-- An indentation width and a line end. -/
structure Format where
  width : Int
  lineEnd : LineEnd

def Style.formatted (style : Style) (f : Format) : Style :=
  { style with indentWidth := .int f.width, lineEnding := .text f.lineEnd.text }

variable {style : Style} {f f' : Format} {e e' : Emitter} {begun : Bool}

/-- An emitter with an open text, in a format. -/
def inFormat (style : Style) (f : Format) (s : Skeleton) (text : String) : Emitter :=
  { style := style.formatted f, text, depth := s.depth, frames := s.frames }

/-- Two emitters that have written the same lines, each in its format.  They may be told apart by
the blanks of indentations only if the widths differ. -/
def InStep (style : Style) (f f' : Format) (begun : Bool) (e e' : Emitter) : Prop :=
  ∃ s t t', e = inFormat style f s t ∧ e' = inFormat style f' s t'
    ∧ SameLines (f.width = f'.width) f.lineEnd f'.lineEnd begun t t'

theorem InStep.weaken (h : InStep style f f' begun e e') {begun' : Bool}
    (hbegun : begun' = true → begun = true) : InStep style f f' begun' e e' := by
  obtain ⟨s, t, t', he, he', hlines⟩ := h
  exact ⟨s, t, t', he, he', hlines.weaken hbegun⟩

/-! ## Actions -/

theorem alongside_append (h : InStep style f f' begun e e') {x : Except Fault String}
    (hx : ∀ s, x = .ok s → OneLine s) :
    Alongside (InStep style f f' false) (x >>= e.append) (x >>= e'.append) := by
  obtain ⟨s, t, t', rfl, rfl, hlines⟩ := h
  refine (Alongside.same (P := fun a b => a = b ∧ OneLine a) fun a ha => ⟨rfl, hx a ha⟩).bind ?_
  rintro a b ⟨rfl, ha⟩
  exact .ok ⟨s, _, _, rfl, rfl, hlines.write ha⟩

theorem indentation_formatted (style : Style) (f : Format) (depth : Nat) :
    indentation (style.formatted f) depth = .ok (levelBlanks f.width depth)
      ∨ ∃ g, indentation (style.formatted f) depth = .error g ∧ g.IsOversize := by
  by_cases hfits : CanIndent style.textLimit f.width depth
  · exact .inl (indentation_of_canIndent rfl hfits)
  · obtain ⟨g, hsize, hg⟩ : ∃ g, g.IsOversize ∧ indentation (style.formatted f) depth = .error g :=
      @indentation_of_not_canIndent (style.formatted f) f.width depth rfl hfits
    exact .inr ⟨g, hg, hsize⟩

theorem alongside_indentation (depth : Nat) :
    Alongside (fun blanks blanks' => ∃ n n' : Nat, (f.width = f'.width → n = n')
        ∧ blanks = String.ofList (List.replicate n ' ')
        ∧ blanks' = String.ofList (List.replicate n' ' '))
      (indentation (style.formatted f) depth) (indentation (style.formatted f') depth) := by
  rcases indentation_formatted style f depth with h | ⟨g, h, hsize⟩
  · rcases indentation_formatted style f' depth with h' | ⟨g, h', hsize⟩
    · rw [h, h']
      exact .ok ⟨_, _, fun hwidth => by rw [hwidth], rfl, rfl⟩
    · rw [h']
      exact .right hsize _
  · rw [h]
    exact .left hsize _

/-- An action that stays on its line, or begins one where it has to, keeps two emitters in step. -/
theorem alongside_apply (h : InStep style f f' begun e e') {a : Action} {begun' : Bool}
    (hbegun : a.begun begun = some begun') (ha : a.OneLine) :
    Alongside (InStep style f f' begun') (e.apply a) (e'.apply a) := by
  cases a with
  | write s =>
    cases hbegun
    exact alongside_append h (x := .ok s) fun t ht => by cases ht; exact ha
  | writeValue v =>
    cases hbegun
    refine alongside_append h fun s hs => ha s ?_
    exact eq_text_of_asOperand (shaped_eq_ok.mp hs)
  | joined separator v =>
    cases hbegun
    exact alongside_append h fun s hs => oneLine_joinedText ha.1 ha.2 hs
  | lineEnd =>
    cases hbegun
    obtain ⟨s, t, t', rfl, rfl, hlines⟩ := h
    exact .ok ⟨s, _, _, rfl, rfl, hlines.endLine⟩
  | indent =>
    cases begun with
    | false => exact nomatch hbegun
    | true =>
      cases hbegun
      obtain ⟨s, t, t', rfl, rfl, hlines⟩ := h
      show Alongside _ (if s.depth = 0 then _ else _) (if s.depth = 0 then _ else _)
      by_cases hdepth : s.depth = 0
      · rw [if_pos hdepth, if_pos hdepth]
        exact .ok ⟨s, t, t', rfl, rfl, hlines⟩
      · rw [if_neg hdepth, if_neg hdepth]
        refine (alongside_indentation s.depth).bind ?_
        rintro _ _ ⟨n, n', hn, rfl, rfl⟩
        exact .ok ⟨s, _, _, rfl, rfl, hlines.indent hn⟩
  | modifiers v =>
    cases hbegun
    refine (Alongside.same (P := fun a b => a = b ∧ OneLine a) fun s hs =>
      ⟨rfl, oneLine_modifierText hs⟩).bind ?_
    rintro s _ ⟨rfl, hs⟩
    by_cases hnone : s = ""
    · simp only [if_pos hnone]
      exact .ok (h.weaken nofun)
    · simp only [if_neg hnone]
      exact alongside_append h (x := .ok s) fun t ht => by cases ht; exact hs
  | fail g => exact .error g
  | push frame =>
    cases hbegun
    obtain ⟨s, t, t', rfl, rfl, hlines⟩ := h
    exact .ok ⟨⟨frame :: s.frames, s.depth + frame.indent⟩, t, t', rfl, rfl, hlines⟩
  | pop =>
    cases hbegun
    obtain ⟨⟨frames, depth⟩, t, t', rfl, rfl, hlines⟩ := h
    cases frames with
    | nil => exact .ok ⟨⟨[], depth⟩, t, t', rfl, rfl, hlines⟩
    | cons frame rest => exact .ok ⟨⟨rest, depth - frame.indent⟩, t, t', rfl, rfl, hlines⟩
  | mark m =>
    cases hbegun
    obtain ⟨s, t, t', rfl, rfl, hlines⟩ := h
    exact .ok ⟨⟨markTop m s.frames, s.depth⟩, t, t', rfl, rfl, hlines⟩
  | deepen n =>
    cases hbegun
    obtain ⟨s, t, t', rfl, rfl, hlines⟩ := h
    exact .ok ⟨⟨s.frames, s.depth + n⟩, t, t', rfl, rfl, hlines⟩
  | shallow n =>
    cases hbegun
    obtain ⟨s, t, t', rfl, rfl, hlines⟩ := h
    exact .ok ⟨⟨s.frames, s.depth - n⟩, t, t', rfl, rfl, hlines⟩

/-! ## Operations -/

/-- The emitter that a run has led to, or the fault that has stopped it. -/
def outcome : Emitter × Option Fault → Except Fault Emitter
  | (e, none) => .ok e
  | (_, some f) => .error f

theorem outcome_eq_ok {r : Emitter × Option Fault} : outcome r = .ok e ↔ r = (e, none) := by
  obtain ⟨e', fault⟩ := r
  cases fault <;> simp [outcome]

theorem outcome_run_cons (e : Emitter) (a : Action) (rest : List Action) :
    outcome (e.run (a :: rest)) = e.apply a >>= fun e => outcome (e.run rest) := by
  rw [run]
  cases e.apply a <;> rfl

theorem emit_cons (e : Emitter) (op : Operation) (rest : List Operation) :
    e.emit (op :: rest) = outcome (e.perform op) >>= fun e => e.emit rest := by
  rw [emit, performAll]
  obtain ⟨e', fault⟩ := e.perform op
  cases fault <;> rfl

theorem alongside_run {as : List Action} (h : InStep style f f' begun e e') {last : Bool}
    (hbegun : begunAfter begun as = some last) (has : ∀ a ∈ as, a.OneLine) :
    Alongside (InStep style f f' last) (outcome (e.run as)) (outcome (e'.run as)) := by
  induction as generalizing e e' begun with
  | nil =>
    cases hbegun
    exact .ok h
  | cons a rest ih =>
    obtain ⟨middle, hfirst, hrest⟩ := Option.bind_eq_some_iff.mp hbegun
    obtain ⟨ha, has⟩ := List.forall_mem_cons.mp has
    rw [outcome_run_cons, outcome_run_cons]
    exact (alongside_apply h hfirst ha).bind fun _ _ h => ih h hrest has

/-- An operation consists of the same actions in every format. -/
theorem actions_formatted (style : Style) (f : Format) (frame : Frame) (op : Operation) :
    op.actions (style.formatted f) frame = op.actions style frame := by
  cases op <;> rfl

/-- Two emitters in step between operations. -/
structure Between (style : Style) (f f' : Format) (e e' : Emitter) : Prop where
  inStep : InStep style f f' (startsLine e.frames) e e'
  depth_eq : e.depth = total e.frames
  stacked : Stacked e.frames

theorem between_new (style : Style) (f f' : Format) :
    Between style f f' { style := style.formatted f } { style := style.formatted f' } where
  inStep := ⟨⟨[], 0⟩, "", "", rfl, rfl, .empty _ _ _⟩
  depth_eq := rfl
  stacked := trivial

theorem perform_inFormat (style : Style) (f : Format) (s : Skeleton) (t : String)
    (op : Operation) : (inFormat style f s t).perform op =
      if op.places.contains (placeOf s.frames) then
        (inFormat style f s t).run (op.actions style (innermost s.frames))
      else (inFormat style f s t, some (.emitter (.misplaced op.name op.places (placeOf s.frames))))
    := by
  rw [← actions_formatted style f]
  rfl

/-- An operation that stays on its lines keeps two emitters in step, also where it is refused. -/
theorem alongside_perform (h : Between style f f' e e') {op : Operation}
    (hmarker : OneLine style.generatedMarker.display) (hraw : op.isRaw = false)
    (hop : op.OneLine) :
    Alongside (Between style f f') (outcome (e.perform op)) (outcome (e'.perform op)) := by
  obtain ⟨hstep, hdepth, hstacked⟩ := h
  obtain ⟨s, t, t', rfl, rfl, -⟩ := id hstep
  by_cases hplaced : op.places.contains (placeOf s.frames) = true
  · cases hadmits : op.admits (innermost s.frames) with
    | false =>
      obtain ⟨m, hm⟩ := actions_of_not_admits style hadmits
      rw [perform_inFormat, perform_inFormat, if_pos hplaced, if_pos hplaced, hm]
      exact .error _
    | true =>
      obtain ⟨last, hbegun, hlast⟩ := linesUp_of_legal hstacked hraw hplaced hadmits
      have hrun := alongside_run hstep hbegun (Operation.oneLine_actions hmarker hop)
      have hperform := fun f t => (perform_inFormat style f s t op).trans (if_pos hplaced)
      rw [hperform, hperform]
      refine hrun.imp_of_ok fun d d' hd hdd' => ?_
      have hleads : Leads (inFormat style f s t) op d :=
        leads_of_perform hdepth ((hperform f t).trans (outcome_eq_ok.mp hd))
      refine ⟨hdd'.weaken fun hstarts => hlast ?_, hleads.depth_eq, ?_⟩
      · rwa [hleads.frames_eq] at hstarts
      · rw [hleads.frames_eq]
        exact hstacked.after op
  · rw [perform_inFormat, perform_inFormat, if_neg hplaced, if_neg hplaced]
    exact .error _

/-- Operations that stay on their lines keep two emitters in step. -/
theorem alongside_emit (h : Between style f f' e e') {ops : List Operation}
    (hmarker : OneLine style.generatedMarker.display)
    (hops : ∀ op ∈ ops, op.isRaw = false ∧ op.OneLine) :
    Alongside (Between style f f') (e.emit ops) (e'.emit ops) := by
  induction ops generalizing e e' with
  | nil => exact .ok h
  | cons op rest ih =>
    obtain ⟨⟨hraw, hop⟩, hrest⟩ := List.forall_mem_cons.mp hops
    rw [emit_cons, emit_cons]
    exact (alongside_perform h hmarker hraw hop).bind fun _ _ h => ih h hrest

theorem contains_everywhere (place : Place) : Operation.everywhere.contains place = true := by
  cases place with
  | none => rfl
  | some c => cases c <;> rfl

/-- Each emitter is given the line end of its format to write as it is. -/
theorem alongside_lineEnd (h : Between style f f' e e') :
    Alongside (Between style f f') (outcome (e.perform (.raw (.text f.lineEnd.text))))
      (outcome (e'.perform (.raw (.text f'.lineEnd.text)))) := by
  obtain ⟨hstep, hdepth, hstacked⟩ := h
  obtain ⟨s, t, t', rfl, rfl, hlines⟩ := id hstep
  have hplaced : ∀ text, (Operation.raw text).places.contains (placeOf s.frames) = true :=
    fun _ => contains_everywhere _
  rw [perform_inFormat, perform_inFormat, if_pos (hplaced _), if_pos (hplaced _)]
  exact .ok ⟨⟨s, _, _, rfl, rfl, hlines.endLine.weaken fun _ => rfl⟩, hdepth, hstacked⟩

end Emitter
end JavaCompanion
