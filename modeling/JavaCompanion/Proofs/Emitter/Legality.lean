/-
Legal operations and what can still stop them.

Where an operation is legal only three things go wrong: an indentation or a line end that
cannot be written, a value that is no text, and a modifier that nobody knows.  Of operations
whose modifiers are known, `performAll_ends` says that they reach the frames to which they
lead, or that they stop at one of the other two.
-/
import JavaCompanion.Proofs.Emitter.Transition

namespace JavaCompanion
namespace Emitter

open Java

variable {P : Fault → Prop} {style : Style} {n : Nat}

/-- Whatever is laid out in this style at no more than `n` levels fails for reasons in `P`
only. -/
structure Style.FailsBy (style : Style) (n : Nat) (P : Fault → Prop) : Prop where
  lineEnding : ∀ m, style.lineEnding.asOperand = .error m → P (.mismatch m)
  indentation : ∀ d ≤ n, ∀ f, indentation style d = .error f → P f

namespace Operation

/-- The modifiers that an operation writes. -/
def modifierLists : Operation → List Value
  | .classStart _ _ ms | .interfaceStart _ _ ms _ | .field _ _ ms _ | .constructorStart _ ms
  | .methodStart _ _ ms | .parameter _ _ _ ms | .declarationStart _ _ ms | .declaration _ _ _ ms
  | .loopStart _ _ _ ms => [ms]
  | _ => []

/-- The modifiers of the operation are given by their keywords. -/
def Known (op : Operation) : Prop := ∀ v ∈ op.modifierLists, ∃ ms, v = keywords ms

/-- The values that the operation writes are no texts for reasons in `P` only. -/
def ValuesFailBy (P : Fault → Prop) : Operation → Prop
  | .headerComment v => ∀ m, v.asMember = .error m → P (.mismatch m)
  | .annotate v | .argument v | .raw v => ∀ m, v.asOperand = .error m → P (.mismatch m)
  | .bodyStart vs | .bodiless vs | .newInstance _ vs =>
    ∀ v ∈ vs, ∀ m, v.asOperand = .error m → P (.mismatch m)
  | .classImplements names => ∀ f, joinedText ", " (.list names) = .error f → P f
  | .interfaceStart _ _ _ extended =>
    (∀ m, extended.items = .error m → P (.mismatch m))
      ∧ ∀ names, ∀ f, joinedText ", " (.list names) = .error f → extended.items = .ok names → P f
  | .parameter annotations _ _ _ => ∀ f, joinedAnnotations annotations = .error f → P f
  | _ => True

/-- What the operation writes stops it for reasons in `P` only. -/
def StopsBy (P : Fault → Prop) (op : Operation) : Prop := op.Known ∧ op.ValuesFailBy P

theorem stopsBy_of_no_modifiers {op : Operation} (h : op.modifierLists = [])
    (hvalues : op.ValuesFailBy P) : op.StopsBy P := by
  refine ⟨fun v hv => ?_, hvalues⟩
  rw [h] at hv
  exact nomatch hv

theorem stopsBy_of_keywords {op : Operation} {ms : List Modifier}
    (h : op.modifierLists = [keywords ms]) (hvalues : op.ValuesFailBy P) : op.StopsBy P := by
  refine ⟨fun v hv => ?_, hvalues⟩
  rw [h, List.mem_singleton] at hv
  exact ⟨ms, hv⟩

end Operation

/-! ## The faults of one action -/

theorem append_of_open {e : Emitter} (h : e.closed = false) (s : String) :
    e.append s = .ok { e with text := e.text ++ s } := by
  simp [append, h]

/-- Writing a text that is still to be found fails where it cannot be found. -/
theorem error_of_append {e : Emitter} {x : Except Fault String} {f : Fault}
    (hopen : e.closed = false) (h : (do e.append (← x)) = .error f) : x = .error f := by
  rcases bind_eq_error.mp h with h | ⟨s, -, h⟩
  · exact h
  · rw [append_of_open hopen] at h
    exact nomatch h

theorem failsBy_write (s : String) : (Action.write s).FailsBy style n P := by
  intro e _ hopen _ f h
  have happend : e.append s = .error f := h
  rw [append_of_open hopen] at happend
  exact nomatch happend

theorem failsBy_writeValue {v : Value} (h : ∀ m, v.asOperand = .error m → P (.mismatch m)) :
    (Action.writeValue v).FailsBy style n P := by
  intro e _ hopen _ f hf
  obtain ⟨m, hm, rfl⟩ := shaped_eq_error.mp (error_of_append hopen hf)
  exact h m hm

theorem failsBy_lineEnd (hs : style.FailsBy n P) : Action.lineEnd.FailsBy style n P := by
  intro e hstyle hopen _ f hf
  obtain ⟨m, hm, rfl⟩ := shaped_eq_error.mp (error_of_append hopen hf)
  rw [hstyle] at hm
  exact hs.lineEnding m hm

theorem failsBy_indent (hs : style.FailsBy n P) : Action.indent.FailsBy style n P := by
  intro e hstyle hopen hdepth f hf
  simp only [apply] at hf
  split at hf
  · cases hf
  · have hblanks := error_of_append hopen hf
    rw [hstyle] at hblanks
    exact hs.indentation e.depth hdepth f hblanks

theorem common_failsBy (hs : style.FailsBy n P) :
    Common fun a => a.FailsBy style n P :=
  ⟨failsBy_write, failsBy_lineEnd hs, failsBy_indent hs⟩

theorem failsBy_joined {separator : String} {v : Value}
    (h : ∀ f, joinedText separator v = .error f → P f) :
    (Action.joined separator v).FailsBy style n P := by
  intro e _ hopen _ f hf
  exact h f (error_of_append hopen hf)

theorem failsBy_fail {f : Fault} (h : P f) : (Action.fail f).FailsBy style n P := by
  intro e _ _ _ f' hf
  cases hf
  exact h

/-- Actions that only move between constructs. -/
theorem failsBy_of_apply_ok {a : Action} (h : ∀ e : Emitter, ∃ e', e.apply a = .ok e') :
    a.FailsBy style n P := by
  intro e _ _ _ f hf
  obtain ⟨e', he⟩ := h e
  rw [he] at hf
  exact nomatch hf

theorem failsBy_push (f : Frame) : (Action.push f).FailsBy style n P :=
  failsBy_of_apply_ok fun _ => ⟨_, rfl⟩

theorem failsBy_pop : Action.pop.FailsBy style n P := failsBy_of_apply_ok fun _ => ⟨_, rfl⟩

theorem failsBy_mark (m : Mark) : (Action.mark m).FailsBy style n P :=
  failsBy_of_apply_ok fun _ => ⟨_, rfl⟩

theorem failsBy_deepen (k : Nat) : (Action.deepen k).FailsBy style n P :=
  failsBy_of_apply_ok fun _ => ⟨_, rfl⟩

theorem failsBy_shallow (k : Nat) : (Action.shallow k).FailsBy style n P :=
  failsBy_of_apply_ok fun _ => ⟨_, rfl⟩

theorem parse_keyword (m : Modifier) : Modifier.parse (.text m.keyword) = .ok m := by
  cases m <;> rfl

theorem modifierSet_keywords (ms : List Modifier) :
    modifierSet (keywords ms) = .ok (Modifier.toSet ms) := by
  have hparse : (ms.map fun m => Value.text m.keyword).mapM Modifier.parse = .ok ms := by
    induction ms with
    | nil => rfl
    | cons m rest ih =>
      rw [List.map_cons, List.mapM_cons, parse_keyword, ih]
      rfl
  simp only [modifierSet, keywords, Value.items, hparse]

theorem failsBy_modifiers {v : Value} (h : ∃ ms, v = keywords ms) :
    (Action.modifiers v).FailsBy style n P := by
  obtain ⟨ms, rfl⟩ := h
  intro e _ hopen _ f hf
  simp only [apply, modifierText, modifierSet_keywords] at hf
  rcases bind_eq_error.mp hf with hf | ⟨s, -, hf⟩
  · cases hf
  · split at hf
    · cases hf
    · rw [append_of_open hopen] at hf
      cases hf

/-! ## The actions of an operation -/

/-- What holds of the actions that move between constructs or mark them. -/
structure Moving (Q : Action → Prop) : Prop where
  push : ∀ f, Q (.push f)
  pop : Q .pop
  mark : ∀ m, Q (.mark m)
  deepen : ∀ k, Q (.deepen k)
  shallow : ∀ k, Q (.shallow k)

/-- What holds of the actions in which an operation uses its values, its modifiers apart. -/
def Operation.UsesBy (Q : Action → Prop) : Operation → Prop
  | .headerComment v => ∀ m, v.asMember = .error m → Q (.fail (.mismatch m))
  | .annotate v | .argument v | .raw v => Q (.writeValue v)
  | .bodyStart vs | .bodiless vs | .newInstance _ vs => ∀ v ∈ vs, Q (.writeValue v)
  | .classImplements names => Q (.joined ", " (.list names))
  | .interfaceStart _ _ _ extended =>
    (∀ m, extended.items = .error m → Q (.fail (.mismatch m)))
      ∧ ∀ names, extended.items = .ok names → Q (.joined ", " (.list names))
  | .parameter annotations _ _ _ => ∀ f, joinedAnnotations annotations = .error f → Q (.fail f)
  | _ => True

/-- What holds of the parts that operations are made of, holds of the actions of an operation that
is let through. -/
theorem forall_actions {Q : Action → Prop} {op : Operation} {frame : Frame} (hQ : Common Q)
    (hmoving : Moving Q) (hmodifiers : ∀ v ∈ op.modifierLists, Q (.modifiers v))
    (hvalues : op.UsesBy Q) (h : op.admits frame = true) :
    ∀ a ∈ op.actions style frame, Q a := by
  have hwrite := hQ.write
  have hline := hQ.lineEnd
  have hindent := hQ.indent
  obtain ⟨hpush, hpop, hmark, hdeepen, hshallow⟩ := hmoving
  cases op with
  | packageDeclaration name =>
    simp only [Operation.actions]
    split
    · simp
    · simp [hwrite, hline, hindent]
  | headerComment text =>
    have hlines := forall_commentLines hQ hvalues
    simp only [Operation.actions, List.forall_mem_append]
    exact ⟨⟨by simp [hwrite, hline, hindent], hlines⟩, by simp [hwrite, hline, hindent]⟩
  | annotate text =>
    have hvalue : Q (.writeValue text) := hvalues
    simp [Operation.actions, hindent, hline, hvalue]
  | classStart name provenance ms =>
    have hgenerated := forall_generatedLine hQ style.generatedMarker provenance
    simp only [Operation.actions, List.forall_mem_append]
    exact ⟨hgenerated, by simp [hindent, hwrite, hpush,
      hmodifiers ms (by simp [Operation.modifierLists])]⟩
  | classExtends name =>
    simp only [Operation.admits, Bool.and_eq_true, Bool.not_eq_true'] at h
    simp [Operation.actions, h.1, h.2, hmark, hwrite]
  | classImplements names =>
    have hjoined : Q (.joined ", " (.list names)) := hvalues
    simp only [Operation.admits, Bool.not_eq_true'] at h
    simp only [Operation.actions, h, Bool.false_eq_true, if_false]
    split
    · simp
    · simp [hmark, hwrite, hjoined]
  | classEnd => simp [Operation.actions, hwrite, hline, hpop, hpush]
  | interfaceStart name provenance ms extended =>
    have hgenerated := forall_generatedLine hQ style.generatedMarker provenance
    have hextended := forall_extendsActions hQ hvalues.1 hvalues.2
    simp only [Operation.actions, List.forall_mem_append]
    exact ⟨⟨⟨hgenerated, by simp [hindent, hwrite,
      hmodifiers ms (by simp [Operation.modifierLists])]⟩, hextended⟩,
      by simp [hwrite, hline, hpush]⟩
  | interfaceEnd | blockEnd | statementEnd | loopEnd =>
    simp [Operation.actions, hpop, hindent, hwrite, hline]
  | callEnd =>
    simp only [Operation.actions]
    split <;> simp [hpop, hwrite, hline]
  | parameter annotations type name ms =>
    have hparameter : ∀ a ∈ Operation.parameterLine annotations ms (type ++ " " ++ name), Q a :=
      forall_parameterLine hQ hvalues (hmodifiers ms (by simp [Operation.modifierLists]))
    simp only [Operation.actions, List.forall_mem_append]
    refine ⟨⟨?_, by simp [hmark]⟩, hparameter⟩
    split <;> simp [hwrite]
  | bodyStart thrown =>
    simp only [Operation.admits, Bool.not_eq_true'] at h
    have hthrows := forall_throwsActions hQ hvalues
    simp only [Operation.actions, h, Bool.false_eq_true, if_false, List.forall_mem_append]
    exact ⟨⟨by simp [hwrite], hthrows⟩, by simp [hwrite, hline, hpop, hpush]⟩
  | bodiless thrown =>
    have hthrows := forall_throwsActions hQ hvalues
    simp only [Operation.actions, List.forall_mem_append]
    exact ⟨⟨by simp [hwrite], hthrows⟩, by simp [hwrite, hline, hpop]⟩
  | superCallStart name | callStart name =>
    simp only [Operation.actions, Operation.callActions]
    split <;> simp [hwrite, hindent, hmark, hpush]
  | argument value =>
    have hvalue : Q (.writeValue value) := hvalues
    simp only [Operation.actions, List.forall_mem_append]
    refine ⟨?_, by simp [hmark, hvalue]⟩
    split <;> simp [hwrite]
  | newInstance name arguments =>
    simp only [Operation.admits] at h
    have hlines := forall_argumentLines hQ hvalues
    simp only [Operation.actions, h, Bool.not_true, Bool.false_eq_true, if_false,
      List.forall_mem_append]
    exact ⟨⟨by simp [hmark, hwrite, hdeepen], hlines⟩, by simp [hshallow, hwrite]⟩
  | superConstructorStart | returnStart =>
    simp [Operation.actions, hindent, hwrite, hpush]
  | assignment _ _ | returnValue _ => simp [Operation.actions, hindent, hwrite, hline]
  | field type name ms value =>
    simp [Operation.actions, hindent, hwrite, hline,
      hmodifiers ms (by simp [Operation.modifierLists])]
  | constructorStart name ms | methodStart type name ms | declarationStart type name ms
  | declaration type name value ms | loopStart type name iterable ms =>
    simp [Operation.actions, hindent, hwrite, hline, hpush,
      hmodifiers ms (by simp [Operation.modifierLists])]
  | raw text =>
    have hvalue : Q (.writeValue text) := hvalues
    simp [Operation.actions, hvalue]

/-! ## The faults of an operation -/

theorem moving_failsBy : Moving fun a => a.FailsBy style n P :=
  ⟨failsBy_push, failsBy_pop, failsBy_mark, failsBy_deepen, failsBy_shallow⟩

theorem usesBy_of_valuesFailBy {op : Operation} (h : op.ValuesFailBy P) :
    op.UsesBy fun a => a.FailsBy style n P := by
  cases op with
  | headerComment _ => exact fun m hm => failsBy_fail (h m hm)
  | annotate _ | argument _ | raw _ => exact failsBy_writeValue h
  | bodyStart _ | bodiless _ | newInstance _ _ => exact fun v hv => failsBy_writeValue (h v hv)
  | classImplements _ => exact failsBy_joined h
  | interfaceStart _ _ _ _ =>
    exact ⟨fun m hm => failsBy_fail (h.1 m hm),
      fun names hnames => failsBy_joined fun f hf => h.2 names f hf hnames⟩
  | parameter _ _ _ _ => exact fun f hf => failsBy_fail (h f hf)
  | _ => exact trivial

/-- The actions of an operation that is let through fail for the reasons of the style and of
its own values. -/
theorem failsBy_actions {op : Operation} {frame : Frame} (hs : style.FailsBy n P)
    (hknown : op.Known) (hvalues : op.ValuesFailBy P) (h : op.admits frame = true) :
    ∀ a ∈ op.actions style frame, a.FailsBy style n P :=
  forall_actions (common_failsBy hs) moving_failsBy (fun v hv => failsBy_modifiers (hknown v hv))
    (usesBy_of_valuesFailBy hvalues) h

/-! ## Values that are texts -/

/-- The annotations of a parameter cannot be written for reasons in `P` only. -/
def AnnotationsFailBy (P : Fault → Prop) (annotations : List Value) : Prop :=
  ∀ f, Operation.joinedAnnotations (.list annotations) = .error f → P f

theorem stopsBy_annotationIf {text : Value} {condition : Bool}
    (h : ∀ m, text.asOperand = .error m → P (.mismatch m)) :
    ∀ op ∈ annotationIf text condition, op.StopsBy P := by
  unfold annotationIf
  split
  · intro op hop
    rw [List.mem_singleton.mp hop]
    exact Operation.stopsBy_of_no_modifiers rfl h
  · simp

theorem textsFailBy_map (texts : List String) :
    ∀ v ∈ texts.map Value.text, ∀ m, v.asOperand = .error m → P (.mismatch m) := by
  intro v hv m hm
  obtain ⟨s, -, rfl⟩ := List.mem_map.mp hv
  exact nomatch hm

theorem not_asOperand_error {v : Value} (h : v.isText = true) (m : Mismatch) :
    v.asOperand ≠ .error m := by
  cases v with
  | text s => exact fun hm => nomatch hm
  | _ => exact nomatch h

theorem joinedText_error {separator : String} {v : Value} {f : Fault}
    (h : joinedText separator v = .error f) : ∃ m, f = .mismatch m := by
  rcases bind_eq_error.mp h with h | ⟨_, -, h⟩
  · exact mismatch_of_shaped h
  · exact nomatch h

theorem joinedText_of_isText (separator : String) {vs : List Value} (h : ∀ v ∈ vs, v.isText) :
    ∃ s, joinedText separator (.list vs) = .ok s := by
  have hmap : ∃ texts, vs.mapM Value.asOperand = .ok texts := by
    induction vs with
    | nil => exact ⟨[], rfl⟩
    | cons v rest ih =>
      obtain ⟨texts, htexts⟩ := ih fun w hw => h w (List.mem_cons_of_mem v hw)
      have hv := h v List.mem_cons_self
      cases v with
      | text s => exact ⟨s :: texts, by rw [List.mapM_cons, htexts]; rfl⟩
      | _ => exact nomatch hv
  obtain ⟨texts, htexts⟩ := hmap
  refine ⟨String.intercalate separator texts, ?_⟩
  show (do return String.intercalate separator (← shaped (vs.mapM Value.asOperand))) = _
  rw [htexts]
  rfl

/-! ## Operations in a row -/

theorem nextWithin_eq_some {frames frames' : List Frame} {op : Operation} :
    nextWithin n frames op = some frames' ↔
      total frames + op.rise ≤ n ∧ op.places.contains (placeOf frames) = true
        ∧ op.admits (innermost frames) = true ∧ op.after frames = frames' := by
  simp only [nextWithin, next]
  split
  · next hrise =>
    split
    · next hlegal =>
      rw [Bool.and_eq_true] at hlegal
      simp only [hrise, hlegal.1, hlegal.2, Option.some.injEq, true_and]
    · next hlegal =>
      rw [Bool.and_eq_true] at hlegal
      constructor
      · exact fun h => nomatch h
      · exact fun h => absurd ⟨h.2.1, h.2.2.1⟩ hlegal
  · next hrise => simp [hrise]

theorem nextAll_append {frames middle last : List Frame} {ops more : List Operation}
    (h : nextAll n frames ops = some middle) (hmore : nextAll n middle more = some last) :
    nextAll n frames (ops ++ more) = some last :=
  foldlM_append_eq_some h hmore

/-- Parts that each come back to where they began. -/
theorem nextAll_flatMap {α : Type} {part : α → List Operation} {as : List α}
    {frames : List Frame} (h : ∀ a ∈ as, nextAll n frames (part a) = some frames) :
    nextAll n frames (as.flatMap part) = some frames := by
  induction as with
  | nil => rfl
  | cons a rest ih =>
    rw [List.flatMap_cons]
    exact nextAll_append (h a List.mem_cons_self)
      (ih fun b hb => h b (List.mem_cons_of_mem a hb))

theorem nextAll_map {α : Type} {part : α → Operation} {as : List α} {frames : List Frame}
    (h : ∀ a ∈ as, nextWithin n frames (part a) = some frames) :
    nextAll n frames (as.map part) = some frames := by
  rw [List.map_eq_flatMap]
  refine nextAll_flatMap fun a ha => ?_
  rw [nextAll, List.foldlM_cons, h a ha]
  rfl

/-- The elements of a list, of which the first marks the construct as begun. -/
theorem nextAll_elements {α : Type} {part : α → Operation} {as : List α} {f : Frame}
    {rest : List Frame}
    (h : ∀ a ∈ as, ∀ first, nextWithin n ({ f with first } :: rest) (part a)
      = some ({ f with first := false } :: rest)) :
    nextAll n (f :: rest) (as.map part)
      = some ({ f with first := as.isEmpty && f.first } :: rest) := by
  cases as with
  | nil => rfl
  | cons a more =>
    have hfirst := h a List.mem_cons_self f.first
    have hmore : nextAll n ({ f with first := false } :: rest) (more.map part)
        = some ({ f with first := false } :: rest) :=
      nextAll_map fun b hb => h b (List.mem_cons_of_mem a hb) false
    rw [List.map_cons, nextAll, List.foldlM_cons, hfirst]
    exact hmore

/-- The frame of a class whose declaration is written. -/
def classBody (name : String) : Frame := { context := .classBody, label := name, indent := 1 }

/-- A part that a setting leaves out leads nowhere. -/
theorem nextAll_ite {condition : Bool} {ops : List Operation} {frames : List Frame}
    (h : nextAll n frames ops = some frames) :
    nextAll n frames (if condition then ops else []) = some frames := by
  cases condition with
  | false => rfl
  | true => exact h

/-! ## Runs of operations -/

/-- An operation that leads on reaches its frames, or a value or the layout stops it. -/
theorem perform_ends {e : Emitter} {op : Operation} {frames : List Frame}
    (hopen : e.closed = false) (hdepth : e.depth = total e.frames)
    (hs : e.style.FailsBy n P) (hop : op.StopsBy P)
    (hnext : nextWithin n e.frames op = some frames) :
    Ends P e ⟨frames, total frames⟩ (e.perform op) := by
  obtain ⟨hrise, hplace, hadmits, rfl⟩ := nextWithin_eq_some.mp hnext
  have hle : e.depth + rises (op.actions e.style (innermost e.frames)) ≤ n := by
    have := rises_actions e.style (innermost e.frames) op
    omega
  have hends := run_ends hopen hle (failsBy_actions hs hop.1 hop.2 hadmits)
  have hskeleton : e.skeleton = ⟨e.frames, total e.frames⟩ := by rw [skeleton, hdepth]
  rw [hskeleton, foldl_actions hadmits] at hends
  rw [perform, show e.place = placeOf e.frames from rfl, if_pos hplace]
  exact hends

theorem performAll_ends {e : Emitter} {ops : List Operation} {frames : List Frame}
    (hopen : e.closed = false) (hdepth : e.depth = total e.frames)
    (hs : e.style.FailsBy n P) (hops : ∀ op ∈ ops, op.StopsBy P)
    (hnext : nextAll n e.frames ops = some frames) :
    Ends P e ⟨frames, total frames⟩ (e.performAll ops) := by
  induction ops generalizing e with
  | nil =>
    cases hnext
    exact ⟨by rw [skeleton, hdepth], .refl e⟩
  | cons op rest ih =>
    obtain ⟨frames', hfirst, hrest⟩ := Option.bind_eq_some_iff.mp hnext
    have hends := perform_ends hopen hdepth hs (hops op List.mem_cons_self) hfirst
    rw [performAll]
    revert hends
    cases e.perform op with
    | mk e' fault =>
      cases fault with
      | some f => exact id
      | none =>
        rintro ⟨hskeleton, hcont⟩
        obtain ⟨rfl, hdepth'⟩ := Skeleton.mk.inj hskeleton
        have hrun := ih (hcont.closed_eq.trans hopen) hdepth' (by rwa [hcont.style_eq])
          (fun op hop => hops op (List.mem_cons_of_mem _ hop)) hrest
        exact hrun.after hcont

end Emitter
end JavaCompanion
