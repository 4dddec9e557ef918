/-
Where lines begin.

Blanks for an indentation are written at the beginning of a line only.  Inside a body every
operation begins a line and leaves the next one to begin; inside a header, a list or a statement
the line goes on.  So from the open constructs it is known whether a line has just begun
(`startsLine`), and no action indents within a line (`linesUp_of_legal`).
-/
import JavaCompanion.Proofs.Emitter.Transition

namespace JavaCompanion
namespace Emitter

/-! ## Actions -/

/-- Whether a line has just begun after the action, given whether one has before.  An indentation
within a line has no answer. -/
def Action.begun (begun : Bool) : Action → Option Bool
  | .write _ | .writeValue _ | .modifiers _ | .joined _ _ => some false
  | .lineEnd => some true
  | .indent => if begun then some true else none
  | _ => some begun

def begunAfter (begun : Bool) (as : List Action) : Option Bool := as.foldlM Action.begun begun

theorem begunAfter_append {begun middle : Bool} {as : List Action}
    (h : begunAfter begun as = some middle) (more : List Action) :
    begunAfter begun (as ++ more) = begunAfter middle more := by
  unfold begunAfter at h ⊢
  rw [List.foldlM_append, h]
  rfl

namespace Operation

theorem begunAfter_generatedLine (marker : Value) (provenance : String) :
    begunAfter true (generatedLine marker provenance) = some true := by
  unfold generatedLine
  split <;> rfl

theorem begunAfter_commentLines (text : Value) :
    begunAfter true (commentLines text) = some true := by
  unfold commentLines
  split
  · next s _ =>
    induction Text.splitLines s with
    | nil => rfl
    | cons line rest ih =>
      have hline : begunAfter true (commentLine line) = some true := rfl
      rw [List.flatMap_cons, begunAfter_append hline, ih]
  · rfl

theorem exists_begunAfter_throwsFrom (thrown : List Value) :
    ∃ b, begunAfter true (throwsFrom thrown) = some b := by
  fun_induction throwsFrom thrown with
  | case1 => exact ⟨true, rfl⟩
  | case2 t => exact ⟨false, rfl⟩
  | case3 t rest _ ih =>
    obtain ⟨b, hb⟩ := ih
    have hfirst : begunAfter true [.indent, .writeValue t, .write ",", .lineEnd] = some true := rfl
    exact ⟨b, by rw [begunAfter_append hfirst, hb]⟩

theorem exists_begunAfter_throwsActions (thrown : List Value) :
    ∃ b, begunAfter false (throwsActions thrown) = some b := by
  unfold throwsActions
  split
  · exact ⟨false, rfl⟩
  · obtain ⟨b, hb⟩ := exists_begunAfter_throwsFrom thrown
    have hopening : begunAfter false [.write " throws", .lineEnd] = some true := rfl
    exact ⟨b, by rw [begunAfter_append hopening, hb]⟩

theorem exists_begunAfter_argumentLines (begun : Bool) (arguments : List Value) :
    ∃ b, begunAfter begun (argumentLines arguments) = some b := by
  fun_induction argumentLines arguments generalizing begun with
  | case1 => exact ⟨begun, rfl⟩
  | case2 a => exact ⟨false, rfl⟩
  | case3 a rest _ ih =>
    obtain ⟨b, hb⟩ := ih false
    have hfirst : begunAfter begun [.lineEnd, .indent, .writeValue a, .write ","] = some false :=
      rfl
    exact ⟨b, by rw [begunAfter_append hfirst, hb]⟩

theorem exists_begunAfter_extendsActions (extended : Value) :
    ∃ b, begunAfter false (extendsActions extended) = some b := by
  unfold extendsActions
  split <;> exact ⟨false, rfl⟩

theorem exists_begunAfter_parameterLine (begun : Bool) (annotations ms : Value)
    (declared : String) :
    ∃ b, begunAfter begun (parameterLine annotations ms declared) = some b := by
  unfold parameterLine
  split
  · exact ⟨begun, rfl⟩
  · split <;> exact ⟨false, rfl⟩

end Operation

/-! ## Frames -/

/-- Whether operations at the place begin a line. -/
def lineStartsAt : Place → Bool
  | some .classHeader | some .parameters | some .arguments | some .statement => false
  | _ => true

def startsLine (frames : List Frame) : Bool := lineStartsAt (placeOf frames)

/-- A call inside a statement stands on that statement. -/
def Stacked : List Frame → Prop
  | [] => True
  | f :: rest => (f.inline = true → placeOf rest = some .statement) ∧ Stacked rest

theorem placeOf_markTop (m : Mark) (frames : List Frame) :
    placeOf (markTop m frames) = placeOf frames := by
  cases frames with
  | nil => rfl
  | cons f rest => cases m <;> rfl

theorem Stacked.markTop {frames : List Frame} (h : Stacked frames) (m : Mark) :
    Stacked (markTop m frames) := by
  cases frames with
  | nil => exact h
  | cons f rest => cases m <;> exact h

theorem Stacked.tail {frames : List Frame} (h : Stacked frames) : Stacked frames.tail := by
  cases frames with
  | nil => exact h
  | cons f rest => exact h.2

theorem Stacked.placeOf_tail {frames : List Frame} (h : Stacked frames)
    (hinline : (innermost frames).inline = true) : placeOf frames.tail = some .statement := by
  cases frames with
  | nil => exact nomatch hinline
  | cons f rest => exact h.1 hinline

theorem Stacked.push {frames : List Frame} (h : Stacked frames) {f : Frame}
    (hf : f.inline = false) : Stacked (f :: frames) :=
  ⟨fun hinline => absurd hinline (by rw [hf]; exact Bool.false_ne_true), h⟩

theorem Stacked.callFrames {frames : List Frame} (h : Stacked frames) (target : String) :
    Stacked (callFrames ((innermost frames).context == .statement) target frames) := by
  cases hcontext : ((innermost frames).context == .statement) with
  | false => exact h.push rfl
  | true =>
    refine ⟨fun _ => ?_, h.markTop .begun⟩
    show placeOf (Emitter.markTop .begun frames) = some .statement
    rw [placeOf_markTop]
    cases frames with
    | nil => exact absurd hcontext (by decide)
    | cons f rest => exact congrArg some (beq_iff_eq.mp hcontext)

theorem Stacked.after {frames : List Frame} (h : Stacked frames) (op : Operation) :
    Stacked (op.after frames) := by
  cases op with
  | classExtends | parameter | argument | newInstance => exact h.markTop _
  | classImplements names =>
    simp only [Operation.after]
    split
    · exact h
    · exact h.markTop _
  | classEnd | bodyStart => exact h.tail.push rfl
  | interfaceEnd | blockEnd | bodiless | callEnd | statementEnd | loopEnd => exact h.tail
  | superCallStart name | callStart name => exact h.callFrames _
  | classStart | interfaceStart | constructorStart | methodStart | superConstructorStart
  | declarationStart | returnStart | loopStart => exact h.push rfl
  | _ => exact h

/-! ## Operations -/

theorem startsLine_markTop (m : Mark) (frames : List Frame) :
    startsLine (markTop m frames) = startsLine frames := by
  rw [startsLine, placeOf_markTop, startsLine]

theorem context_of_placeOf {frames : List Frame} {c : Context} (h : placeOf frames = some c) :
    (innermost frames).context = c := by
  cases frames with
  | nil => exact nomatch h
  | cons f rest => exact Option.some.inj h

theorem startsLine_of_body {frames : List Frame} (h : placeOf frames ∈ Operation.bodies) :
    startsLine frames = true := by
  have hstarts : ∀ place ∈ Operation.bodies, lineStartsAt place = true := by decide
  exact hstarts _ h

/-- Whether a text is written as it is, wherever the emitter stands. -/
def Operation.isRaw : Operation → Bool
  | .raw _ => true
  | _ => false

/-- Whether the operation begins a line, where its place does not decide it. -/
def Operation.begins : Operation → Option Bool
  | .superCallStart _ | .callStart _ | .raw _ => none
  | .classExtends _ | .classImplements _ | .classEnd | .parameter .. | .bodyStart _
  | .bodiless _ | .argument _ | .callEnd | .newInstance .. | .statementEnd => some false
  | _ => some true

section Actions

variable {style : Style} {frames : List Frame} {op : Operation}

theorem startsLine_of_begins {b : Bool} (h : op.begins = some b)
    (hplaced : op.places.contains (placeOf frames) = true) : startsLine frames = b := by
  have hplaces : ∀ place ∈ op.places, lineStartsAt place = b := by
    cases op <;> cases h <;> simp [Operation.places, Operation.bodies, lineStartsAt]
  exact hplaces _ (List.contains_iff_mem.mp hplaced)

/-- The operation does not indent within a line, and where the next one begins a line, one has
just begun. -/
def LinesUp (style : Style) (frames : List Frame) (op : Operation) : Prop :=
  ∃ begun, begunAfter (startsLine frames) (op.actions style (innermost frames)) = some begun
    ∧ (startsLine (op.after frames) = true → begun = true)

/-- An operation that begins a line and leaves the next one to begin. -/
theorem linesUp_of_line (h : startsLine frames = true)
    (hactions : begunAfter true (op.actions style (innermost frames)) = some true) :
    LinesUp style frames op :=
  ⟨true, by rw [h, hactions], fun _ => rfl⟩

/-- An operation that begins a line in which a construct goes on. -/
theorem linesUp_of_start {b : Bool} (h : startsLine frames = true)
    (hactions : begunAfter true (op.actions style (innermost frames)) = some b)
    (hafter : startsLine (op.after frames) = false) : LinesUp style frames op :=
  ⟨b, by rw [h, hactions], fun hstarts => absurd hstarts (by rw [hafter]; nofun)⟩

/-- An operation within a line, which goes on after it. -/
theorem linesUp_of_inner {b : Bool} (h : startsLine frames = false)
    (hactions : begunAfter false (op.actions style (innermost frames)) = some b)
    (hafter : startsLine (op.after frames) = startsLine frames) : LinesUp style frames op :=
  ⟨b, by rw [h, hactions], fun hstarts => absurd hstarts (by rw [hafter, h]; nofun)⟩

/-- An operation within a line that it ends. -/
theorem linesUp_of_end (h : startsLine frames = false)
    (hactions : begunAfter false (op.actions style (innermost frames)) = some true) :
    LinesUp style frames op :=
  ⟨true, by rw [h, hactions], fun _ => rfl⟩

theorem linesUp_of_call {target : String} {inStatement : Bool}
    (hactions : op.actions style (innermost frames) = Operation.callActions inStatement target)
    (hafter : startsLine (op.after frames) = false)
    (h : inStatement = false → startsLine frames = true) : LinesUp style frames op := by
  refine ⟨false, ?_, fun hstarts => absurd hstarts (by rw [hafter]; nofun)⟩
  rw [hactions]
  cases inStatement with
  | true => rfl
  | false =>
    rw [h rfl]
    rfl

/-- Every legal operation keeps lines and indentations together. -/
theorem linesUp_of_legal (hstacked : Stacked frames) (hraw : op.isRaw = false)
    (hplaced : op.places.contains (placeOf frames) = true)
    (hadmits : op.admits (innermost frames) = true) : LinesUp style frames op := by
  have hstart := fun {b} h => startsLine_of_begins (b := b) h hplaced
  cases op with
  | raw text => cases hraw
  | packageDeclaration name =>
    refine linesUp_of_line (hstart rfl) ?_
    simp only [Operation.actions]
    split <;> rfl
  | headerComment text =>
    refine linesUp_of_line (hstart rfl) ?_
    have hopening : begunAfter true [.indent, .write "/*", .lineEnd] = some true := rfl
    simp only [Operation.actions, List.append_assoc]
    rw [begunAfter_append hopening, begunAfter_append (Operation.begunAfter_commentLines text)]
    rfl
  | annotate | field | declaration | assignment | returnValue | loopStart | loopEnd
  | interfaceEnd | blockEnd =>
    exact linesUp_of_line (hstart rfl) rfl
  | classStart name provenance ms =>
    refine linesUp_of_start (b := false) (hstart rfl) ?_ rfl
    simp only [Operation.actions]
    rw [begunAfter_append (Operation.begunAfter_generatedLine style.generatedMarker provenance)]
    rfl
  | interfaceStart name provenance ms extended =>
    refine linesUp_of_line (hstart rfl) ?_
    have hname : begunAfter true [.indent, .modifiers ms, .write ("interface " ++ name)]
        = some false := rfl
    obtain ⟨b, hextends⟩ := Operation.exists_begunAfter_extendsActions extended
    simp only [Operation.actions, List.append_assoc]
    rw [begunAfter_append (Operation.begunAfter_generatedLine style.generatedMarker provenance),
      begunAfter_append hname, begunAfter_append hextends]
    rfl
  | constructorStart | methodStart | superConstructorStart | declarationStart | returnStart =>
    exact linesUp_of_start (hstart rfl) rfl rfl
  | classExtends name =>
    simp only [Operation.admits, Bool.and_eq_true, Bool.not_eq_true'] at hadmits
    refine linesUp_of_inner (b := false) (hstart rfl) ?_ (startsLine_markTop _ _)
    simp only [Operation.actions, hadmits.1, hadmits.2]
    rfl
  | classImplements names =>
    simp only [Operation.admits, Bool.not_eq_true'] at hadmits
    refine linesUp_of_inner (b := false) (hstart rfl) ?_ ?_
    · simp only [Operation.actions, hadmits, Bool.false_eq_true, if_false]
      split <;> rfl
    · simp only [Operation.after]
      split
      · rfl
      · exact startsLine_markTop _ _
  | classEnd | statementEnd =>
    exact linesUp_of_end (hstart rfl) rfl
  | parameter annotations type name ms =>
    have hseparator : begunAfter false ((if (innermost frames).first then [] else [.write ","])
        ++ [.mark .begun]) = some false := by split <;> rfl
    obtain ⟨b, hline⟩ :=
      Operation.exists_begunAfter_parameterLine false annotations ms (type ++ " " ++ name)
    refine linesUp_of_inner (b := b) (hstart rfl) ?_ (startsLine_markTop _ _)
    rw [Operation.actions, begunAfter_append hseparator, hline]
  | bodyStart thrown =>
    simp only [Operation.admits, Bool.not_eq_true'] at hadmits
    refine linesUp_of_end (hstart rfl) ?_
    have hopening : begunAfter false [.write ")"] = some false := rfl
    obtain ⟨b, hthrows⟩ := Operation.exists_begunAfter_throwsActions thrown
    simp only [Operation.actions, hadmits, Bool.false_eq_true, if_false, List.append_assoc]
    rw [begunAfter_append hopening, begunAfter_append hthrows]
    rfl
  | bodiless thrown =>
    refine linesUp_of_end (hstart rfl) ?_
    have hopening : begunAfter false [.write ")"] = some false := rfl
    obtain ⟨b, hthrows⟩ := Operation.exists_begunAfter_throwsActions thrown
    simp only [Operation.actions, List.append_assoc]
    rw [begunAfter_append hopening, begunAfter_append hthrows]
    rfl
  | superCallStart | callStart =>
    refine linesUp_of_call rfl rfl fun hcontext => ?_
    -- Outside a statement the call stands in a body, where it begins a line.
    rcases List.mem_cons.mp (List.contains_iff_mem.mp hplaced) with hplace | hbody
    · rw [context_of_placeOf hplace] at hcontext
      cases hcontext
    · exact startsLine_of_body hbody
  | argument value =>
    refine linesUp_of_inner (b := false) (hstart rfl) ?_ (startsLine_markTop _ _)
    simp only [Operation.actions]
    split <;> rfl
  | callEnd =>
    have hstarts : startsLine frames = false := hstart rfl
    cases hinline : (innermost frames).inline with
    | false =>
      refine linesUp_of_end hstarts ?_
      simp only [Operation.actions, hinline]
      rfl
    | true =>
      refine linesUp_of_inner (b := false) hstarts ?_ ?_
      · simp only [Operation.actions, hinline]
        rfl
      · show startsLine frames.tail = startsLine frames
        rw [hstarts, startsLine, hstacked.placeOf_tail hinline]
        rfl
  | newInstance name arguments =>
    simp only [Operation.admits] at hadmits
    have hopening : begunAfter false
        [.mark .begun, .write ("new " ++ name ++ "("), .deepen 2] = some false := rfl
    obtain ⟨b, hlines⟩ := Operation.exists_begunAfter_argumentLines false arguments
    refine linesUp_of_inner (b := false) (hstart rfl) ?_ (startsLine_markTop _ _)
    simp only [Operation.actions, hadmits, Bool.not_true, Bool.false_eq_true, if_false,
      List.append_assoc]
    rw [begunAfter_append hopening, begunAfter_append hlines]
    rfl

end Actions

end Emitter
end JavaCompanion
