/-
Operations as transitions between the constructs that are open.

An operation is legal where its place and the flags of the innermost frame allow it, and it
then leads to frames that it determines (`next`).  Between operations the depth is the sum of
what the open constructs indent (`foldl_actions`).
-/
import JavaCompanion.Proofs.Emitter.Skeleton

namespace JavaCompanion
namespace Emitter

open Java

/-- The levels by which the open constructs indent together. -/
def total : List Frame → Nat
  | [] => 0
  | f :: rest => f.indent + total rest

/-- The frame that operations see. -/
def innermost (frames : List Frame) : Frame := frames.head?.getD outermost

def placeOf (frames : List Frame) : Place := frames.head?.map (·.context)

@[simp] theorem total_nil : total [] = 0 := rfl

@[simp] theorem total_cons (f : Frame) (rest : List Frame) :
    total (f :: rest) = f.indent + total rest := rfl

@[simp] theorem total_markTop (m : Mark) (frames : List Frame) :
    total (markTop m frames) = total frames := by
  cases frames with
  | nil => rfl
  | cons f rest => cases m <;> simp [markTop, Frame.mark]

/-! ## The transition -/

def callFrames (inStatement : Bool) (target : String) (frames : List Frame) : List Frame :=
  { context := .arguments, label := target, inline := inStatement }
    :: (if inStatement then markTop .begun frames else frames)

namespace Operation

/-- Whether the innermost frame lets the operation through where it has its place. -/
def admits (frame : Frame) : Operation → Bool
  | .classExtends _ => !frame.extended && !frame.implemented
  | .classImplements _ => !frame.implemented
  | .bodyStart _ => !frame.bodiless
  | .newInstance .. => frame.first
  | _ => true

def after (frames : List Frame) : Operation → List Frame
  | .classStart name _ _ => { context := .classHeader, label := name } :: frames
  | .classExtends _ => markTop .extended frames
  | .classImplements names => if names.isEmpty then frames else markTop .implemented frames
  | .classEnd =>
    { context := .classBody, label := (innermost frames).label, indent := 1 } :: frames.tail
  | .interfaceStart name _ _ _ =>
    { context := .interfaceBody, label := name, indent := 1 } :: frames
  | .interfaceEnd | .blockEnd | .bodiless _ | .callEnd | .statementEnd | .loopEnd => frames.tail
  | .constructorStart name _ => { context := .parameters, label := name, indent := 2 } :: frames
  | .methodStart _ name _ =>
    { context := .parameters, label := name, indent := 2,
      bodiless := (innermost frames).context == .interfaceBody } :: frames
  | .parameter .. | .argument _ | .newInstance .. => markTop .begun frames
  | .bodyStart _ =>
    { context := .methodBody, label := (innermost frames).label, indent := 1 } :: frames.tail
  | .superConstructorStart => { context := .arguments, label := "super" } :: frames
  | .superCallStart name =>
    callFrames ((innermost frames).context == .statement) ("super." ++ name) frames
  | .callStart target => callFrames ((innermost frames).context == .statement) target frames
  | .declarationStart _ name _ => { context := .statement, label := name } :: frames
  | .returnStart => { context := .statement, label := "return" } :: frames
  | .loopStart _ name _ _ => { context := .loopBody, label := name, indent := 1 } :: frames
  | _ => frames

/-- The levels by which the operation can deepen the indentation before it ends. -/
def rise : Operation → Nat
  | .classEnd | .interfaceStart .. | .bodyStart _ | .loopStart .. => 1
  | .constructorStart .. | .methodStart .. | .newInstance .. => 2
  | _ => 0

end Operation

/-- The frames to which a legal operation leads. -/
def next (frames : List Frame) (op : Operation) : Option (List Frame) :=
  if op.places.contains (placeOf frames) && op.admits (innermost frames) then
    some (op.after frames)
  else none

/-- As `next`, where the indentation stays within `n` levels. -/
def nextWithin (n : Nat) (frames : List Frame) (op : Operation) : Option (List Frame) :=
  if total frames + op.rise ≤ n then next frames op else none

/-- The frames to which legal operations lead one after another. -/
def nextAll (n : Nat) (frames : List Frame) (ops : List Operation) : Option (List Frame) :=
  ops.foldlM (nextWithin n) frames

/-! ## Actions that only write -/

/-- An action that leaves the skeleton alone. -/
def Action.Writes (a : Action) : Prop := (∀ s, a.skeleton s = s) ∧ a.rise = 0

section Segments

variable {Q : Action → Prop}

/-- What holds of writing, of line ends and of indentations, as most of what an operation does
is one of these. -/
structure Common (Q : Action → Prop) : Prop where
  write : ∀ s, Q (.write s)
  lineEnd : Q .lineEnd
  indent : Q .indent

theorem forall_throwsFrom (hQ : Common Q) {thrown : List Value}
    (hvalue : ∀ v ∈ thrown, Q (.writeValue v)) : ∀ a ∈ Operation.throwsFrom thrown, Q a := by
  fun_induction Operation.throwsFrom thrown with
  | case1 => simp
  | case2 t => simp [hQ.indent, hvalue t List.mem_cons_self]
  | case3 t rest _ ih =>
    have hrest := ih fun v hv => hvalue v (List.mem_cons_of_mem t hv)
    simp only [List.cons_append, List.nil_append, List.forall_mem_cons]
    exact ⟨hQ.indent, hvalue t List.mem_cons_self, hQ.write ",", hQ.lineEnd, hrest⟩

theorem forall_throwsActions (hQ : Common Q) {thrown : List Value}
    (hvalue : ∀ v ∈ thrown, Q (.writeValue v)) : ∀ a ∈ Operation.throwsActions thrown, Q a := by
  unfold Operation.throwsActions
  split
  · simp
  · simp only [List.cons_append, List.nil_append, List.forall_mem_cons]
    exact ⟨hQ.write _, hQ.lineEnd, forall_throwsFrom hQ hvalue⟩

theorem forall_argumentLines (hQ : Common Q) {arguments : List Value}
    (hvalue : ∀ v ∈ arguments, Q (.writeValue v)) :
    ∀ a ∈ Operation.argumentLines arguments, Q a := by
  fun_induction Operation.argumentLines arguments with
  | case1 => simp
  | case2 t => simp [hQ.lineEnd, hQ.indent, hvalue t List.mem_cons_self]
  | case3 t rest _ ih =>
    have hrest := ih fun v hv => hvalue v (List.mem_cons_of_mem t hv)
    simp only [List.cons_append, List.nil_append, List.forall_mem_cons]
    exact ⟨hQ.lineEnd, hQ.indent, hvalue t List.mem_cons_self, hQ.write ",", hrest⟩

theorem forall_generatedLine (hQ : Common Q) (marker : Value) (provenance : String) :
    ∀ a ∈ Operation.generatedLine marker provenance, Q a := by
  unfold Operation.generatedLine
  split
  · simp [hQ.indent, hQ.write, hQ.lineEnd]
  · simp

theorem forall_commentLines (hQ : Common Q) {text : Value}
    (hfail : ∀ m, text.asMember = .error m → Q (.fail (.mismatch m))) :
    ∀ a ∈ Operation.commentLines text, Q a := by
  unfold Operation.commentLines
  split
  · intro a ha
    obtain ⟨line, -, ha⟩ := List.mem_flatMap.mp ha
    simp only [Operation.commentLine, List.mem_cons, List.not_mem_nil, or_false] at ha
    rcases ha with rfl | rfl | rfl
    · exact hQ.indent
    · exact hQ.write _
    · exact hQ.lineEnd
  · next m hm => simp [hfail m hm]

theorem forall_extendsActions (hQ : Common Q) {extended : Value}
    (hfail : ∀ m, extended.items = .error m → Q (.fail (.mismatch m)))
    (hjoined : ∀ names, extended.items = .ok names → Q (.joined ", " (.list names))) :
    ∀ a ∈ Operation.extendsActions extended, Q a := by
  unfold Operation.extendsActions
  split
  · next m hm => simp [hfail m hm]
  · simp
  · next names _ hnames => simp [hQ.write, hjoined names hnames]

theorem forall_parameterLine (hQ : Common Q) {annotations ms : Value} {declared : String}
    (hfail : ∀ f, Operation.joinedAnnotations annotations = .error f → Q (.fail f))
    (hmodifiers : Q (.modifiers ms)) :
    ∀ a ∈ Operation.parameterLine annotations ms declared, Q a := by
  unfold Operation.parameterLine
  split
  · next f hf => simp [hfail f hf]
  · split <;> simp [hQ.write, hQ.lineEnd, hQ.indent, hmodifiers]

end Segments

theorem common_writes : Common Action.Writes :=
  ⟨fun _ => ⟨fun _ => rfl, rfl⟩, ⟨fun _ => rfl, rfl⟩, ⟨fun _ => rfl, rfl⟩⟩

theorem foldl_of_writes {as : List Action} (h : ∀ a ∈ as, a.Writes) (s : Skeleton) :
    as.foldl Action.skeleton s = s := by
  induction as with
  | nil => rfl
  | cons a rest ih =>
    rw [List.foldl_cons, (h a List.mem_cons_self).1 s]
    exact ih fun b hb => h b (List.mem_cons_of_mem a hb)

theorem rises_of_writes {as : List Action} (h : ∀ a ∈ as, a.Writes) : rises as = 0 := by
  induction as with
  | nil => rfl
  | cons a rest ih =>
    have hrest := ih fun b hb => h b (List.mem_cons_of_mem a hb)
    rw [rises_cons, (h a List.mem_cons_self).2, hrest]

theorem writes_throwsActions (thrown : List Value) :
    ∀ a ∈ Operation.throwsActions thrown, a.Writes :=
  forall_throwsActions common_writes fun _ _ => ⟨fun _ => rfl, rfl⟩

theorem writes_argumentLines (arguments : List Value) :
    ∀ a ∈ Operation.argumentLines arguments, a.Writes :=
  forall_argumentLines common_writes fun _ _ => ⟨fun _ => rfl, rfl⟩

theorem writes_generatedLine (marker : Value) (provenance : String) :
    ∀ a ∈ Operation.generatedLine marker provenance, a.Writes :=
  forall_generatedLine common_writes marker provenance

theorem writes_commentLines (text : Value) : ∀ a ∈ Operation.commentLines text, a.Writes :=
  forall_commentLines common_writes fun _ _ => ⟨fun _ => rfl, rfl⟩

theorem writes_extendsActions (extended : Value) :
    ∀ a ∈ Operation.extendsActions extended, a.Writes :=
  forall_extendsActions common_writes (fun _ _ => ⟨fun _ => rfl, rfl⟩)
    (fun _ _ => ⟨fun _ => rfl, rfl⟩)

theorem writes_parameterLine (annotations ms : Value) (declared : String) :
    ∀ a ∈ Operation.parameterLine annotations ms declared, a.Writes :=
  forall_parameterLine common_writes (fun _ _ => ⟨fun _ => rfl, rfl⟩) ⟨fun _ => rfl, rfl⟩

/-! ## What an operation does to the frames -/

/-- The actions of an operation that is let through lead to the frames after it, at the depth
that these frames indent. -/
theorem foldl_actions {style : Style} {frames : List Frame} {op : Operation}
    (h : op.admits (innermost frames) = true) :
    (op.actions style (innermost frames)).foldl Action.skeleton ⟨frames, total frames⟩
      = ⟨op.after frames, total (op.after frames)⟩ := by
  cases op with
  | packageDeclaration name =>
    simp only [Operation.actions]
    split <;> rfl
  | headerComment text =>
    simp [Operation.actions, Operation.after, Action.skeleton,
      foldl_of_writes (writes_commentLines text)]
  | classStart name provenance ms =>
    simp [Operation.actions, Operation.after, Action.skeleton,
      foldl_of_writes (writes_generatedLine style.generatedMarker provenance)]
  | classExtends name =>
    simp only [Operation.admits, Bool.and_eq_true, Bool.not_eq_true'] at h
    simp [Operation.actions, h.1, h.2, Operation.after, Action.skeleton]
  | classImplements names =>
    simp only [Operation.admits, Bool.not_eq_true'] at h
    simp only [Operation.actions, h, Operation.after, Bool.false_eq_true, if_false]
    split
    · rfl
    · simp [Action.skeleton]
  | classEnd =>
    cases frames <;> simp [Operation.actions, Operation.after, Action.skeleton, Nat.add_comm]
  | interfaceStart name provenance ms extended =>
    simp [Operation.actions, Operation.after, Action.skeleton, Nat.add_comm,
      foldl_of_writes (writes_generatedLine style.generatedMarker provenance),
      foldl_of_writes (writes_extendsActions extended)]
  | interfaceEnd | blockEnd | statementEnd | loopEnd =>
    cases frames <;> simp [Operation.actions, Operation.after, Action.skeleton]
  | callEnd =>
    simp only [Operation.actions, Operation.after]
    cases frames <;> split <;> simp [Action.skeleton]
  | parameter annotations type name ms =>
    simp only [Operation.actions, Operation.after]
    split <;> simp [Action.skeleton,
      foldl_of_writes (writes_parameterLine annotations ms (type ++ " " ++ name))]
  | bodyStart thrown =>
    simp only [Operation.admits, Bool.not_eq_true'] at h
    cases frames <;> simp [Operation.actions, Operation.after, Action.skeleton, h,
      foldl_of_writes (writes_throwsActions thrown), Nat.add_comm]
  | bodiless thrown =>
    cases frames <;> simp [Operation.actions, Operation.after, Action.skeleton,
      foldl_of_writes (writes_throwsActions thrown)]
  | superCallStart name | callStart name =>
    simp only [Operation.actions, Operation.after, Operation.callActions, callFrames]
    split <;> simp [Action.skeleton]
  | argument value =>
    simp only [Operation.actions, Operation.after]
    split <;> simp [Action.skeleton]
  | newInstance name arguments =>
    simp only [Operation.admits] at h
    simp [Operation.actions, Operation.after, Action.skeleton, h,
      foldl_of_writes (writes_argumentLines arguments)]
  | constructorStart name ms | methodStart type name ms | loopStart type name iterable ms =>
    simp [Operation.actions, Operation.after, Action.skeleton, Nat.add_comm]
  | superConstructorStart | declarationStart type name ms | returnStart =>
    simp [Operation.actions, Operation.after, Action.skeleton]
  | annotate _ | field _ _ _ _ | declaration _ _ _ _ | assignment _ _ | returnValue _ | raw _ =>
    rfl

theorem rises_actions (style : Style) (frame : Frame) (op : Operation) :
    rises (op.actions style frame) ≤ op.rise := by
  cases op with
  | headerComment text =>
    simp [Operation.actions, rises_of_writes (writes_commentLines text), Action.rise]
  | classStart name provenance ms =>
    simp [Operation.actions, Action.rise,
      rises_of_writes (writes_generatedLine style.generatedMarker provenance)]
  | interfaceStart name provenance ms extended =>
    simp [Operation.actions, Operation.rise, Action.rise,
      rises_of_writes (writes_generatedLine style.generatedMarker provenance),
      rises_of_writes (writes_extendsActions extended)]
  | packageDeclaration _ | argument _ | callEnd =>
    simp only [Operation.actions]
    split <;> simp [Action.rise]
  | classExtends _ | classImplements _ =>
    simp only [Operation.actions]
    split
    · simp [Action.rise, Operation.misuse]
    · split <;> simp [Action.rise, Operation.misuse]
  | parameter annotations type name ms =>
    simp only [Operation.actions]
    split <;> simp [Action.rise,
      rises_of_writes (writes_parameterLine annotations ms (type ++ " " ++ name))]
  | bodyStart thrown =>
    simp only [Operation.actions]
    split <;> simp [Action.rise, Operation.rise, Operation.misuse,
      rises_of_writes (writes_throwsActions thrown)]
  | bodiless thrown =>
    simp [Operation.actions, Action.rise, rises_of_writes (writes_throwsActions thrown)]
  | newInstance name arguments =>
    simp only [Operation.actions]
    split <;> simp [Action.rise, Operation.rise, Operation.misuse,
      rises_of_writes (writes_argumentLines arguments)]
  | superCallStart name | callStart name =>
    simp only [Operation.actions, Operation.callActions]
    split <;> simp [Action.rise]
  | _ => simp [Operation.actions, Operation.rise, Action.rise]

/-! ## Operations that succeed -/

theorem actions_of_not_admits (style : Style) {frame : Frame} {op : Operation}
    (h : op.admits frame = false) : ∃ m, op.actions style frame = [Operation.misuse m] := by
  cases op with
  | classExtends name =>
    simp only [Operation.admits, Bool.and_eq_false_iff, Bool.not_eq_false'] at h
    simp only [Operation.actions]
    split
    · exact ⟨_, rfl⟩
    · next hextended => exact ⟨_, if_pos (h.resolve_left hextended)⟩
  | classImplements names =>
    simp only [Operation.admits, Bool.not_eq_false'] at h
    exact ⟨_, if_pos h⟩
  | bodyStart thrown =>
    simp only [Operation.admits, Bool.not_eq_false'] at h
    exact ⟨_, if_pos h⟩
  | newInstance name arguments =>
    simp only [Operation.admits] at h
    exact ⟨_, if_pos (by rw [h]; rfl)⟩
  | _ => exact nomatch h

theorem run_of_perform {e e' : Emitter} {op : Operation} (h : e.perform op = (e', none)) :
    e.run (op.actions e.style (innermost e.frames)) = (e', none) := by
  unfold perform at h
  split at h
  · exact h
  · exact nomatch h

/-- An operation that succeeds was legal, and has led to the frames after it. -/
structure Leads (e : Emitter) (op : Operation) (e' : Emitter) : Prop where
  placed : op.places.contains (placeOf e.frames) = true
  admitted : op.admits (innermost e.frames) = true
  frames_eq : e'.frames = op.after e.frames
  depth_eq : e'.depth = total e'.frames
  continues : Continues e e'

theorem leads_of_perform {e e' : Emitter} {op : Operation} (hdepth : e.depth = total e.frames)
    (h : e.perform op = (e', none)) : Leads e op e' := by
  unfold perform at h
  split at h
  · next hplaced =>
    cases hadmits : op.admits (innermost e.frames) with
    | false =>
      obtain ⟨m, hm⟩ := actions_of_not_admits e.style hadmits
      have hrun : e.run (op.actions e.style (innermost e.frames)) = (e', none) := h
      rw [hm] at hrun
      cases hrun
    | true =>
      obtain ⟨hskeleton, hcont⟩ := run_skeleton h
      have hstart : e.skeleton = ⟨e.frames, total e.frames⟩ := by rw [skeleton, hdepth]
      rw [hstart] at hskeleton
      obtain ⟨hframes, hdepth'⟩ := Skeleton.mk.inj (hskeleton.trans (foldl_actions hadmits))
      exact ⟨hplaced, hadmits, hframes, by rw [hdepth', hframes], hcont⟩
  · cases h

end Emitter
end JavaCompanion
