/-
The format of files lays out what is generated, and changes nothing else.

What is planned for a type, and the header comment, do not depend on the indentation width and the
line end, and the class of a plan is written by the same operations in every format.  So if the
texts that reach the file stay on their lines, two formats get files of the same lines up to their
indentation, or the same fault (`answer_formatted`).  Only an indentation of which no text can be
made stops one of them alone.
-/
import JavaCompanion.Proofs.Emitter.Formats
import JavaCompanion.Proofs.Generation.Answer
import JavaCompanion.Proofs.Generation.Emission
import JavaCompanion.Proofs.Generation.Layout

namespace JavaCompanion

def Config.formatted (c : Config) (f : Emitter.Format) : Config :=
  { c with indentWidth := .int f.width, lineEnding := .text f.lineEnd.text }

namespace Generation

open Descriptor Emitter Text

def Generator.formatted (g : Generator) (f : Format) : Generator :=
  { g with config := g.config.formatted f }

/-! ## What is written for a plan -/

namespace Plan

/-- The operations that write the class of a plan. -/
def operations (config : Config) : Plan → List Operation
  | .factory p => Factory.operations config p
  | .observable p =>
    Observable.headOperations p ++
      match Observable.listType config with
      | .ok listType => Observable.bodyOperations p listType
      | .error _ => []

/-- The texts of a type and of a configuration that reach the file of a plan, but for those of its
header. -/
def texts (config : Config) (p : Plan) : List String :=
  config.generatedMarker.display :: p.outline.package
    :: (p.operations config).flatMap Operation.texts

end Plan

theorem oneLine_of_texts {op : Operation} (h : ∀ s ∈ op.texts, OneLine s) : op.OneLine := by
  cases op with
  | headerComment text => trivial
  | _ => exact h

theorem isRaw_factory_operations (config : Config) (p : Factory.Plan) :
    (Factory.operations config p).all (!·.isRaw) = true := by
  simp [Factory.operations, Factory.constructorOperations, Factory.creationOperations,
    classDeclaration, annotationIf, fieldAssignment, Factory.Binding.field,
    Factory.Binding.parameterOperation, Factory.Binding.assignment, Factory.parameterOperation,
    Operation.isRaw]

theorem isRaw_observable_headOperations (p : Observable.Plan) :
    (Observable.headOperations p).all (!·.isRaw) = true := by
  simp [Observable.headOperations, Observable.Observed.field, Operation.isRaw]

theorem isRaw_wrapperOperations (oldValue : Bool) (first : Observable.Observed)
    (others : List Observable.Observed) :
    (Observable.wrapperOperations oldValue first others).all (!·.isRaw) = true := by
  cases oldValue <;> cases hvoid : first.mutator.method.isVoid <;>
    simp [Observable.wrapperOperations, Observable.parameterOperation, Observable.readValue,
      Observable.superCall, Observable.passOn, Observable.fireCall, Operation.isRaw, hvoid]

theorem isRaw_observable_bodyOperations (p : Observable.Plan) (listType : String) :
    (Observable.bodyOperations p listType).all (!·.isRaw) = true := by
  have hlistener : ∀ oldValue o,
      (Observable.listenerOperations oldValue o).all (!·.isRaw) = true := by
    rintro (_ | _) o <;> rfl
  have hinterface : ∀ o, (Observable.interfaceOperations p o).all (!·.isRaw) = true := by
    intro o
    unfold Observable.interfaceOperations Observable.changeParameters
    cases p.settings.oldValue <;> rfl
  have hconstructor : ∀ c, (Observable.constructorOperations p listType c).all (!·.isRaw)
      = true := by
    simp [Observable.constructorOperations, Observable.parameterOperation, Observable.passOn,
      fieldAssignment, Operation.isRaw]
  simp only [Observable.bodyOperations, List.all_append, List.all_flatMap, hlistener, hinterface,
    hconstructor, isRaw_wrapperOperations]
  simp [Operation.isRaw]

/-! ## Emitters in two formats -/

section Formats

variable {g : Generator} {r : Template.Renderer} {e : Element} {p : Plan} {f f' : Format}
  {opening opening' : List Operation}

theorem plan_formatted (f : Format) (hkind : g.kind = Kind.factory ∨ g.kind = Kind.observable) :
    (g.formatted f).plan e = g.plan e := by
  rcases hkind with hkind | hkind <;>
    rw [Generator.plan, Generator.plan, Generator.formatted, hkind] <;> rfl

/-- The header comment is the same in every format, as the engine is not told of it, and only the
line end behind the comment differs. -/
theorem preamble_formatted (g : Generator) (r : Template.Renderer) (o : Outline) :
    (∃ fault, ∀ f, (g.formatted f).preamble r o = .error fault)
      ∨ (∀ f, (g.formatted f).preamble r o = .ok [.packageDeclaration o.package])
      ∨ ∃ header, ∀ f, (g.formatted f).preamble r o = .ok
          [.headerComment (.text header), .raw (.text f.lineEnd.text),
            .packageDeclaration o.package] := by
  have hheader : ∀ f, (g.formatted f).header r o = g.header r o := fun _ => rfl
  have hcomments : ∀ f, (g.formatted f).config.addComments = g.config.addComments := fun _ => rfl
  unfold Generator.preamble
  simp only [hheader, hcomments]
  by_cases htruthy : g.config.addComments.truthy = true
  · simp only [if_pos htruthy]
    cases g.header r o with
    | error fault => exact .inl ⟨fault, fun _ => rfl⟩
    | ok header => exact .inr (.inr ⟨header, fun _ => rfl⟩)
  · simp only [if_neg htruthy]
    exact .inr (.inl fun _ => rfl)

/-- The texts that reach the file of a plan stay on their lines. -/
structure OneLineTexts (config : Config) (p : Plan) : Prop where
  marker : OneLine config.generatedMarker.display
  package : OneLine p.outline.package
  operations : ∀ op ∈ p.operations config, op.OneLine

theorem oneLineTexts (h : ∀ s ∈ p.texts g.config, OneLine s) : OneLineTexts g.config p where
  marker := h _ List.mem_cons_self
  package := h _ (List.mem_cons_of_mem _ List.mem_cons_self)
  operations := fun op hop => oneLine_of_texts fun s hs =>
    h s (List.mem_cons_of_mem _ (List.mem_cons_of_mem _ (List.mem_flatMap.mpr ⟨op, hop, hs⟩)))

theorem alongside_opening (hp : OneLineTexts g.config p)
    (hopening : (g.formatted f).preamble r p.outline = .ok opening)
    (hopening' : (g.formatted f').preamble r p.outline = .ok opening') :
    Alongside (Between g.style f f')
      (Emitter.emit { style := g.style.formatted f } opening)
      (Emitter.emit { style := g.style.formatted f' } opening') := by
  have hpackage : ∀ op ∈ [Operation.packageDeclaration p.outline.package],
      op.isRaw = false ∧ op.OneLine := by
    simpa [Operation.isRaw, Operation.OneLine, Operation.texts] using hp.package
  have hnew := between_new g.style f f'
  rcases preamble_formatted g r p.outline with ⟨fault, h⟩ | h | ⟨header, h⟩ <;>
    rw [h] at hopening hopening' <;> cases hopening <;> cases hopening'
  · exact alongside_emit hnew hp.marker hpackage
  · have hcomment : (Operation.headerComment (.text header)).OneLine := trivial
    rw [emit_cons, emit_cons]
    refine (alongside_perform hnew hp.marker rfl hcomment).bind fun _ _ h => ?_
    rw [emit_cons, emit_cons]
    exact (alongside_lineEnd h).bind fun _ _ h => alongside_emit h hp.marker hpackage

theorem alongside_operations {e e' : Emitter} {ops : List Operation}
    (h : Between g.style f f' e e') (hmarker : OneLine g.config.generatedMarker.display)
    (hraw : ops.all (!·.isRaw) = true) (hops : ∀ op ∈ ops, op.OneLine) :
    Alongside (Between g.style f f') (e.emit ops) (e'.emit ops) :=
  alongside_emit h hmarker fun op hop =>
    ⟨Bool.not_eq_true' _ |>.mp (List.all_eq_true.mp hraw op hop), hops op hop⟩

theorem alongside_write {e e' : Emitter} (h : Between g.style f f' e e')
    (hp : OneLineTexts g.config p) :
    Alongside (Between g.style f f') (p.write (g.config.formatted f) e)
      (p.write (g.config.formatted f') e') := by
  obtain ⟨hmarker, -, hops⟩ := hp
  cases p with
  | factory p => exact alongside_operations h hmarker (isRaw_factory_operations g.config p) hops
  | observable p =>
    obtain ⟨hhead, hbody⟩ := List.forall_mem_append.mp hops
    refine (alongside_operations h hmarker (isRaw_observable_headOperations p) hhead).bind
      fun _ _ h => ?_
    show Alongside _ (shaped (Observable.listType g.config) >>= _)
      (shaped (Observable.listType g.config) >>= _)
    cases hlist : Observable.listType g.config with
    | error m => exact .error _
    | ok listType =>
      rw [hlist] at hbody
      exact alongside_operations h hmarker (isRaw_observable_bodyOperations p listType) hbody

theorem alongside_emitted (hkind : g.kind = Kind.factory ∨ g.kind = Kind.observable)
    (hp : OneLineTexts g.config p)
    (hopening : (g.formatted f).preamble r p.outline = .ok opening)
    (hopening' : (g.formatted f').preamble r p.outline = .ok opening') :
    Alongside (Between g.style f f') ((g.formatted f).emitted opening p)
      ((g.formatted f').emitted opening' p) := by
  have hwrite : g.kind.write = Plan.write := by rcases hkind with h | h <;> rw [h] <;> rfl
  refine (alongside_opening hp hopening hopening').bind fun _ _ h => ?_
  show Alongside _ (g.kind.write _ p _) (g.kind.write _ p _)
  rw [hwrite]
  exact alongside_write h hp

/-! ## Sources in two formats -/

/-- An indentation of which no text can be made has stopped the step. -/
def Stopped (g : Generator) (x : Except Fault α) : Prop :=
  ∃ fault, x = .error fault ∧ ∃ d ≤ 4, indentation g.style d = .error fault

/-- Only widths that are far from those in use do so. -/
theorem Stopped.width {x : Except Fault α} (h : Stopped (g.formatted f) x) :
    4 * f.width < -countLimit ∨ countLimit ≤ 4 * f.width ∨ g.textLimit < 4 * f.width := by
  obtain ⟨fault, -, d, hd, hindent⟩ := h
  by_contra hnone
  rw [not_or, not_or, Int.not_lt, Int.not_le, Int.not_lt] at hnone
  obtain ⟨hlow, hhigh, htext⟩ := hnone
  obtain ⟨s, hs⟩ := @exists_indentation (g.formatted f).style f.width d rfl hlow hhigh htext hd
  rw [hs] at hindent
  exact nomatch hindent

/-- The codes have the same lines up to the blanks that these begin with.  In one width, the code
with both characters as line ends has a carriage return before every line feed of the other. -/
structure SameCode (f f' : Format) (code code' : String) : Prop where
  lines : (pieces f.lineEnd.chars code.toList).map unindented
    = (pieces f'.lineEnd.chars code'.toList).map unindented
  returns : f.width = f'.width → f.lineEnd = .lf → f'.lineEnd = .crlf →
    code'.toList = withReturns code.toList

theorem sameCode_layout {begun : Bool} {t t' : String}
    (h : SameLines (f.width = f'.width) f.lineEnd f'.lineEnd begun t t') :
    SameCode f f' (layout f.lineEnd.text t) (layout f'.lineEnd.text t') := by
  obtain ⟨ls, ls', hls, hls', hfeed, hfeed', hsame⟩ := layout_of_sameLines h
  have hpieces : ∀ {l : LineEnd} {ls : List (List Char)}, (∀ line ∈ ls, '\n' ∉ line) →
      pieces l.chars (ended l ls) = ls ++ [[]] := fun h => by
    simpa using pieces_ended (fun line hline => not_infix_of_notMem (h line hline))
      (not_infix_of_notMem List.not_mem_nil)
  rw [hls, hls']
  refine ⟨?_, fun hwidth hlf hcrlf => ?_⟩
  · have hmap : List.Forall₂ (· = ·) (ls.map unindented) (ls'.map unindented) :=
      List.forall₂_map_left_iff.mpr (List.forall₂_map_right_iff.mpr
        (hsame.imp fun _ _ h => h.unindented_eq))
    rw [List.forall₂_eq_eq_eq] at hmap
    rw [String.toList_ofList, String.toList_ofList, hpieces hfeed, hpieces hfeed',
      List.map_append, List.map_append, hmap]
  · have heq : List.Forall₂ (· = ·) ls ls' := hsame.imp fun _ _ h => h.eq_of_alike hwidth
    rw [List.forall₂_eq_eq_eq] at heq
    rw [String.toList_ofList, String.toList_ofList, hlf, hcrlf, ← heq, withReturns_ended hfeed]

theorem source_of_emitted {opening : List Operation} {written : Emitter}
    (hkind : (g.formatted f).kind = Kind.factory ∨ (g.formatted f).kind = Kind.observable)
    (hopening : (g.formatted f).preamble r p.outline = .ok opening)
    (h : (g.formatted f).emitted opening p = .ok written) :
    (g.formatted f).source r p = .ok (layout f.lineEnd.text written.text) := by
  have hlayout : ∀ l : LineEnd, layoutWith (.text l.text) written.text
      = .ok (layout l.text written.text) := by
    rintro (_ | _) <;> rfl
  rw [Generator.source_eq hopening]
  exact bind_eq_ok.mpr ⟨written, h, bind_eq_ok.mpr
    ⟨written.text, Generator.result_of_emitted hkind hopening h, hlayout f.lineEnd⟩⟩

theorem stopped_source {opening : List Operation} {fault : Fault}
    (hkind : (g.formatted f).kind = Kind.factory ∨ (g.formatted f).kind = Kind.observable)
    (hopening : (g.formatted f).preamble r p.outline = .ok opening)
    (h : (g.formatted f).emitted opening p = .error fault) (hsize : fault.IsOversize) :
    Stopped (g.formatted f) ((g.formatted f).source r p) := by
  refine ⟨fault, ?_, ?_⟩
  · rw [Generator.source_eq hopening, h]
    rfl
  · rcases Generator.emitted_fault hkind hopening h with ⟨m, rfl⟩ | hindent
    · exact absurd hsize (by simp [Fault.IsOversize])
    · exact hindent

/-- Two formats get sources of the same lines or the same fault, unless an indentation stops one of
them. -/
theorem source_formatted (r : Template.Renderer)
    (hkind : g.kind = Kind.factory ∨ g.kind = Kind.observable) (hp : OneLineTexts g.config p)
    (f f' : Format) :
    Stopped (g.formatted f) ((g.formatted f).source r p)
      ∨ Stopped (g.formatted f') ((g.formatted f').source r p)
      ∨ (∃ fault, (g.formatted f).source r p = .error fault
        ∧ (g.formatted f').source r p = .error fault)
      ∨ ∃ code code', (g.formatted f).source r p = .ok code
        ∧ (g.formatted f').source r p = .ok code'
        ∧ SameCode f f' code code' := by
  have hpreamble : (∃ fault, ∀ f, (g.formatted f).preamble r p.outline = .error fault)
      ∨ ∀ f, ∃ opening, (g.formatted f).preamble r p.outline = .ok opening := by
    rcases preamble_formatted g r p.outline with hfault | h | ⟨header, h⟩
    · exact .inl hfault
    · exact .inr fun f => ⟨_, h f⟩
    · exact .inr fun f => ⟨_, h f⟩
  rcases hpreamble with ⟨fault, h⟩ | h
  · refine .inr (.inr (.inl ⟨fault, ?_, ?_⟩)) <;> rw [Generator.source, h] <;> rfl
  · obtain ⟨opening, hopening⟩ := h f
    obtain ⟨opening', hopening'⟩ := h f'
    have hemitted := alongside_emitted hkind hp hopening hopening'
    generalize hx : (g.formatted f).emitted opening p = x at hemitted
    generalize hy : (g.formatted f').emitted opening' p = y at hemitted
    cases hemitted with
    | left hsize => exact .inl (stopped_source hkind hopening hx hsize)
    | right hsize => exact .inr (.inl (stopped_source hkind hopening' hy hsize))
    | error fault =>
      refine .inr (.inr (.inl ⟨fault, ?_, ?_⟩))
      · rw [Generator.source_eq hopening, hx]
        rfl
      · rw [Generator.source_eq hopening', hy]
        rfl
    | ok hbetween =>
      obtain ⟨s, t, t', rfl, rfl, hlines⟩ := hbetween.inStep
      exact .inr (.inr (.inr ⟨_, _, source_of_emitted hkind hopening hx,
        source_of_emitted hkind hopening' hy, sameCode_layout hlines⟩))

/-! ## Answers in two formats -/

/-- The files are the same but for the layout of their code. -/
structure SameFile (f f' : Format) (file file' : GeneratedFile) : Prop where
  code : SameCode f f' file.code file'.code
  qualifiedName : file.qualifiedName = file'.qualifiedName
  warnings : file.warnings = file'.warnings
  metadata : file.metadata = file'.metadata

/-- The answers are the same fault, or files that are the same but for the layout of their code. -/
inductive SameAnswer (f f' : Format) : Except Fault Result → Except Fault Result → Prop
  | fault (fault : Fault) : SameAnswer f f' (.error fault) (.error fault)
  | failed (fault : Fault) : SameAnswer f f' (.ok (.failed fault)) (.ok (.failed fault))
  | generated {file file' : GeneratedFile} (h : SameFile f f' file file') :
    SameAnswer f f' (.ok (.generated file)) (.ok (.generated file'))

theorem sameAnswer_of_error (fault : Fault) (h : (g.formatted f).planned r e = .error fault)
    (h' : (g.formatted f').planned r e = .error fault) :
    SameAnswer f f' ((g.formatted f).answer r e) ((g.formatted f').answer r e) := by
  rw [Generator.answer, Generator.answer, h, h']
  dsimp only
  split
  · exact .failed fault
  · exact .fault fault

theorem SameCode.countLines_eq {code code' : String} (h : SameCode f f' code code') :
    countLines f.lineEnd.text code = countLines f'.lineEnd.text code' := by
  have hlength := congrArg List.length h.lines
  rw [List.length_map, List.length_map] at hlength
  exact congrArg (· - 1) hlength

theorem sameAnswer_of_code {code code' : String}
    (h : (g.formatted f).planned r e = .ok (p, code))
    (h' : (g.formatted f').planned r e = .ok (p, code')) (hcode : SameCode f f' code code') :
    SameAnswer f f' ((g.formatted f).answer r e) ((g.formatted f').answer r e) := by
  rw [Generator.answer, Generator.answer, h, h']
  show SameAnswer f f' ((shaped p.outline.outputPath >>= _).map .generated)
    ((shaped p.outline.outputPath >>= _).map .generated)
  cases shaped p.outline.outputPath with
  | error fault => exact .fault fault
  | ok output =>
    refine .generated ⟨hcode, rfl, rfl, ?_⟩
    exact congrArg (fun lineCount => (⟨_, _, _, _, lineCount⟩ : Metadata)) hcode.countLines_eq

theorem stopped_answer (hplan : (g.formatted f).plan e = .ok p)
    (h : Stopped (g.formatted f) ((g.formatted f).source r p)) :
    Stopped (g.formatted f) ((g.formatted f).answer r e) := by
  obtain ⟨fault, hsource, d, hd, hindent⟩ := h
  refine ⟨fault, ?_, d, hd, hindent⟩
  rw [Generator.answer, Generator.planned_of_source_error hplan hsource]
  rcases indentation_fault rfl hindent with rfl | rfl <;> rfl

/-- Under configurations that differ in their formats alone, where the texts that reach the file
stay on their lines, the answers with one engine are the same up to the layout of code, unless an
indentation of which no text can be made stops one of them. -/
theorem answer_formatted (r : Template.Renderer)
    (hkind : g.kind = Kind.factory ∨ g.kind = Kind.observable)
    (htexts : ∀ p, g.plan e = .ok p → ∀ s ∈ p.texts g.config, OneLine s) (f f' : Format) :
    Stopped (g.formatted f) ((g.formatted f).answer r e)
      ∨ Stopped (g.formatted f') ((g.formatted f').answer r e)
      ∨ SameAnswer f f' ((g.formatted f).answer r e) ((g.formatted f').answer r e) := by
  have hplans : ∀ f, (g.formatted f).plan e = g.plan e := fun f => plan_formatted f hkind
  cases hplan : g.plan e with
  | error fault =>
    have hplanned : ∀ f, (g.formatted f).planned r e = .error fault := fun f =>
      Generator.planned_of_plan_error ((hplans f).trans hplan)
    exact .inr (.inr (sameAnswer_of_error fault (hplanned f) (hplanned f')))
  | ok p =>
    have hplan' : ∀ f, (g.formatted f).plan e = .ok p := fun f => (hplans f).trans hplan
    rcases source_formatted r hkind (oneLineTexts (htexts p hplan)) f f' with
      hstopped | hstopped | ⟨fault, h, h'⟩ | ⟨code, code', h, h', hcode⟩
    · exact .inl (stopped_answer (hplan' f) hstopped)
    · exact .inr (.inl (stopped_answer (hplan' f') hstopped))
    · exact .inr (.inr (sameAnswer_of_error fault (Generator.planned_of_source_error (hplan' f) h)
        (Generator.planned_of_source_error (hplan' f') h')))
    · exact .inr (.inr (sameAnswer_of_code (Generator.planned_of_source (hplan' f) h)
        (Generator.planned_of_source (hplan' f') h') hcode))

end Formats

/-! ## A type in several formats -/

theorem texts_account : ∀ p, (indented 4).plan account = .ok p →
    ∀ s ∈ p.texts (indented 4).config, OneLine s := by
  intro p hp
  rw [plan_account] at hp
  cases hp
  decide

/-- Two usual formats, which stop nothing. -/
theorem account_formatted : (∀ p, (indented 4).plan account = .ok p →
      ∀ s ∈ p.texts (indented 4).config, OneLine s)
    ∧ SameAnswer ⟨4, .lf⟩ ⟨2, .crlf⟩
      (((indented 4).formatted ⟨4, .lf⟩).answer asItStands account)
      (((indented 4).formatted ⟨2, .crlf⟩).answer asItStands account) := by
  refine ⟨texts_account, ?_⟩
  rcases answer_formatted asItStands (.inr rfl) texts_account ⟨4, .lf⟩ ⟨2, .crlf⟩ with h | h | h
  · exact absurd h.width (by decide)
  · exact absurd h.width (by decide)
  · exact h

/-- A width so far below zero that no level has a count of blanks stops one format where the other
generates a file. -/
theorem account_stopped_by_format : (∀ p, (indented 4).plan account = .ok p →
      ∀ s ∈ p.texts (indented 4).config, OneLine s)
    ∧ (∃ file, ((indented 4).formatted ⟨4, .lf⟩).answer asItStands account = .ok (.generated file))
    ∧ ((indented 4).formatted ⟨-10000000000000000000, .lf⟩).answer asItStands account
      = .error .countTooLarge := by
  have hformat : ∀ width, (indented 4).formatted ⟨width, .lf⟩ = indented width := fun _ => rfl
  rw [hformat, hformat]
  refine ⟨texts_account, ?_, ?_⟩
  · have hfits : ∀ d ≤ 4, ∃ s, indentation (indented 4).style d = .ok s := fun d hd =>
      @exists_indentation (indented 4).style 4 d rfl (by decide) (by decide) (by decide) hd
    obtain ⟨written, hwritten⟩ := exists_emitted (.inr rfl) (textSettings_indented 4)
      textAnnotations_account hfits (plan_account 4) (preamble_account 4)
    have hsource : ((indented 4).formatted ⟨4, .lf⟩).source asItStands (.observable accountPlan)
        = .ok (layout "\n" written.text) :=
      source_of_emitted (.inr rfl) (preamble_account 4) hwritten
    have hplanned : (indented 4).planned asItStands account
        = .ok (.observable accountPlan, layout "\n" written.text) :=
      Generator.planned_of_source (plan_account 4) hsource
    exact ⟨_, by rw [Generator.answer, hplanned]; rfl⟩
  · have hemitted : (indented (-10000000000000000000)).emitted accountOpening
        (.observable accountPlan) = .error .countTooLarge := rfl
    have hsource : (indented (-10000000000000000000)).source asItStands (.observable accountPlan)
        = .error .countTooLarge := by
      rw [Generator.source_eq (preamble_account _), hemitted]
      rfl
    rw [Generator.answer, Generator.planned_of_source_error (plan_account _) hsource]
    rfl

end Generation
end JavaCompanion
