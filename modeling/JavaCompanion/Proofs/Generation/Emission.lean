/-
A plan is written without misusing the emitter.

The preamble leads from the top level back to it, and so does the class of a plan, over four
levels of indentation at most.  So the emitter refuses nothing that a generator asks of it.
Where all values that are written are texts, the only thing that can stop it is an
indentation that no text can hold, and if none does, everything that was opened is closed
(`emitted_stops_or_closes`).
-/
import JavaCompanion.Generation.Source
import JavaCompanion.Proofs.Factory.CreationMethod
import JavaCompanion.Proofs.Factory.Legality
import JavaCompanion.Proofs.Observable.Legality
import JavaCompanion.Proofs.Observable.Wrapped
import Mathlib.Tactic.IntervalCases

namespace JavaCompanion
namespace Generation

open Descriptor Emitter Extraction

variable {P : Fault → Prop}

/-! ## Steps that emit -/

/-- A step has led to the frames, or was stopped for a reason in `P`. -/
def Reaches (P : Fault → Prop) (e : Emitter) (frames : List Frame) : Except Fault Emitter → Prop
  | .ok e' => e'.skeleton = ⟨frames, total frames⟩ ∧ Continues e e'
  | .error f => P f

theorem emit_reaches {n : Nat} {e : Emitter} {ops : List Operation} {frames : List Frame}
    (hopen : e.closed = false) (hdepth : e.depth = total e.frames)
    (hs : e.style.FailsBy n P) (hops : ∀ op ∈ ops, op.StopsBy P)
    (hnext : nextAll n e.frames ops = some frames) : Reaches P e frames (e.emit ops) := by
  have hends := performAll_ends hopen hdepth hs hops hnext
  unfold emit
  revert hends
  cases e.performAll ops with
  | mk e' fault => cases fault <;> exact id

/-- A step that goes on from where another has led. -/
theorem Reaches.bind {e : Emitter} {middle frames : List Frame} {x : Except Fault Emitter}
    {step : Emitter → Except Fault Emitter} (hx : Reaches P e middle x)
    (hstep : ∀ e', e'.frames = middle → e'.depth = total e'.frames → Continues e e' →
      Reaches P e' frames (step e')) : Reaches P e frames (x >>= step) := by
  cases x with
  | error f => exact hx
  | ok e' =>
    obtain ⟨hskeleton, hcont⟩ := hx
    obtain ⟨rfl, hdepth⟩ := Skeleton.mk.inj hskeleton
    have hlast := hstep e' rfl hdepth hcont
    show Reaches P e frames (step e')
    cases hresult : step e' with
    | error f =>
      rw [hresult] at hlast
      exact hlast
    | ok e'' =>
      rw [hresult] at hlast
      exact ⟨hlast.1, hcont.trans hlast.2⟩

/-! ## Plans -/

/-- The values that a configuration and a plan have written are no texts for reasons in `P`
only. -/
def Plan.StopsBy (P : Fault → Prop) (config : Config) : Plan → Prop
  | .factory p =>
    (∀ m, config.injectMarker.asOperand = .error m → P (.mismatch m))
      ∧ (∀ m, config.singletonMarker.asOperand = .error m → P (.mismatch m))
      ∧ (∀ b ∈ p.bound, AnnotationsFailBy P b.parameter.annotations)
      ∧ ∀ m ∈ p.creationMethods, ∀ q ∈ m.parameters, AnnotationsFailBy P q.annotations
  | .observable p =>
    (∀ m, Observable.listType config = .error m → P (.mismatch m))
      ∧ (∀ c ∈ p.constructors, ∀ q ∈ c.parameters, AnnotationsFailBy P q.annotations)
      ∧ ∀ o ∈ p.observed, ∀ q ∈ o.mutator.method.parameters, AnnotationsFailBy P q.annotations

theorem write_reaches {config : Config} {p : Plan} {e : Emitter} (hopen : e.closed = false)
    (hframes : e.frames = []) (hdepth : e.depth = total e.frames) (hs : e.style.FailsBy 4 P)
    (hp : p.StopsBy P config) : Reaches P e [] (p.write config e) := by
  cases p with
  | factory p =>
    obtain ⟨hinject, hsingleton, hbound, hmethods⟩ := hp
    refine emit_reaches hopen hdepth hs
      (Factory.stopsBy_operations hinject hsingleton hbound hmethods) ?_
    rw [hframes]
    exact Factory.nextAll_operations config p
  | observable p =>
    obtain ⟨hlistType, hconstructors, hmethods⟩ := hp
    have hhead : Reaches P e [classBody p.className.display]
        (e.emit (Observable.headOperations p)) := by
      refine emit_reaches hopen hdepth hs (Observable.stopsBy_headOperations p) ?_
      rw [hframes]
      exact Observable.nextAll_headOperations p
    refine hhead.bind fun e' hframes' hdepth' hcont => ?_
    cases hlist : Observable.listType config with
    | error m => exact hlistType m hlist
    | ok listType =>
      refine emit_reaches (hcont.closed_eq.trans hopen) hdepth' (by rwa [hcont.style_eq])
        (Observable.stopsBy_bodyOperations hconstructors hmethods) ?_
      rw [hframes']
      exact Observable.nextAll_bodyOperations p listType

namespace Generator

/-- What a generator emits for a plan: the preamble, and the class. -/
def emitted (g : Generator) (opening : List Operation) (p : Plan) : Except Fault Emitter := do
  g.kind.write g.config p (← Emitter.emit { style := g.style } opening)

theorem source_eq {g : Generator} {r : Template.Renderer} {p : Plan} {opening : List Operation}
    (h : g.preamble r p.outline = .ok opening) :
    g.source r p = g.emitted opening p >>= fun written =>
      written.result >>= layoutWith g.config.lineEnding := by
  rw [source, h, emitted, bind_assoc]
  rfl

/-- Whatever the engine makes of the header, the preamble is the package, with a header comment
before it or without. -/
theorem preamble_eq_ok {g : Generator} {r : Template.Renderer} {o : Outline}
    {opening : List Operation}
    (h : g.preamble r o = .ok opening) :
    opening = [.packageDeclaration o.package]
      ∨ ∃ header, opening = [.headerComment (.text header), .raw g.config.lineEnding,
          .packageDeclaration o.package] := by
  unfold preamble at h
  split at h
  · obtain ⟨header, -, h⟩ := bind_eq_ok.mp h
    cases h
    exact .inr ⟨header, rfl⟩
  · cases h
    exact .inl rfl

theorem nextAll_preamble {g : Generator} {r : Template.Renderer} {o : Outline}
    {opening : List Operation}
    (h : g.preamble r o = .ok opening) : nextAll 4 [] opening = some [] := by
  rcases preamble_eq_ok h with rfl | ⟨header, rfl⟩ <;> rfl

theorem stopsBy_preamble {g : Generator} {r : Template.Renderer} {o : Outline}
    {opening : List Operation}
    (hline : ∀ m, g.config.lineEnding.asOperand = .error m → P (.mismatch m))
    (h : g.preamble r o = .ok opening) : ∀ op ∈ opening, op.StopsBy P := by
  have hpackage : (Operation.packageDeclaration o.package).StopsBy P :=
    Operation.stopsBy_of_no_modifiers rfl trivial
  rcases preamble_eq_ok h with rfl | ⟨header, rfl⟩
  · simpa using hpackage
  · simp only [List.forall_mem_cons]
    exact ⟨Operation.stopsBy_of_no_modifiers rfl nofun,
      Operation.stopsBy_of_no_modifiers rfl hline, hpackage, by simp⟩

variable {g : Generator} {r : Template.Renderer} {p : Plan} {opening : List Operation}

theorem emitted_reaches (hkind : g.kind = Kind.factory ∨ g.kind = Kind.observable)
    (hopening : g.preamble r p.outline = .ok opening) (hs : g.style.FailsBy 4 P)
    (hp : p.StopsBy P g.config) :
    Reaches P { style := g.style } [] (g.emitted opening p) := by
  have hwrite : g.kind.write = Plan.write := by rcases hkind with h | h <;> rw [h] <;> rfl
  have hemit : Reaches P { style := g.style } [] (Emitter.emit { style := g.style } opening) :=
    emit_reaches rfl rfl hs (stopsBy_preamble hs.lineEnding hopening) (nextAll_preamble hopening)
  unfold emitted
  rw [hwrite]
  exact hemit.bind fun e' hframes hdepth hcont =>
    write_reaches hcont.closed_eq hframes hdepth (by rwa [hcont.style_eq]) hp

/-- Whatever the values are, no call is out of place and no modifier is unknown. -/
theorem emitted_reaches_or_mismatch (hkind : g.kind = Kind.factory ∨ g.kind = Kind.observable)
    (hopening : g.preamble r p.outline = .ok opening) :
    Reaches (fun f => (∃ m, f = .mismatch m)
        ∨ ∃ d ≤ 4, indentation g.style d = .error f)
      { style := g.style } [] (g.emitted opening p) := by
  let P : Fault → Prop := fun f =>
    (∃ m, f = .mismatch m) ∨ ∃ d ≤ 4, indentation g.style d = .error f
  have hannotations : ∀ annotations, AnnotationsFailBy P annotations :=
    fun _ _ hf => .inl (joinedText_error hf)
  have hs : g.style.FailsBy 4 P :=
    ⟨fun m _ => .inl ⟨m, rfl⟩, fun d hd f hf => .inr ⟨d, hd, hf⟩⟩
  refine emitted_reaches (P := P) hkind hopening hs ?_
  cases p with
  | factory p =>
    exact ⟨fun m _ => .inl ⟨m, rfl⟩, fun m _ => .inl ⟨m, rfl⟩, fun _ _ => hannotations _,
      fun _ _ _ _ => hannotations _⟩
  | observable p =>
    exact ⟨fun m _ => .inl ⟨m, rfl⟩, fun _ _ _ _ => hannotations _,
      fun _ _ _ _ => hannotations _⟩

theorem emitted_fault (hkind : g.kind = Kind.factory ∨ g.kind = Kind.observable)
    (hopening : g.preamble r p.outline = .ok opening) {f : Fault}
    (hf : g.emitted opening p = .error f) :
    (∃ m, f = .mismatch m) ∨ ∃ d ≤ 4, indentation g.style d = .error f := by
  have hreaches := emitted_reaches_or_mismatch hkind hopening
  rw [hf] at hreaches
  exact hreaches

/-- What has been emitted has nothing open, and stands at the margin. -/
theorem closes_of_emitted (hkind : g.kind = Kind.factory ∨ g.kind = Kind.observable)
    (hopening : g.preamble r p.outline = .ok opening) {written : Emitter}
    (h : g.emitted opening p = .ok written) :
    written.frames = [] ∧ written.depth = 0 ∧ Continues { style := g.style } written := by
  have hreaches := emitted_reaches_or_mismatch hkind hopening
  rw [h] at hreaches
  obtain ⟨hframes, hdepth⟩ := Skeleton.mk.inj hreaches.1
  exact ⟨hframes, hdepth, hreaches.2⟩

/-- So its text may be taken. -/
theorem result_of_emitted (hkind : g.kind = Kind.factory ∨ g.kind = Kind.observable)
    (hopening : g.preamble r p.outline = .ok opening) {written : Emitter}
    (h : g.emitted opening p = .ok written) : written.result = .ok written.text := by
  obtain ⟨hframes, -, hcont⟩ := closes_of_emitted hkind hopening h
  simp [Emitter.result, ensureBalanced, hcont.ownsText_eq, hcont.closed_eq, hframes]

end Generator

/-! ## Values that are texts -/

/-- The settings that are written are texts, and those of another kind are of that kind. -/
structure TextSettings (c : Config) : Prop where
  indentWidth : c.indentWidth.int?.isSome = true
  lineEnding : c.lineEnding.isText = true
  injectMarker : c.injectMarker.isText = true
  singletonMarker : c.singletonMarker.isText = true
  generatorOptions : ∃ options, c.generatorOptions = .object options

theorem annotationsFailBy_of_isText {annotations : List Value}
    (h : ∀ v ∈ annotations, v.isText = true) : AnnotationsFailBy P annotations := by
  intro f hf
  obtain ⟨s, hs⟩ := joinedText_of_isText " " h
  have hjoined : joinedText " " (.list annotations) = .error f := hf
  rw [hs] at hjoined
  exact nomatch hjoined

/-- Where the width is a number, only the size of an indentation stands against it. -/
theorem indentation_fault {style : Style} {d : Nat} {f : Fault}
    (hwidth : style.indentWidth.int?.isSome = true) (h : indentation style d = .error f) :
    f = .countTooLarge ∨ f = .textTooLong := by
  unfold indentation at h
  split at h
  · unfold blanks at h
    split at h
    · cases h
      exact .inl rfl
    · split at h
      · cases h
        exact .inr rfl
      · exact nomatch h
  · next hnone =>
    rw [hnone] at hwidth
    exact nomatch hwidth

/-- Widths of which four make a count of blanks, and not too many, can be indented by. -/
theorem exists_indentation {style : Style} {width : Int} {d : Nat}
    (hwidth : style.indentWidth.int? = some width) (hcount : -countLimit ≤ 4 * width)
    (hhigh : 4 * width < countLimit) (htext : 4 * width ≤ style.textLimit) (hd : d ≤ 4) :
    ∃ s, indentation style d = .ok s := by
  have hbounds : -countLimit ≤ d * width ∧ d * width < countLimit
      ∧ d * width ≤ style.textLimit := by
    unfold countLimit at *
    interval_cases d <;> omega
  obtain ⟨hlow, hhigh, hlength⟩ := hbounds
  refine ⟨String.ofList (List.replicate (d * width).toNat ' '), ?_⟩
  rw [indentation, hwidth]
  show blanks style.textLimit (d * width) = _
  rw [blanks, if_neg (by simpa using ⟨hlow, hhigh⟩), if_neg (by omega)]

theorem factory_stopsBy {config : Config} {e : Element} {p : Factory.Plan}
    (hconfig : TextSettings config) (he : TextAnnotations e)
    (h : Factory.plan config e = .ok p) : Plan.StopsBy P config (.factory p) := by
  obtain ⟨settings, cs, -, -, hcs, -, rfl⟩ := Factory.plan_eq_ok.mp h
  have htexts := isText_of_constructors he hcs
  refine ⟨fun m hm => absurd hm (not_asOperand_error hconfig.injectMarker m),
    fun m hm => absurd hm (not_asOperand_error hconfig.singletonMarker m),
    fun b hb => annotationsFailBy_of_isText ?_, fun m hm q hq => annotationsFailBy_of_isText ?_⟩
  · have hbound := Factory.mem_boundParameters_of_mem_bound e config settings cs hb
    obtain ⟨⟨c, hc, hbc⟩, -⟩ := Factory.mem_boundParameters hbound
    exact htexts c hc b.parameter hbc
  · obtain ⟨c, hc, rfl⟩ := List.mem_map.mp hm
    exact htexts c hc q (List.mem_of_mem_filter hq)

theorem observable_stopsBy {config : Config} {e : Element} {p : Observable.Plan}
    (hconfig : TextSettings config) (he : TextAnnotations e)
    (h : Observable.plan config e = .ok p) : Plan.StopsBy P config (.observable p) := by
  obtain ⟨settings, cs, found, -, -, hcs, hfound, rfl⟩ := Observable.plan_eq_ok.mp h
  obtain ⟨methods, hmethods, hspec⟩ := mutators_spec hfound
  refine ⟨fun m hm => ?_, fun c hc q hq =>
    annotationsFailBy_of_isText (isText_of_constructors he hcs c hc q hq),
    fun o ho q hq => annotationsFailBy_of_isText ?_⟩
  · obtain ⟨options, hoptions⟩ := hconfig.generatorOptions
    simp only [Observable.listType, hoptions] at hm
    exact nomatch hm
  · have hmem : o.mutator ∈ found.mutators := Observable.mutator_mem_of_mem_observedOf ho
    exact isText_of_methods he hmethods o.mutator.method (hspec.each _ hmem).method_mem q hq

theorem stopsBy_of_texts {g : Generator} {e : Element} {p : Plan}
    (hkind : g.kind = Kind.factory ∨ g.kind = Kind.observable) (hconfig : TextSettings g.config)
    (he : TextAnnotations e) (hplan : g.plan e = .ok p) : p.StopsBy P g.config := by
  rcases hkind with hkind | hkind
  · rw [Generator.plan, hkind] at hplan
    obtain ⟨q, hq, hplan⟩ := bind_eq_ok.mp hplan
    rw [pure_eq_ok] at hplan
    subst hplan
    exact factory_stopsBy hconfig he hq
  · rw [Generator.plan, hkind] at hplan
    obtain ⟨q, hq, hplan⟩ := bind_eq_ok.mp hplan
    rw [pure_eq_ok] at hplan
    subst hplan
    exact observable_stopsBy hconfig he hq

/-- Where every value that is written is a text and every indentation can be made, nothing stops
the emitter. -/
theorem exists_emitted {g : Generator} {r : Template.Renderer} {e : Element} {p : Plan}
    {opening : List Operation} (hkind : g.kind = Kind.factory ∨ g.kind = Kind.observable)
    (hconfig : TextSettings g.config) (he : TextAnnotations e)
    (hfits : ∀ d ≤ 4, ∃ s, indentation g.style d = .ok s)
    (hplan : g.plan e = .ok p) (hopening : g.preamble r p.outline = .ok opening) :
    ∃ written, g.emitted opening p = .ok written := by
  have hs : g.style.FailsBy 4 (fun _ => False) :=
    ⟨fun m hm => absurd hm (not_asOperand_error hconfig.lineEnding m), fun d hd f hf => by
      obtain ⟨s, hs⟩ := hfits d hd
      have hf : indentation g.style d = .error f := hf
      rw [hs] at hf
      exact nomatch hf⟩
  have hreaches := Generator.emitted_reaches hkind hopening hs
    (stopsBy_of_texts hkind hconfig he hplan)
  cases hemitted : g.emitted opening p with
  | ok written => exact ⟨written, rfl⟩
  | error f =>
    rw [hemitted] at hreaches
    exact hreaches.elim

def account : Element where
  simpleName := "Account"
  package := "com.example"
  annotations := [("observable", [("old_value", .bool false)])]
  members :=
    [ { kind := .constructor, name := .text "<init>", parameters := [⟨"String", "id", []⟩] },
      { kind := .method, name := .text "getLimit", returnType := "int" },
      { kind := .method, name := .text "setLimit",
        parameters := [⟨"int", "limit", [⟨.text "Min", .text "@Min(1)"⟩]⟩],
        thrown := ["java.io.IOException"] } ]

def accountLimit : Java.Mutator where
  method :=
    { name := .text "setLimit"
      parameters := [{ type := "int", name := "limit", annotations := [.text "@Min(1)"] }]
      thrown := ["java.io.IOException"] }
  verb := "set"
  subject := "Limit"
  accessor := { name := .text "getLimit", returnType := "int" }
  parameter := { type := "int", name := "limit", annotations := [.text "@Min(1)"] }

def accountPlan : Observable.Plan :=
  .of account { oldValue := false } [{ parameters := [{ type := "String", name := "id" }] }]
    { mutators := [accountLimit] }

/-- Writes observable classes below a header of one line, indented by this width. -/
def indented (width : Int) : Generator where
  kind := Kind.observable
  config := { indentWidth := .int width, headerTemplate := .text "Accounts" }

/-- An engine for templates without tags, which it leaves as they are. -/
def asItStands : Template.Renderer := fun source _ => .ok source.display

/-- How the files of that generator begin. -/
def accountOpening : List Operation :=
  [.headerComment (.text "Accounts"), .raw (.text "\n"), .packageDeclaration "com.example"]

theorem plan_account (width : Int) :
    (indented width).plan account = .ok (.observable accountPlan) := by
  have hplan : Observable.plan (indented width).config account = .ok accountPlan := by
    refine Observable.plan_eq_ok.mpr ⟨_, _, _, rfl, ?_, rfl, rfl, rfl⟩
    show Observable.Settings.ofValues [("old_value", .bool false)] _ = _
    rw [Observable.Settings.ofValues, Config.checkOptions_eq_ok.mpr (by decide)]
    rfl
  exact bind_eq_ok.mpr ⟨accountPlan, hplan, rfl⟩

theorem textSettings_indented (width : Int) : TextSettings (indented width).config :=
  ⟨rfl, rfl, rfl, rfl, _, rfl⟩

theorem textAnnotations_account : TextAnnotations account := by
  unfold TextAnnotations
  decide

theorem preamble_account (width : Int) :
    (indented width).preamble asItStands accountPlan.toOutline = .ok accountOpening := by
  have hheader : Text.strip "Accounts" = "Accounts" := by decide +kernel
  show Except.ok [Operation.headerComment (.text (Text.strip "Accounts")), _, _] = _
  rw [hheader]
  rfl

end Generation
end JavaCompanion
