/-
Control annotations are not seen in what is generated.

Two elements that differ in annotations of the control namespace alone have the same payload
at every parameter, and a plan knows no more of the annotations of a parameter than that and
whether the marker is among them.  Only the plan of a factory asks for the marker, and only
at constructors.  So the observable class is the same for both elements, and the factory is if
the same constructor parameters are marked (`generated_without_control`).
-/
import JavaCompanion.Generation.Run
import JavaCompanion.Proofs.Outcome

namespace JavaCompanion

/-! ## Elements without their control annotations -/

namespace Descriptor

/-- Whether an annotation is of the control namespace.  One whose type is no text is of no
namespace. -/
def AnnotationUse.controls (control : Value) (a : AnnotationUse) : Bool :=
  match a.inNamespace control with
  | .ok controls => controls
  | .error _ => false

def Variable.withoutControl (control : Value) (v : Variable) : Variable :=
  { v with annotations := v.annotations.filter fun a => !a.controls control }

def Member.withoutControl (control : Value) (m : Member) : Member :=
  { m with parameters := m.parameters.map (Variable.withoutControl control) }

def Element.withoutControl (control : Value) (e : Element) : Element :=
  { e with members := e.members.map (Member.withoutControl control) }

/-- The elements differ at most in annotations of the control namespace at their parameters. -/
def Element.SameButControl (control : Value) (e e' : Element) : Prop :=
  e.withoutControl control = e'.withoutControl control

end Descriptor

namespace Extraction

open Descriptor Java

variable {e e' : Element} {control : Value} {marker : Option String}

theorem payload_withoutControl (control : Value) (as : List AnnotationUse) :
    payload control (as.filter fun a => !a.controls control) = payload control as := by
  induction as with
  | nil => rfl
  | cons a rest ih =>
    by_cases hc : a.controls control = true
    · have ha : a.inNamespace control = .ok true := by
        unfold AnnotationUse.controls at hc
        split at hc
        · next h => rw [h, hc]
        · exact nomatch hc
      rw [List.filter_cons_of_neg (by simp [hc]), ih]
      conv_rhs => rw [payload, ha]
      exact (bind_pure (payload control rest)).symm
    · rw [List.filter_cons_of_pos (by simp [hc]), payload, payload, ih]

/-! ## Signatures without control annotations -/

/-- A walk that depends on one view of the members only. -/
theorem mapM_eq_of_view (view : α → β) {k : α → Except ε γ}
    (hk : ∀ a b, view a = view b → k a = k b) {as bs : List α}
    (h : as.map view = bs.map view) : as.mapM k = bs.mapM k := by
  induction as generalizing bs with
  | nil =>
    rw [List.map_nil, eq_comm, List.map_eq_nil_iff] at h
    rw [h]
  | cons a rest ih =>
    cases bs with
    | nil => exact nomatch h
    | cons b more =>
      obtain ⟨hab, h⟩ := List.cons.inj h
      rw [List.mapM_cons, List.mapM_cons, hk a b hab, ih h]

/-- As `mapM_eq_of_view`, for a walk that depends on two views. -/
theorem mapM_eq_of_views {view : α → β} {mark : α → γ} {k : α → Except ε δ}
    (hk : ∀ a b, view a = view b → mark a = mark b → k a = k b) {as bs : List α}
    (hview : as.map view = bs.map view) (hmark : as.map mark = bs.map mark) :
    as.mapM k = bs.mapM k := by
  refine mapM_eq_of_view (fun a => (view a, mark a)) (fun a b h => ?_) ?_
  · exact hk a b (Prod.mk.inj h).1 (Prod.mk.inj h).2
  · rw [← List.zip_map', ← List.zip_map', hview, hmark]

theorem parameter_eq {v w : Variable} (h : v.withoutControl control = w.withoutControl control)
    (hmark : carries marker v = carries marker w) :
    parameter control marker v = parameter control marker w := by
  have hpayload : payload control v.annotations = payload control w.annotations := by
    rw [← payload_withoutControl, ← payload_withoutControl control w.annotations]
    exact congrArg (fun u => payload control u.annotations) h
  have htype : v.type = w.type := congrArg (·.type) h
  have hname : v.name = w.name := congrArg (·.name) h
  rw [parameter, parameter, hpayload, htype, hname, hmark]

/-- Which parameters of a member carry the marker. -/
def marks (marker : Option String) (m : Member) : List Bool := m.parameters.map (carries marker)

theorem parameters_eq {m n : Member} (h : m.withoutControl control = n.withoutControl control)
    (hmarks : marks marker m = marks marker n) :
    m.parameters.mapM (parameter control marker) = n.parameters.mapM (parameter control marker) :=
  mapM_eq_of_views (fun _ _ => parameter_eq) (congrArg (·.parameters) h) hmarks

/-- Where there is no marker, no parameter carries it. -/
theorem marks_none_withoutControl (control : Value) (m : Member) :
    marks none (m.withoutControl control) = marks none m := List.map_map

theorem marks_none_eq {m n : Member} (h : m.withoutControl control = n.withoutControl control) :
    marks none m = marks none n := by
  rw [← marks_none_withoutControl control m, h, marks_none_withoutControl]

theorem membersOf_withoutControl (control : Value) (e : Element) (kind : MemberKind) :
    (e.withoutControl control).membersOf kind
      = (e.membersOf kind).map (Member.withoutControl control) := by
  rw [Element.membersOf, Element.membersOf, Element.withoutControl, List.filter_map]
  rfl

theorem membersOf_eq (h : e.SameButControl control e') (kind : MemberKind) :
    (e.membersOf kind).map (Member.withoutControl control)
      = (e'.membersOf kind).map (Member.withoutControl control) := by
  rw [← membersOf_withoutControl, ← membersOf_withoutControl]
  exact congrArg (·.membersOf kind) h

theorem constructors_eq (h : e.SameButControl control e')
    (hmarks : (e.membersOf .constructor).map (marks marker)
      = (e'.membersOf .constructor).map (marks marker)) :
    constructors e control marker = constructors e' control marker := by
  refine mapM_eq_of_views (fun m n hmn hmark => ?_) (membersOf_eq h .constructor) hmarks
  have hthrown : m.thrown = n.thrown := congrArg (·.thrown) hmn
  rw [parameters_eq hmn hmark, hthrown]

theorem constructors_none_eq (h : e.SameButControl control e') :
    constructors e control none = constructors e' control none := by
  refine mapM_eq_of_view (Member.withoutControl control) (fun m n hmn => ?_)
    (membersOf_eq h .constructor)
  have hthrown : m.thrown = n.thrown := congrArg (·.thrown) hmn
  rw [parameters_eq hmn (marks_none_eq hmn), hthrown]

theorem methods_eq (h : e.SameButControl control e') :
    methods e control = methods e' control := by
  refine mapM_eq_of_view (Member.withoutControl control) (fun m n hmn => ?_)
    (membersOf_eq h .method)
  have hname : m.name = n.name := congrArg (·.name) hmn
  have htype : m.returnType = n.returnType := congrArg (·.returnType) hmn
  have hthrown : m.thrown = n.thrown := congrArg (·.thrown) hmn
  have hmodifiers : m.modifiers = n.modifiers := congrArg (·.modifiers) hmn
  rw [parameters_eq hmn (marks_none_eq hmn), hname, htype, hthrown, hmodifiers]

/-! ## Names -/

theorem validateParameters_withoutControl (control : Value) (owner : String) (m : Member)
    (vs : List Variable) :
    validateParameters owner (m.withoutControl control)
        (vs.map (Variable.withoutControl control)) = validateParameters owner m vs := by
  induction vs with
  | nil => rfl
  | cons v rest ih =>
    rw [List.map_cons, validateParameters, validateParameters, ih]
    rfl

theorem validateMember_withoutControl (control : Value) (owner : String) (m : Member) :
    validateMember owner (m.withoutControl control) = validateMember owner m := by
  have hparameters := validateParameters_withoutControl control owner m m.parameters
  unfold validateMember
  rw [← hparameters]
  rfl

theorem validateMembers_withoutControl (control : Value) (owner : String) (ms : List Member) :
    validateMembers owner (ms.map (Member.withoutControl control)) = validateMembers owner ms := by
  induction ms with
  | nil => rfl
  | cons m rest ih =>
    rw [List.map_cons, validateMembers, validateMembers, validateMember_withoutControl, ih]

theorem validate_withoutControl (control : Value) (e : Element) :
    validate (e.withoutControl control) = validate e := by
  have hmembers := validateMembers_withoutControl control e.qualifiedName e.members
  unfold validate
  rw [← hmembers]
  rfl

theorem validate_eq (h : e.SameButControl control e') : validate e = validate e' := by
  rw [← validate_withoutControl control e, h, validate_withoutControl]

/-! ## Mutators -/

theorem mutators_eq (h : e.SameButControl control e') (verbs : List String) (policy : Policy) :
    mutators e verbs policy control = mutators e' verbs policy control := by
  have hname : e.qualifiedName = e'.qualifiedName := congrArg (·.qualifiedName) h
  rw [mutators, mutators, methods_eq h, hname]

end Extraction

/-! ## Generation -/

namespace Generation

open Descriptor Extraction

variable {config : Config} {e e' : Element}

theorem Generator.result_eq {g : Generator} (hplan : g.plan e = g.plan e')
    (hname : e.qualifiedName = e'.qualifiedName) : g.result e = g.result e' := by
  have hfile : fileOf g e = fileOf g e' := by
    unfold fileOf
    rw [hname]
  have hrecord : failedRecord g e = failedRecord g e' := by
    unfold failedRecord
    rw [hname]
  unfold Generator.result Generator.planStep
  rw [hplan, hfile, hrecord]

theorem Generator.generate_eq {g : Generator} (hplan : g.plan e = g.plan e') :
    g.generate e = g.generate e' := by
  unfold Generator.generate Generator.planStep
  rw [hplan]

theorem observable_plan_eq (h : e.SameButControl config.controlNamespace e') :
    Observable.plan config e = Observable.plan config e' := by
  have hvalues : e.annotationValues? "observable" = e'.annotationValues? "observable" :=
    congrArg (·.annotationValues? "observable") h
  have hplan : Observable.Plan.of e = Observable.Plan.of e' := by
    have hsimple : e.simpleName = e'.simpleName := congrArg (·.simpleName) h
    have hpackage : e.package = e'.package := congrArg (·.package) h
    have hname : e.qualifiedName = e'.qualifiedName := congrArg (·.qualifiedName) h
    unfold Observable.Plan.of
    rw [hsimple, hpackage, hname]
  unfold Observable.plan
  simp only [validate_eq h, hvalues, constructors_none_eq h, mutators_eq h, hplan]

/-- Which constructor parameters carry the marker of unbound parameters. -/
def unboundMarks (config : Config) (e : Element) : List (List Bool) :=
  (e.membersOf .constructor).map (marks (some config.unboundMarker))

theorem factory_plan_eq (h : e.SameButControl config.controlNamespace e')
    (hmarks : unboundMarks config e = unboundMarks config e') :
    Factory.plan config e = Factory.plan config e' := by
  have hvalues : e.annotationValues? "factory" = e'.annotationValues? "factory" :=
    congrArg (·.annotationValues? "factory") h
  have hplan : Factory.Plan.of e = Factory.Plan.of e' := by
    have hsimple : e.simpleName = e'.simpleName := congrArg (·.simpleName) h
    have hpackage : e.package = e'.package := congrArg (·.package) h
    have hname : e.qualifiedName = e'.qualifiedName := congrArg (·.qualifiedName) h
    unfold Factory.Plan.of
    rw [hsimple, hpackage, hname]
  unfold Factory.plan
  simp only [validate_eq h, hvalues, constructors_eq h hmarks, hplan]

/-- For elements that differ in control annotations alone, the observable class is the same,
as a text and as a result with its warnings, and so is the fault if there is none; the factory
is the same if the same constructor parameters are marked unbound.  The steps are equal, so this
holds in every session: with every engine for headers, and whatever has been generated before. -/
theorem generated_without_control (config : Config) (limit : Nat) {e e' : Element}
    (h : e.SameButControl config.controlNamespace e') :
    (Generator.result ⟨.observable, config, limit⟩ e
        = Generator.result ⟨.observable, config, limit⟩ e'
      ∧ Generator.generate ⟨.observable, config, limit⟩ e
        = Generator.generate ⟨.observable, config, limit⟩ e')
    ∧ (unboundMarks config e = unboundMarks config e' →
      Generator.result ⟨.factory, config, limit⟩ e = Generator.result ⟨.factory, config, limit⟩ e'
      ∧ Generator.generate ⟨.factory, config, limit⟩ e
        = Generator.generate ⟨.factory, config, limit⟩ e') := by
  have hname : e.qualifiedName = e'.qualifiedName := congrArg (·.qualifiedName) h
  constructor
  · have hplan : Generator.plan ⟨.observable, config, limit⟩ e
        = Generator.plan ⟨.observable, config, limit⟩ e' :=
      congrArg (Functor.map Plan.observable) (observable_plan_eq h)
    exact ⟨Generator.result_eq hplan hname, Generator.generate_eq hplan⟩
  · intro hmarks
    have hplan : Generator.plan ⟨.factory, config, limit⟩ e
        = Generator.plan ⟨.factory, config, limit⟩ e' :=
      congrArg (Functor.map Plan.factory) (factory_plan_eq h hmarks)
    exact ⟨Generator.result_eq hplan hname, Generator.generate_eq hplan⟩

/-- A type whose constructor leaves its second parameter to the call. -/
def ledger (extra : List AnnotationUse) : Element where
  simpleName := "Ledger"
  package := "com.example"
  members :=
    [ { kind := .constructor, name := .text "<init>",
        parameters :=
          [ ⟨"String", "id", extra ++ [⟨.text "javax.inject.Named", .text "@javax.inject.Named"⟩]⟩,
            ⟨"int", "limit",
              ⟨.text "com.companion.annotations.factory.Unbound", .text "@Unbound"⟩ :: extra⟩ ] },
      { kind := .method, name := .text "getLimit", returnType := "int" },
      { kind := .method, name := .text "setLimit", parameters := [⟨"int", "limit", extra⟩] } ]

/-- The type with a control annotation more at each parameter. -/
def notedLedger : Element :=
  ledger [⟨.text "com.companion.annotations.Note", .text "@com.companion.annotations.Note(1)"⟩]

theorem ledger_generated_without_note :
    notedLedger.SameButControl (.text "com.companion.annotations") (ledger [])
    ∧ unboundMarks {} notedLedger = [[false, true]] ∧ unboundMarks {} (ledger []) = [[false, true]]
    ∧ Generator.result ⟨.observable, {}, 65536⟩ notedLedger
      = Generator.result ⟨.observable, {}, 65536⟩ (ledger [])
    ∧ Generator.result ⟨.factory, {}, 65536⟩ notedLedger
      = Generator.result ⟨.factory, {}, 65536⟩ (ledger []) := by
  have hsame : notedLedger.SameButControl (.text "com.companion.annotations") (ledger []) := rfl
  have hresults := generated_without_control {} 65536 hsame
  exact ⟨hsame, rfl, rfl, hresults.1.1, (hresults.2 rfl).1⟩

end Generation
end JavaCompanion
