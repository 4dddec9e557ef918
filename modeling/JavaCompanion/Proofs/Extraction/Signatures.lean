/-
Signatures keep what their members declare.

The constructors of an element stand side by side with its members that are constructors, and
their parameters with the variables of those members; the same holds of its methods.
-/
import JavaCompanion.Extraction.Signatures
import JavaCompanion.Proofs.Outcome

namespace JavaCompanion
namespace Extraction

open Descriptor Java

/-- A parameter as it is made from a variable: the type and the name are those of the
variable, the annotations are those outside the control namespace, and it is unbound if the
variable carries the marker. -/
structure IsParameterOf (control : Value) (marker : Option String) (v : Variable)
    (p : Parameter) : Prop where
  type_eq : p.type = v.type
  name_eq : p.name = v.name
  annotations_eq : payload control v.annotations = .ok p.annotations
  unbound_eq : p.unbound = carries marker v

structure IsConstructorOf (control : Value) (marker : Option String) (m : Member)
    (c : Constructor) : Prop where
  thrown_eq : c.thrown = m.thrown
  parameters : List.Forall₂ (IsParameterOf control marker) m.parameters c.parameters

structure IsMethodOf (control : Value) (m : Member) (method : Method) : Prop where
  name_eq : method.name = m.name
  returnType_eq : method.returnType = m.returnType
  thrown_eq : method.thrown = m.thrown
  modifiers_eq : method.modifiers = m.modifiers
  parameters : List.Forall₂ (IsParameterOf control none) m.parameters method.parameters

variable {e : Element} {control : Value} {marker : Option String}

theorem isParameterOf_of_parameter {v : Variable} {p : Parameter}
    (h : parameter control marker v = .ok p) : IsParameterOf control marker v p := by
  obtain ⟨annotations, ha, h⟩ := bind_eq_ok.mp h
  rw [pure_eq_ok] at h
  subst h
  exact ⟨rfl, rfl, ha, rfl⟩

theorem forall₂_parameters {vs : List Variable} {ps : List Parameter}
    (h : vs.mapM (parameter control marker) = .ok ps) :
    List.Forall₂ (IsParameterOf control marker) vs ps :=
  (forall₂_of_mapM h).imp fun _ _ => isParameterOf_of_parameter

/-- Each constructor of the element gives one constructor, in source order. -/
theorem forall₂_constructors {cs : List Constructor}
    (h : constructors e control marker = .ok cs) :
    List.Forall₂ (IsConstructorOf control marker) (e.membersOf .constructor) cs := by
  refine (forall₂_of_mapM h).imp fun m c hc => ?_
  obtain ⟨ps, hps, hc⟩ := bind_eq_ok.mp hc
  rw [pure_eq_ok] at hc
  subst hc
  exact ⟨rfl, forall₂_parameters hps⟩

/-- Each method of the element gives one method, in source order. -/
theorem forall₂_methods {ms : List Method} (h : methods e control = .ok ms) :
    List.Forall₂ (IsMethodOf control) (e.membersOf .method) ms := by
  refine (forall₂_of_mapM h).imp fun m method hm => ?_
  obtain ⟨ps, hps, hm⟩ := bind_eq_ok.mp hm
  rw [pure_eq_ok] at hm
  subst hm
  exact ⟨rfl, rfl, rfl, rfl, forall₂_parameters hps⟩

/-! ## Names -/

theorem isIdentifierValue_eq_true {v : Value} (h : isIdentifierValue v = .ok true) :
    ∃ s, v = .text s ∧ isIdentifier s = true := by
  unfold isIdentifierValue at h
  split at h
  · obtain ⟨s, hs, h⟩ := bind_eq_ok.mp h
    cases v with
    | text t =>
      cases hs
      exact ⟨_, rfl, pure_eq_ok.mp h⟩
    | _ => exact nomatch hs
  · exact nomatch h

theorem validateMember_eq_ok {owner : String} {m : Member} (h : validateMember owner m = .ok ())
    (hkind : m.kind = .method) : ∃ s, m.name = .text s ∧ isIdentifier s = true := by
  unfold validateMember at h
  rw [if_pos hkind] at h
  obtain ⟨valid, hvalid, h⟩ := bind_eq_ok.mp h
  cases valid with
  | true => exact isIdentifierValue_eq_true (shaped_eq_ok.mp hvalid)
  | false =>
    obtain ⟨_, hrefused, -⟩ := bind_eq_ok.mp h
    exact nomatch hrefused

theorem validateParameters_eq_ok {owner : String} {m : Member} {vs : List Variable}
    (h : validateParameters owner m vs = .ok ()) : ∀ v ∈ vs, isIdentifier v.name = true := by
  induction vs with
  | nil => exact nofun
  | cons v rest ih =>
    rw [validateParameters] at h
    split at h
    · next hv => exact List.forall_mem_cons.mpr ⟨hv, ih h⟩
    · exact nomatch h

theorem validateParameters_of_validateMember {owner : String} {m : Member}
    (h : validateMember owner m = .ok ()) : validateParameters owner m m.parameters = .ok () := by
  unfold validateMember at h
  split at h
  · obtain ⟨valid, -, h⟩ := bind_eq_ok.mp h
    cases valid with
    | true => exact h
    | false =>
      obtain ⟨_, hrefused, -⟩ := bind_eq_ok.mp h
      exact nomatch hrefused
  · exact h

theorem validateMembers_eq_ok {owner : String} {ms : List Member}
    (h : validateMembers owner ms = .ok ()) : ∀ m ∈ ms, validateMember owner m = .ok () := by
  induction ms with
  | nil => exact nofun
  | cons m rest ih =>
    obtain ⟨_, hm, hrest⟩ := bind_eq_ok.mp h
    intro n hn
    rcases List.mem_cons.mp hn with rfl | hn
    · exact hm
    · exact ih hrest n hn

theorem validateMembers_of_validate (h : validate e = .ok ()) :
    validateMembers e.qualifiedName e.members = .ok () := by
  unfold validate at h
  dsimp only at h
  split at h
  · obtain ⟨_, hrefused, -⟩ := bind_eq_ok.mp h
    exact nomatch hrefused
  · split at h
    · obtain ⟨_, hrefused, -⟩ := bind_eq_ok.mp h
      exact nomatch hrefused
    · exact h

/-- The methods of an element that is valid have identifiers for names. -/
theorem isIdentifier_of_methods {ms : List Method} (hvalid : validate e = .ok ())
    (h : methods e control = .ok ms) :
    ∀ m ∈ ms, ∃ s, m.name = .text s ∧ isIdentifier s = true := by
  intro m hm
  obtain ⟨member, hmember, hof⟩ := exists_of_forall₂ (forall₂_methods h) hm
  obtain ⟨hmem, hkind⟩ := Element.mem_membersOf.mp hmember
  rw [hof.name_eq]
  exact validateMember_eq_ok
    (validateMembers_eq_ok (validateMembers_of_validate hvalid) member hmem) hkind

theorem isIdentifier_of_variables (hvalid : validate e = .ok ()) :
    ∀ m ∈ e.members, ∀ v ∈ m.parameters, isIdentifier v.name = true := by
  intro m hm
  apply validateParameters_eq_ok
  exact validateParameters_of_validateMember
    (validateMembers_eq_ok (validateMembers_of_validate hvalid) m hm)

/-- The parameters of the methods of an element that is valid have identifiers for names. -/
theorem isIdentifier_of_parameters {ms : List Method} (hvalid : validate e = .ok ())
    (h : methods e control = .ok ms) :
    ∀ m ∈ ms, ∀ p ∈ m.parameters, isIdentifier p.name = true := by
  intro m hm p hp
  obtain ⟨member, hmember, hof⟩ := exists_of_forall₂ (forall₂_methods h) hm
  obtain ⟨v, hv, hparameter⟩ := exists_of_forall₂ hof.parameters hp
  rw [hparameter.name_eq]
  exact isIdentifier_of_variables hvalid member (Element.mem_membersOf.mp hmember).1 v hv

theorem isIdentifier_of_constructors {cs : List Constructor} (hvalid : validate e = .ok ())
    (h : constructors e control marker = .ok cs) :
    ∀ c ∈ cs, ∀ p ∈ c.parameters, isIdentifier p.name = true := by
  intro c hc p hp
  obtain ⟨member, hmember, hof⟩ := exists_of_forall₂ (forall₂_constructors h) hc
  obtain ⟨v, hv, hparameter⟩ := exists_of_forall₂ hof.parameters hp
  rw [hparameter.name_eq]
  exact isIdentifier_of_variables hvalid member (Element.mem_membersOf.mp hmember).1 v hv

/-! ## Annotations -/

theorem mem_payload {as : List AnnotationUse} {texts : List Value}
    (h : payload control as = .ok texts) {t : Value} (ht : t ∈ texts) : ∃ a ∈ as, a.text = t := by
  induction as generalizing texts with
  | nil =>
    cases h
    exact nomatch ht
  | cons a rest ih =>
    obtain ⟨controls, -, h⟩ := bind_eq_ok.mp h
    obtain ⟨more, hmore, h⟩ := bind_eq_ok.mp h
    rw [pure_eq_ok] at h
    have hrest : t ∈ more → ∃ b ∈ a :: rest, b.text = t := fun hmem => by
      obtain ⟨b, hb, htext⟩ := ih hmore hmem
      exact ⟨b, List.mem_cons_of_mem a hb, htext⟩
    subst h
    split at ht
    · exact hrest ht
    · rcases List.mem_cons.mp ht with rfl | ht
      · exact ⟨a, List.mem_cons_self, rfl⟩
      · exact hrest ht

/-- Every annotation of a parameter of the element has a text. -/
def TextAnnotations (e : Element) : Prop :=
  ∀ m ∈ e.members, ∀ v ∈ m.parameters, ∀ a ∈ v.annotations, a.text.isText = true

theorem isText_of_isParameterOf {v : Variable} {p : Parameter}
    (h : IsParameterOf control marker v p) (hv : ∀ a ∈ v.annotations, a.text.isText = true) :
    ∀ t ∈ p.annotations, t.isText = true := by
  intro t ht
  obtain ⟨a, ha, rfl⟩ := mem_payload h.annotations_eq ht
  exact hv a ha

theorem isText_of_constructors (he : TextAnnotations e) {cs : List Constructor}
    (h : constructors e control marker = .ok cs) :
    ∀ c ∈ cs, ∀ p ∈ c.parameters, ∀ t ∈ p.annotations, t.isText = true := by
  intro c hc p hp
  obtain ⟨m, hm, hof⟩ := exists_of_forall₂ (forall₂_constructors h) hc
  obtain ⟨v, hv, hparameter⟩ := exists_of_forall₂ hof.parameters hp
  exact isText_of_isParameterOf hparameter (he m (Element.mem_membersOf.mp hm).1 v hv)

theorem isText_of_methods (he : TextAnnotations e) {ms : List Method}
    (h : methods e control = .ok ms) :
    ∀ m ∈ ms, ∀ p ∈ m.parameters, ∀ t ∈ p.annotations, t.isText = true := by
  intro m hm p hp
  obtain ⟨member, hmember, hof⟩ := exists_of_forall₂ (forall₂_methods h) hm
  obtain ⟨v, hv, hparameter⟩ := exists_of_forall₂ hof.parameters hp
  exact isText_of_isParameterOf hparameter (he member (Element.mem_membersOf.mp hmember).1 v hv)

end Extraction
end JavaCompanion
