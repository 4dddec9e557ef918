/-
What creation methods take and pass on.

Every constructor of a type becomes one creation method.  Each parameter of the constructor
is either served from the field of the bound parameter that is written alike, or left to the
call under its own name, and the two kinds make up all parameters of the constructor
(`plan_partitions_parameters`).
-/
import JavaCompanion.Proofs.Config.Settings
import JavaCompanion.Proofs.Extraction.Signatures
import JavaCompanion.Proofs.Factory.Binding
import Mathlib.Data.List.Perm.Basic

namespace JavaCompanion
namespace Factory

open Descriptor Extraction Java

/-! ## One parameter -/

/-- Whether the value of a parameter comes from a field. -/
def IsServed (bs : List Binding) (p : Parameter) : Prop := ∃ b ∈ bs, b.parameter.text = p.text

instance (bs : List Binding) : DecidablePred (IsServed bs) := fun p =>
  inferInstanceAs (Decidable (∃ b ∈ bs, b.parameter.text = p.text))

/-- A parameter is passed on as the reference of the one binding that is written alike, or,
where there is none, under its own name as a parameter of the creation method. -/
def Passes (bs : List Binding) (m : CreationMethod) (p : Parameter) (argument : String) : Prop :=
  (∃ b ∈ bs, b.parameter.text = p.text ∧ (∀ b' ∈ bs, b'.parameter.text = p.text → b' = b)
      ∧ argument = b.reference)
    ∨ (¬ IsServed bs p ∧ argument = p.name ∧ p ∈ m.parameters)

/-- What a creation method makes of its constructor. -/
structure Creates (bs : List Binding) (c : Constructor) (m : CreationMethod) : Prop where
  thrown_eq : m.thrown = c.thrown
  passes : List.Forall₂ (Passes bs m) c.parameters m.arguments
  parameters_eq : m.parameters = c.parameters.filter fun p => ¬ IsServed bs p
  partition : c.parameters.Perm (c.parameters.filter (fun p => IsServed bs p) ++ m.parameters)

variable {bs : List Binding} {p : Parameter}

theorem isAmong_parameters : isAmong (bs.map (·.parameter)) p = true ↔ IsServed bs p := by
  rw [isAmong_eq_true]
  constructor
  · rintro ⟨q, hq, htext⟩
    obtain ⟨b, hb, rfl⟩ := List.mem_map.mp hq
    exact ⟨b, hb, htext⟩
  · rintro ⟨b, hb, htext⟩
    exact ⟨b.parameter, List.mem_map.mpr ⟨b, hb, rfl⟩, htext⟩

/-- The creation method takes, in order, the parameters that no field serves. -/
theorem creationParameters_eq (c : Constructor) :
    creationParameters c (bs.map (·.parameter)) = c.parameters.filter fun p => ¬ IsServed bs p := by
  refine List.filter_congr fun p _ => ?_
  rw [Bool.eq_iff_iff, decide_eq_true_iff, ← isAmong_parameters, Bool.not_eq_true',
    Bool.not_eq_true]

theorem argument_of_served (h : IsServed bs p) :
    ∃ b ∈ bs, b.parameter.text = p.text ∧ argument bs p = b.reference := by
  unfold argument
  cases hfind : bs.find? fun b => b.parameter.same p with
  | none =>
    obtain ⟨b, hb, htext⟩ := h
    have hnone := List.find?_eq_none.mp hfind b hb
    exact absurd (beq_iff_eq.mpr htext) hnone
  | some b =>
    have hsame := List.find?_some hfind
    exact ⟨b, List.mem_of_find?_eq_some hfind, by simpa [Parameter.same] using hsame, rfl⟩

theorem argument_of_not_served (h : ¬ IsServed bs p) : argument bs p = p.name := by
  have hnone : (bs.find? fun b => b.parameter.same p) = none := by
    refine List.find?_eq_none.mpr fun b hb hsame => h ⟨b, hb, ?_⟩
    simpa [Parameter.same] using hsame
  rw [argument, hnone]

/-- Where no two bindings are written alike, one reference is all there is to choose. -/
theorem passes_argument (hbs : (bs.map (·.parameter.text)).Nodup) {c : Constructor}
    (hp : p ∈ c.parameters) : Passes bs (creationMethod bs c) p (argument bs p) := by
  by_cases h : IsServed bs p
  · obtain ⟨b, hb, htext, harg⟩ := argument_of_served h
    refine .inl ⟨b, hb, htext, fun b' hb' htext' => ?_, harg⟩
    exact List.inj_on_of_nodup_map hbs hb' hb (htext'.trans htext.symm)
  · refine .inr ⟨h, argument_of_not_served h, ?_⟩
    show p ∈ creationParameters c (bs.map (·.parameter))
    rw [creationParameters_eq, List.mem_filter]
    exact ⟨hp, decide_eq_true h⟩

/-! ## One constructor -/

theorem creates_creationMethod (hbs : (bs.map (·.parameter.text)).Nodup) (c : Constructor) :
    Creates bs c (creationMethod bs c) where
  thrown_eq := rfl
  passes := by
    show List.Forall₂ _ c.parameters (c.parameters.map (argument bs))
    rw [List.forall₂_map_right_iff, List.forall₂_same]
    exact fun p hp => passes_argument hbs hp
  parameters_eq := creationParameters_eq c
  partition := by
    show List.Perm _ (_ ++ creationParameters c (bs.map (·.parameter)))
    rw [creationParameters_eq]
    have hperm := List.filter_append_perm (fun p => decide (IsServed bs p)) c.parameters
    simpa using hperm.symm

/-! ## Whole plans -/

theorem plan_eq_ok {config : Config} {e : Element} {plan : Plan} :
    Factory.plan config e = .ok plan ↔ ∃ settings cs, validate e = .ok ()
      ∧ Settings.ofValues ((e.annotationValues? "factory").getD []) config.generatorOptions
          = .ok settings
      ∧ constructors e config.controlNamespace (some config.unboundMarker) = .ok cs
      ∧ requireTexts cs = .ok () ∧ Plan.of e config settings cs = plan := by
  simp only [Factory.plan, bind_eq_ok, shaped_eq_ok, pure_eq_ok]
  constructor
  · rintro ⟨_, hv, settings, hs, cs, hc, _, ht, hp⟩
    exact ⟨settings, cs, hv, hs, hc, ht, hp⟩
  · rintro ⟨settings, cs, hv, hs, hc, ht, hp⟩
    exact ⟨(), hv, settings, hs, cs, hc, (), ht, hp⟩

section PlanOf

variable (e : Element) (config : Config) (settings : Settings) (cs : List Constructor)

theorem bound_parameters :
    (Plan.of e config settings cs).bound.map (·.parameter) = boundParameters cs :=
  bind_parameters {} (boundParameters cs)

theorem mem_boundParameters_of_mem_bound {b : Binding}
    (hb : b ∈ (Plan.of e config settings cs).bound) : b.parameter ∈ boundParameters cs := by
  rw [← bound_parameters e config settings cs]
  exact List.mem_map.mpr ⟨b, hb, rfl⟩

theorem bound_texts_nodup :
    ((Plan.of e config settings cs).bound.map (·.parameter.text)).Nodup := by
  have hmap : (Plan.of e config settings cs).bound.map (·.parameter.text)
      = (boundParameters cs).map Parameter.text := by
    rw [← bound_parameters e config settings cs, List.map_map]
    rfl
  rw [hmap]
  exact boundParameters_texts_nodup cs

/-- A parameter is served exactly if some constructor has it without the marker. -/
theorem isServed_bound {p : Parameter} : IsServed (Plan.of e config settings cs).bound p
    ↔ ∃ c ∈ cs, ∃ q ∈ c.parameters, q.text = p.text ∧ q.unbound = false := by
  rw [← isAmong_parameters, bound_parameters, isAmong_eq_true]
  exact exists_mem_boundParameters

theorem forall₂_creates : List.Forall₂ (Creates (Plan.of e config settings cs).bound) cs
    (Plan.of e config settings cs).creationMethods := by
  show List.Forall₂ _ cs (cs.map (creationMethod (Plan.of e config settings cs).bound))
  rw [List.forall₂_map_right_iff, List.forall₂_same]
  exact fun c _ => creates_creationMethod (bound_texts_nodup e config settings cs) c

end PlanOf

/-- How the plan of a factory relates to the constructors of its type. -/
structure Partitions (config : Config) (e : Element) (plan : Plan) (cs : List Constructor) :
    Prop where
  constructors : List.Forall₂ (IsConstructorOf config.controlNamespace (some config.unboundMarker))
    (e.membersOf .constructor) cs
  bound_eq : plan.bound.map (·.parameter) = boundParameters cs
  fields : ∀ b ∈ plan.bound, IsField plan.settings.providers config.providerType b
  fieldNames_nodup : (plan.bound.map (·.fieldName)).Nodup
  creates : List.Forall₂ (Creates plan.bound) cs plan.creationMethods

/-- Each constructor has its creation method, which serves or takes every one of its
parameters, and no two fields have one name. -/
theorem plan_partitions_parameters {config : Config} {e : Element} {plan : Plan}
    (h : Factory.plan config e = .ok plan) : ∃ cs, Partitions config e plan cs := by
  obtain ⟨settings, cs, -, -, hcs, -, rfl⟩ := plan_eq_ok.mp h
  exact ⟨cs, {
    constructors := forall₂_constructors hcs
    bound_eq := bound_parameters e config settings cs
    fields := fun b hb => isField_of_mem_bind hb
    fieldNames_nodup := bind_fieldNames_nodup {} (boundParameters cs)
    creates := forall₂_creates e config settings cs }⟩

/-- A type whose constructors share a name between parameters of several texts, with
providers for those that are none. -/
def overloaded : Element where
  simpleName := "Account"
  package := "com.example"
  annotations := [("factory", [("providers", .bool true)])]
  members :=
    [ { kind := .constructor, name := .text "<init>",
        parameters := [⟨"int", "limit", []⟩, ⟨"Provider<Clock>", "clock", []⟩,
          ⟨"String", "id", [⟨.text "com.companion.annotations.factory.Unbound", .null⟩]⟩] },
      { kind := .constructor, name := .text "<init>",
        parameters := [⟨"int", "limit", []⟩, ⟨"long", "limit", []⟩,
          ⟨"int", "limit", [⟨.text "Min", .text "@Min(1)"⟩]⟩, ⟨"int", "limit", []⟩],
        thrown := ["java.io.IOException"] } ]

def overloadedConstructors : List Constructor :=
  [ { parameters :=
        [{ type := "int", name := "limit" }, { type := "Provider<Clock>", name := "clock" },
          { type := "String", name := "id", unbound := true }] },
    { parameters :=
        [{ type := "int", name := "limit" }, { type := "long", name := "limit" },
          { type := "int", name := "limit", annotations := [.text "@Min(1)"] },
          { type := "int", name := "limit" }],
      thrown := ["java.io.IOException"] } ]

def overloadedPlan : Plan := .of overloaded {} { providers := true } overloadedConstructors

theorem plan_overloaded : Factory.plan {} overloaded = .ok overloadedPlan := by
  refine plan_eq_ok.mpr ⟨_, _, rfl, ?_, rfl, rfl, rfl⟩
  show Settings.ofValues [("providers", .bool true)] _ = _
  rw [Settings.ofValues, Config.checkOptions_eq_ok.mpr (by decide)]
  rfl

theorem overloadedPlan_partitions : Factory.plan {} overloaded = .ok overloadedPlan
    ∧ ∃ cs, Partitions {} overloaded overloadedPlan cs :=
  ⟨plan_overloaded, plan_partitions_parameters plan_overloaded⟩

example : overloadedPlan.creationMethods.map (·.arguments) =
    [["this.limit.get()", "this.clock", "id"],
      ["this.limit.get()", "this.limit1.get()", "this.limit2.get()", "this.limit.get()"]] := rfl

end Factory
end JavaCompanion
