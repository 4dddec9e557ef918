/-
The marker of parameters that are left to a call.

The marker keeps a parameter out of the fields on its own account, but parameters written
alike are one, with the marker or without it.  So a marked parameter is left to the call
exactly when no constructor of the type has it without the marker (`plan_marked_parameters`).
-/
import JavaCompanion.Proofs.Factory.CreationMethod

namespace JavaCompanion
namespace Factory

open Descriptor Extraction Java

/-- Whether some constructor has the parameter without the marker. -/
def HasUnmarked (cs : List Constructor) (p : Parameter) : Prop :=
  ∃ c ∈ cs, ∃ q ∈ c.parameters, q.text = p.text ∧ q.unbound = false

/-- A marked parameter is left to the call, unless it is written like one without the marker;
then it is served from the field of that one. -/
def PassesMarked (bs : List Binding) (cs : List Constructor) (m : CreationMethod) (p : Parameter)
    (argument : String) : Prop :=
  p.unbound = true →
    (¬ HasUnmarked cs p → argument = p.name ∧ p ∈ m.parameters)
      ∧ (HasUnmarked cs p → p ∉ m.parameters
        ∧ ∃ b ∈ bs, b.parameter.text = p.text ∧ b.parameter.unbound = false
          ∧ argument = b.reference)

/-- No marked parameter has a field of its own. -/
theorem unbound_of_mem_bound {e : Element} {config : Config} {settings : Settings}
    {cs : List Constructor} {b : Binding} (hb : b ∈ (Plan.of e config settings cs).bound) :
    b.parameter.unbound = false :=
  (mem_boundParameters (mem_boundParameters_of_mem_bound e config settings cs hb)).2

theorem passesMarked_of_creates {e : Element} {config : Config} {settings : Settings}
    {cs : List Constructor} {c : Constructor} {m : CreationMethod}
    (h : Creates (Plan.of e config settings cs).bound c m) :
    List.Forall₂ (PassesMarked (Plan.of e config settings cs).bound cs m)
      c.parameters m.arguments := by
  refine h.passes.imp fun p a hpass _ => ⟨fun hnone => ?_, fun hsome => ?_⟩
  · rcases hpass with ⟨b, hb, htext, -, -⟩ | ⟨-, harg, hmem⟩
    · exact absurd ((isServed_bound e config settings cs).mp ⟨b, hb, htext⟩) hnone
    · exact ⟨harg, hmem⟩
  · have hserved := (isServed_bound e config settings cs).mpr hsome
    rcases hpass with ⟨b, hb, htext, -, harg⟩ | ⟨hno, -, -⟩
    · refine ⟨fun hmem => ?_, b, hb, htext, ?_, harg⟩
      · rw [h.parameters_eq, List.mem_filter, decide_eq_true_iff] at hmem
        exact hmem.2 hserved
      · exact unbound_of_mem_bound hb
    · exact absurd hserved hno

/-- No field is that of a marked parameter, and a marked parameter is left to the call exactly
where no constructor has it without the marker. -/
theorem plan_marked_parameters {config : Config} {e : Element} {plan : Plan}
    (h : Factory.plan config e = .ok plan) :
    ∃ cs, List.Forall₂ (IsConstructorOf config.controlNamespace (some config.unboundMarker))
        (e.membersOf .constructor) cs
      ∧ (∀ b ∈ plan.bound, b.parameter.unbound = false)
      ∧ List.Forall₂ (fun c m =>
          List.Forall₂ (PassesMarked plan.bound cs m) c.parameters m.arguments)
        cs plan.creationMethods := by
  obtain ⟨settings, cs, -, -, hcs, -, rfl⟩ := plan_eq_ok.mp h
  exact ⟨cs, forall₂_constructors hcs, fun b hb => unbound_of_mem_bound hb,
    (forall₂_creates e config settings cs).imp fun c m hm => passesMarked_of_creates hm⟩

/-- A type with three constructors, of which the second marks a parameter that the first has
without the marker, and the third marks one that no other has. -/
def markedTwice : Element where
  simpleName := "Account"
  package := "com.example"
  members :=
    [ { kind := .constructor, name := .text "<init>", parameters := [⟨"String", "id", []⟩] },
      { kind := .constructor, name := .text "<init>",
        parameters := [⟨"String", "id",
          [⟨.text "com.companion.annotations.factory.Unbound", .null⟩]⟩] },
      { kind := .constructor, name := .text "<init>",
        parameters := [⟨"String", "id", []⟩, ⟨"int", "limit",
          [⟨.text "com.companion.annotations.factory.Unbound", .null⟩]⟩] } ]

def markedTwiceConstructors : List Constructor :=
  [ { parameters := [{ type := "String", name := "id" }] },
    { parameters := [{ type := "String", name := "id", unbound := true }] },
    { parameters := [{ type := "String", name := "id" },
        { type := "int", name := "limit", unbound := true }] } ]

def markedTwicePlan : Plan := .of markedTwice {} {} markedTwiceConstructors

theorem plan_markedTwice : Factory.plan {} markedTwice = .ok markedTwicePlan := by
  refine plan_eq_ok.mpr ⟨_, _, rfl, ?_, rfl, rfl, rfl⟩
  show Settings.ofValues [] _ = _
  rw [Settings.ofValues, Config.checkOptions_eq_ok.mpr (by decide)]
  rfl

theorem markedTwicePlan_marked : Factory.plan {} markedTwice = .ok markedTwicePlan
    ∧ ∃ cs, List.Forall₂ (IsConstructorOf (.text "com.companion.annotations")
          (some "com.companion.annotations.factory.Unbound"))
        (markedTwice.membersOf .constructor) cs
      ∧ (∀ b ∈ markedTwicePlan.bound, b.parameter.unbound = false)
      ∧ List.Forall₂ (fun c m =>
          List.Forall₂ (PassesMarked markedTwicePlan.bound cs m) c.parameters m.arguments)
        cs markedTwicePlan.creationMethods :=
  ⟨plan_markedTwice, plan_marked_parameters plan_markedTwice⟩

/-- The marker alone does not leave a parameter to the call: here the second constructor marks
its only parameter, and the creation method takes none and passes on the field. -/
theorem marked_parameter_served : ∃ plan, Factory.plan {} markedTwice = .ok plan
    ∧ (∃ m, (markedTwice.membersOf .constructor)[1]? = some m
      ∧ m.parameters.map (fun v => (v.name, carries (some ({} : Config).unboundMarker) v))
        = [("id", true)])
    ∧ ∃ m, plan.creationMethods[1]? = some m ∧ m.parameters.map Parameter.text = []
      ∧ m.arguments = ["this.id"] :=
  ⟨markedTwicePlan, plan_markedTwice, ⟨_, rfl, rfl⟩, ⟨_, rfl, rfl, rfl⟩⟩

end Factory
end JavaCompanion
