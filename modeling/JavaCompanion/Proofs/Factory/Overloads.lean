/-
Creation methods of one name.

All creation methods of a factory have one name, so they are told apart by the types of their
parameters alone, and these are the types of what a constructor leaves to the call.  Constructors
with different types may leave the same to the call: what the fields serve is lost from sight
(`creationMethods_alike`).  It is all that is lost.  Where the fields serve two constructors with
the same types at the same places, the creation methods are as different as the constructors
(`creationMethods_told_apart`).
-/
import JavaCompanion.Proofs.Factory.Marker

namespace JavaCompanion
namespace Factory

open Descriptor Extraction Java

variable {bs : List Binding} {cs : List Constructor}

instance (cs : List Constructor) : DecidablePred (HasUnmarked cs) := fun p =>
  inferInstanceAs
    (Decidable (∃ c ∈ cs, ∃ q ∈ c.parameters, q.text = p.text ∧ q.unbound = false))

/-! ## Types of parameters -/

def types (ps : List Parameter) : List String := ps.map (·.type)

/-- The parameters that are left to the call, as no field serves them. -/
def leftToCall (bs : List Binding) (ps : List Parameter) : List Parameter :=
  ps.filter fun p => ¬ IsServed bs p

/-- The types of the parameters that are served from fields, each with its place, where the first
parameter is at the given one. -/
def servedFrom (bs : List Binding) : Nat → List Parameter → List (Nat × String)
  | _, [] => []
  | place, p :: rest =>
    if IsServed bs p then (place, p.type) :: servedFrom bs (place + 1) rest
    else servedFrom bs (place + 1) rest

def served (bs : List Binding) (c : Constructor) : List (Nat × String) :=
  servedFrom bs 0 c.parameters

theorem leftToCall_cons_of_served {p : Parameter} (h : IsServed bs p) (rest : List Parameter) :
    leftToCall bs (p :: rest) = leftToCall bs rest :=
  List.filter_cons_of_neg (by simpa using h)

theorem leftToCall_cons_of_left {p : Parameter} (h : ¬ IsServed bs p) (rest : List Parameter) :
    leftToCall bs (p :: rest) = p :: leftToCall bs rest :=
  List.filter_cons_of_pos (decide_eq_true h)

theorem servedFrom_cons_of_served {p : Parameter} (h : IsServed bs p) (place : Nat)
    (rest : List Parameter) :
    servedFrom bs place (p :: rest) = (place, p.type) :: servedFrom bs (place + 1) rest := by
  rw [servedFrom, if_pos h]

theorem servedFrom_cons_of_left {p : Parameter} (h : ¬ IsServed bs p) (place : Nat)
    (rest : List Parameter) :
    servedFrom bs place (p :: rest) = servedFrom bs (place + 1) rest := by
  rw [servedFrom, if_neg h]

theorem le_of_mem_servedFrom {ps : List Parameter} {place : Nat} {s : Nat × String}
    (h : s ∈ servedFrom bs place ps) : place ≤ s.1 := by
  induction ps generalizing place with
  | nil => exact nomatch h
  | cons p rest ih =>
    by_cases hp : IsServed bs p
    · rw [servedFrom_cons_of_served hp, List.mem_cons] at h
      rcases h with rfl | h
      · exact Nat.le_refl _
      · exact Nat.le_of_succ_le (ih h)
    · rw [servedFrom_cons_of_left hp] at h
      exact Nat.le_of_succ_le (ih h)

/-- What is served from this place on is not served from the next place on. -/
theorem servedFrom_ne_cons (ps : List Parameter) (place : Nat) (type : String)
    (more : List (Nat × String)) : servedFrom bs (place + 1) ps ≠ (place, type) :: more := by
  intro h
  have hle : place + 1 ≤ place :=
    le_of_mem_servedFrom (s := (place, type)) (h ▸ List.mem_cons_self)
  omega

/-- The types of all parameters are put together from the two kinds in one way only. -/
theorem types_eq_of_served {ps qs : List Parameter} {place : Nat}
    (hserved : servedFrom bs place ps = servedFrom bs place qs)
    (hleft : types (leftToCall bs ps) = types (leftToCall bs qs)) : types ps = types qs := by
  induction ps generalizing place qs with
  | nil =>
    cases qs with
    | nil => rfl
    | cons q more =>
      by_cases hq : IsServed bs q
      · rw [servedFrom_cons_of_served hq] at hserved
        exact nomatch hserved
      · rw [leftToCall_cons_of_left hq] at hleft
        exact nomatch hleft
  | cons p rest ih =>
    by_cases hp : IsServed bs p
    · rw [servedFrom_cons_of_served hp] at hserved
      rw [leftToCall_cons_of_served hp] at hleft
      cases qs with
      | nil => exact nomatch hserved
      | cons q more =>
        by_cases hq : IsServed bs q
        · rw [servedFrom_cons_of_served hq, List.cons.injEq] at hserved
          rw [leftToCall_cons_of_served hq] at hleft
          exact List.cons_eq_cons.mpr ⟨congrArg Prod.snd hserved.1, ih hserved.2 hleft⟩
        · rw [servedFrom_cons_of_left hq] at hserved
          exact absurd hserved.symm (servedFrom_ne_cons more place p.type _)
    · rw [servedFrom_cons_of_left hp] at hserved
      rw [leftToCall_cons_of_left hp] at hleft
      cases qs with
      | nil => exact nomatch hleft
      | cons q more =>
        by_cases hq : IsServed bs q
        · rw [servedFrom_cons_of_served hq] at hserved
          exact absurd hserved (servedFrom_ne_cons rest place q.type _)
        · rw [servedFrom_cons_of_left hq] at hserved
          rw [leftToCall_cons_of_left hq] at hleft
          obtain ⟨htype, hrest⟩ := List.cons_eq_cons.mp hleft
          exact List.cons_eq_cons.mpr ⟨htype, ih hserved hrest⟩

/-! ## Plans -/

/-- The types of the parameters of every constructor of an element. -/
def constructorTypes (e : Element) : List (List String) :=
  (e.membersOf .constructor).map fun m => m.parameters.map (·.type)

theorem types_of_forall₂ {control : Value} {marker : Option String} {vs : List Variable}
    {ps : List Parameter} (h : List.Forall₂ (IsParameterOf control marker) vs ps) :
    types ps = vs.map (·.type) := by
  induction h with
  | nil => rfl
  | cons hp _ ih => exact List.cons_eq_cons.mpr ⟨hp.type_eq, ih⟩

theorem map_types_of_forall₂ {control : Value} {marker : Option String} {ms : List Member}
    (h : List.Forall₂ (IsConstructorOf control marker) ms cs) :
    cs.map (fun c => types c.parameters) = ms.map fun m => m.parameters.map (·.type) := by
  induction h with
  | nil => rfl
  | cons hc _ ih => exact List.cons_eq_cons.mpr ⟨types_of_forall₂ hc.parameters, ih⟩

/-- What no field serves is what no constructor has without the marker. -/
theorem leftToCall_bound (e : Element) (config : Config) (settings : Settings)
    (cs : List Constructor) (ps : List Parameter) :
    leftToCall (Plan.of e config settings cs).bound ps
      = ps.filter fun p => ¬ HasUnmarked cs p := by
  refine List.filter_congr fun p _ => ?_
  rw [decide_eq_decide]
  exact not_congr (isServed_bound e config settings cs)

/-- A creation method takes what no constructor has without the marker, and passes on all other
parameters of its constructor from fields.  So two of them are alike exactly where the same types
are left to the call.  If no two constructors are alike, creation methods are told apart wherever
fields serve their constructors with the same types at the same places. -/
theorem creationMethods_told_apart {config : Config} {e : Element} {plan : Plan}
    (h : Factory.plan config e = .ok plan) :
    ∃ cs, List.Forall₂ (IsConstructorOf config.controlNamespace (some config.unboundMarker))
        (e.membersOf .constructor) cs
      ∧ (∀ p, IsServed plan.bound p ↔ HasUnmarked cs p)
      ∧ (∀ b ∈ plan.bound, IsField plan.settings.providers config.providerType b)
      ∧ List.Forall₂ (Creates plan.bound) cs plan.creationMethods
      ∧ List.Forall₂ (fun c m => m.parameters = c.parameters.filter fun p => ¬ HasUnmarked cs p)
        cs plan.creationMethods
      ∧ ((constructorTypes e).Nodup → (cs.zip plan.creationMethods).Pairwise fun x y =>
          served plan.bound x.1 = served plan.bound y.1 →
            types x.2.parameters ≠ types y.2.parameters) := by
  obtain ⟨settings, cs, -, -, hcs, -, rfl⟩ := plan_eq_ok.mp h
  have hmembers := forall₂_constructors hcs
  have hcreates := forall₂_creates e config settings cs
  refine ⟨cs, hmembers, fun p => isServed_bound e config settings cs,
    fun b hb => isField_of_mem_bind hb, hcreates, ?_, fun hnodup => ?_⟩
  · refine hcreates.imp fun c m hm => hm.parameters_eq.trans ?_
    exact leftToCall_bound e config settings cs c.parameters
  · have hmethods : (Plan.of e config settings cs).creationMethods
        = cs.map (creationMethod (Plan.of e config settings cs).bound) := rfl
    have hleft : ∀ c, (creationMethod (Plan.of e config settings cs).bound c).parameters
        = leftToCall (Plan.of e config settings cs).bound c.parameters :=
      fun c => creationParameters_eq c
    rw [constructorTypes, ← map_types_of_forall₂ hmembers, List.Nodup, List.pairwise_map] at hnodup
    rw [hmethods, ← List.map_prod_left_eq_zip, List.pairwise_map]
    refine hnodup.imp fun {c c'} hne hserved htypes => hne ?_
    rw [hleft, hleft] at htypes
    exact types_eq_of_served hserved htypes

/-- A type with three constructors, of which the first two take the same to a field, and the first
and the last leave the same to the call. -/
def timetable : Element where
  simpleName := "Timetable"
  package := "com.example"
  members :=
    [ { kind := .constructor, name := .text "<init>",
        parameters := [⟨"Clock", "clock", []⟩, ⟨"String", "id",
          [⟨.text "com.companion.annotations.factory.Unbound", .null⟩]⟩] },
      { kind := .constructor, name := .text "<init>",
        parameters := [⟨"Clock", "clock", []⟩, ⟨"int", "number",
          [⟨.text "com.companion.annotations.factory.Unbound", .null⟩]⟩] },
      { kind := .constructor, name := .text "<init>",
        parameters := [⟨"Zone", "zone", []⟩, ⟨"String", "id",
          [⟨.text "com.companion.annotations.factory.Unbound", .null⟩]⟩] } ]

def timetableConstructors : List Constructor :=
  [ { parameters := [{ type := "Clock", name := "clock" },
        { type := "String", name := "id", unbound := true }] },
    { parameters := [{ type := "Clock", name := "clock" },
        { type := "int", name := "number", unbound := true }] },
    { parameters := [{ type := "Zone", name := "zone" },
        { type := "String", name := "id", unbound := true }] } ]

def timetablePlan : Plan := .of timetable {} {} timetableConstructors

theorem plan_timetable : Factory.plan {} timetable = .ok timetablePlan := by
  refine plan_eq_ok.mpr ⟨_, _, rfl, ?_, rfl, rfl, rfl⟩
  show Settings.ofValues [] _ = _
  rw [Settings.ofValues, Config.checkOptions_eq_ok.mpr (by decide)]
  rfl

theorem timetablePlan_told_apart : Factory.plan {} timetable = .ok timetablePlan
    ∧ (constructorTypes timetable).Nodup
    ∧ ∃ cs, List.Forall₂ (IsConstructorOf (.text "com.companion.annotations")
          (some "com.companion.annotations.factory.Unbound"))
        (timetable.membersOf .constructor) cs
      ∧ List.Forall₂ (Creates timetablePlan.bound) cs timetablePlan.creationMethods
      ∧ List.Forall₂ (fun c m => m.parameters = c.parameters.filter fun p => ¬ HasUnmarked cs p)
        cs timetablePlan.creationMethods
      ∧ (cs.zip timetablePlan.creationMethods).Pairwise fun x y =>
          served timetablePlan.bound x.1 = served timetablePlan.bound y.1 →
            types x.2.parameters ≠ types y.2.parameters := by
  have hnodup : (constructorTypes timetable).Nodup := by decide
  obtain ⟨cs, hmembers, -, -, hcreates, hleft, happart⟩ := creationMethods_told_apart plan_timetable
  exact ⟨plan_timetable, hnodup, cs, hmembers, hcreates, hleft, happart hnodup⟩

/-- Constructors with different types can have creation methods with the same: here the first and
the last take nothing but the identifier. -/
theorem creationMethods_alike : ∃ plan, Factory.plan {} timetable = .ok plan
    ∧ (constructorTypes timetable).Nodup
    ∧ plan.creationMethods.map (fun m => types m.parameters) = [["String"], ["int"], ["String"]]
    ∧ ¬ (plan.creationMethods.map fun m => types m.parameters).Nodup :=
  ⟨timetablePlan, plan_timetable, by decide, by decide, by decide⟩

end Factory
end JavaCompanion
