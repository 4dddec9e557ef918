/-
Fields of providers.

A provider that is put around a type is told by what stands before the first angle bracket.  So
where the type of providers has no angle bracket of its own and no blanks at its ends, a type that
was wrapped is recognised and not wrapped again (`isProvider_wrapProvider`), and the two decisions
that a plan makes for each field, on its type and on whether it is asked for the value, never
part (`plan_wraps_providers_once`).
-/
import JavaCompanion.Proofs.Factory.CreationMethod
import JavaCompanion.Proofs.Java.Identifier

namespace JavaCompanion

namespace Java

/-! ## Types -/

/-- A type of providers that stands before its type argument as it is. -/
structure IsPlainType (provider : String) : Prop where
  no_argument : '<' ∉ provider.toList
  trimmed : Text.strip provider = provider

variable {provider : String}

theorem rawType_applied (h : IsPlainType provider) (argument : String) :
    rawType (provider ++ "<" ++ argument ++ ">") = provider := by
  have hall : ∀ c ∈ provider.toList, (c != '<') = true := by
    intro c hc
    exact bne_iff_ne.mpr fun heq => h.no_argument (heq ▸ hc)
  have hbefore : Text.before '<' (provider ++ "<" ++ argument ++ ">") = provider := by
    have hangle : "<".toList = ['<'] := rfl
    rw [Text.before, String.toList_append, String.toList_append, String.toList_append, hangle,
      List.append_assoc, List.append_assoc, List.takeWhile_append_of_pos hall]
    simp
  rw [rawType, hbefore, h.trimmed]

theorem isProvider_applied (h : IsPlainType provider) (argument : String) :
    isProvider (provider ++ "<" ++ argument ++ ">") (.text provider) = true := by
  rw [isProvider, rawType_applied h]
  simp [Value.text?]

theorem wrapProvider_of_isProvider {type : String} {provider : Value}
    (h : isProvider type provider = true) : wrapProvider type provider = type := by
  rw [wrapProvider, if_pos h]

theorem isProvider_wrapProvider (h : IsPlainType provider) (type : String) :
    isProvider (wrapProvider type (.text provider)) (.text provider) = true := by
  unfold wrapProvider
  by_cases hknown : isProvider type (.text provider) = true
  · rw [if_pos hknown]
    exact hknown
  · rw [if_neg hknown]
    exact isProvider_applied h (box type)

end Java

namespace Factory

open Descriptor Extraction Java

/-! ## Fields -/

/-- Whether the expression asks a provider for its value. -/
def AsksProvider (reference : String) : Prop := ".get()".toList <:+ reference.toList

/-- A field that holds a provider: that of the parameter itself, which is passed on as it is, or
one that is put around the reference type of the parameter and asked for the value. -/
structure IsProviderField (provider : String) (b : Binding) : Prop where
  isProvider : isProvider b.fieldType (.text provider) = true
  fieldType_eq : b.fieldType =
    if Java.isProvider b.parameter.type (.text provider) then b.parameter.type
    else provider ++ "<" ++ box b.parameter.type ++ ">"
  asks_iff : AsksProvider b.reference
    ↔ Java.isProvider b.parameter.type (.text provider) = false

/-- A field that holds the value of the parameter. -/
structure IsValueField (b : Binding) : Prop where
  fieldType_eq : b.fieldType = b.parameter.type
  reference_eq : b.reference = "this." ++ b.fieldName
  not_asks : ¬ AsksProvider b.reference

variable {provider : String} {b : Binding}

theorem asksProvider_get (name : String) : AsksProvider ("this." ++ name ++ ".get()") := by
  unfold AsksProvider
  rw [String.toList_append]
  exact List.suffix_append _ _

/-- No field name is mistaken for a call. -/
theorem not_asksProvider {name : String} (h : ')' ∉ name.toList) :
    ¬ AsksProvider ("this." ++ name) := by
  intro hasks
  have hmem : ')' ∈ ("this." ++ name).toList := List.IsSuffix.subset hasks (by decide)
  rw [String.toList_append, List.mem_append] at hmem
  rcases hmem with hthis | hname
  · exact absurd hthis (by decide)
  · exact h hname

theorem isProviderField_of_isField (hp : IsPlainType provider)
    (h : IsField true (.text provider) b) (hname : ')' ∉ b.fieldName.toList) :
    IsProviderField provider b := by
  have hreference := h.reference_eq
  have htype := h.fieldType_eq
  rw [if_pos rfl] at htype
  refine ⟨htype ▸ isProvider_wrapProvider hp _, htype, ?_⟩
  by_cases hknown : isProvider b.parameter.type (.text provider) = true
  · have hsame : b.fieldType = b.parameter.type := by
      rw [htype, wrapProvider_of_isProvider hknown]
    rw [if_pos hsame, String.append_empty] at hreference
    rw [hreference, hknown]
    exact iff_of_false (not_asksProvider hname) Bool.true_eq_false.mp
  · rw [Bool.not_eq_true] at hknown
    have hother : b.fieldType ≠ b.parameter.type := htype ▸ wrapProvider_ne hknown
    rw [if_neg hother] at hreference
    rw [hreference]
    exact iff_of_true (asksProvider_get b.fieldName) hknown

theorem isValueField_of_isField {providerType : Value} (h : IsField false providerType b)
    (hname : ')' ∉ b.fieldName.toList) : IsValueField b := by
  have htype : b.fieldType = b.parameter.type := h.fieldType_eq
  have hreference : b.reference = "this." ++ b.fieldName := by
    rw [h.reference_eq, if_pos htype, String.append_empty]
  exact ⟨htype, hreference, hreference ▸ not_asksProvider hname⟩

theorem exists_claim_of_mem_bind {providers : Bool} {providerType : Value} {scope : NameScope}
    {ps : List Parameter} (h : b ∈ bind providers providerType scope ps) :
    ∃ scope : NameScope, b.fieldName = (scope.claim b.parameter.name "").1 := by
  induction ps generalizing scope with
  | nil => exact absurd h List.not_mem_nil
  | cons p rest ih =>
    rw [bind, List.mem_cons] at h
    rcases h with rfl | hrest
    · exact ⟨scope, rfl⟩
    · exact ih hrest

/-! ## Plans -/

section PlanOf

variable {e : Element} {config : Config} {settings : Settings} {cs : List Constructor}

theorem notMem_fieldName (hcs : ∀ c ∈ cs, ∀ p ∈ c.parameters, isIdentifier p.name = true)
    (hb : b ∈ (Plan.of e config settings cs).bound) : ')' ∉ b.fieldName.toList := by
  obtain ⟨⟨c, hc, hp⟩, -⟩ :=
    mem_boundParameters (mem_boundParameters_of_mem_bound e config settings cs hb)
  obtain ⟨scope, hname⟩ := exists_claim_of_mem_bind hb
  rw [hname]
  intro hmem
  rcases NameScope.mem_claim hmem with hmem | hmem | hdigit
  · exact not_mem_of_isIdentifier (hcs c hc b.parameter hp) rfl (by decide) hmem
  · exact absurd hmem (by decide)
  · exact absurd hdigit (by decide)

/-- What is passed on for a parameter that has a field is the reference of that field. -/
theorem forall₂_references : List.Forall₂ (fun c m => List.Forall₂ (fun p argument =>
      ∀ b ∈ (Plan.of e config settings cs).bound, b.parameter.text = p.text →
        argument = b.reference) c.parameters m.arguments)
    cs (Plan.of e config settings cs).creationMethods := by
  refine (forall₂_creates e config settings cs).imp fun c m hcreates => ?_
  refine hcreates.passes.imp fun p argument hpass b hb htext => ?_
  rcases hpass with ⟨b', -, -, honly, harg⟩ | ⟨hno, -, -⟩
  · rw [honly b hb htext]
    exact harg
  · exact absurd ⟨b, hb, htext⟩ hno

end PlanOf

/-- A type that was wrapped is recognised and not wrapped again.  A plan with providers has one in
every field, put around the type of the parameter and asked for the value exactly where that type
is none; a plan without has the values in its fields.  Creation methods pass on the references of
the fields. -/
theorem plan_wraps_providers_once (hp : IsPlainType provider) :
    (∀ type, isProvider (wrapProvider type (.text provider)) (.text provider) = true
        ∧ wrapProvider (wrapProvider type (.text provider)) (.text provider)
          = wrapProvider type (.text provider))
      ∧ ∀ (config : Config) (e : Element) (plan : Plan), config.providerType = .text provider →
        Factory.plan config e = .ok plan →
        (∀ b ∈ plan.bound,
            if plan.settings.providers then IsProviderField provider b else IsValueField b)
          ∧ ∃ cs, List.Forall₂
              (IsConstructorOf config.controlNamespace (some config.unboundMarker))
              (e.membersOf .constructor) cs
            ∧ List.Forall₂ (fun c m => List.Forall₂ (fun p argument =>
                ∀ b ∈ plan.bound, b.parameter.text = p.text → argument = b.reference)
                c.parameters m.arguments) cs plan.creationMethods := by
  refine ⟨fun type => ⟨isProvider_wrapProvider hp type,
    wrapProvider_of_isProvider (isProvider_wrapProvider hp type)⟩, ?_⟩
  intro config e plan hprovider hplan
  obtain ⟨settings, cs, hvalid, -, hcs, -, rfl⟩ := plan_eq_ok.mp hplan
  refine ⟨fun b hb => ?_, cs, forall₂_constructors hcs, forall₂_references⟩
  have hname := notMem_fieldName (isIdentifier_of_constructors hvalid hcs) hb
  have hfield : IsField settings.providers config.providerType b := isField_of_mem_bind hb
  rw [hprovider] at hfield
  show if settings.providers then _ else _
  cases hproviders : settings.providers with
  | true => exact isProviderField_of_isField hp (hproviders ▸ hfield) hname
  | false => exact isValueField_of_isField (hproviders ▸ hfield) hname

/-- A configuration with providers of another make. -/
def suppliers : Config := { providerType := .text "com.example.Supplier" }

/-- A type whose constructors take a primitive value, two providers and a list of providers. -/
def depot : Element where
  simpleName := "Depot"
  annotations := [("factory", [("providers", .bool true)])]
  members :=
    [ { kind := .constructor, name := .text "<init>",
        parameters := [⟨"int", "limit", []⟩, ⟨"com.example.Supplier <Map<Key, Part>>", "parts", []⟩] },
      { kind := .constructor, name := .text "<init>",
        parameters := [⟨"List<Provider<Clock>>", "limit", []⟩, ⟨"Provider<Clock>", "clock", []⟩,
          ⟨"int", "limit", []⟩] } ]

def depotConstructors : List Constructor :=
  [ { parameters := [{ type := "int", name := "limit" },
        { type := "com.example.Supplier <Map<Key, Part>>", name := "parts" }] },
    { parameters := [{ type := "List<Provider<Clock>>", name := "limit" },
        { type := "Provider<Clock>", name := "clock" }, { type := "int", name := "limit" }] } ]

def depotPlan : Plan := .of depot suppliers { providers := true } depotConstructors

theorem plan_depot : Factory.plan suppliers depot = .ok depotPlan := by
  refine plan_eq_ok.mpr ⟨_, _, rfl, ?_, rfl, rfl, rfl⟩
  show Settings.ofValues [("providers", .bool true)] _ = _
  rw [Settings.ofValues, Config.checkOptions_eq_ok.mpr (by decide)]
  rfl

theorem isPlainType_supplier : IsPlainType "com.example.Supplier" :=
  ⟨by decide, by decide +kernel⟩

theorem depotPlan_wraps_once : IsPlainType "com.example.Supplier"
    ∧ Factory.plan suppliers depot = .ok depotPlan
    ∧ wrapProvider (wrapProvider "int" (.text "com.example.Supplier"))
        (.text "com.example.Supplier") = wrapProvider "int" (.text "com.example.Supplier")
    ∧ ∀ b ∈ depotPlan.bound, IsProviderField "com.example.Supplier" b := by
  have hwraps := plan_wraps_providers_once isPlainType_supplier
  exact ⟨isPlainType_supplier, plan_depot, (hwraps.1 "int").2,
    (hwraps.2 suppliers depot depotPlan rfl plan_depot).1⟩

example : depotPlan.bound.map (fun b => (b.fieldType, b.reference)) =
    [ ("com.example.Supplier<java.lang.Integer>", "this.limit.get()"),
      ("com.example.Supplier <Map<Key, Part>>", "this.parts"),
      ("com.example.Supplier<List<Provider<Clock>>>", "this.limit1.get()"),
      ("Provider<Clock>", "this.clock") ] := by
  decide +kernel

end Factory
end JavaCompanion
