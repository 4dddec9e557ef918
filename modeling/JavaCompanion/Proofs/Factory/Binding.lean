/-
Bound parameters and their fields.

A parameter counts as bound if some constructor has an unmarked parameter that is written
alike (`exists_mem_boundParameters`), and the list of bound parameters has one entry for each
text (`boundParameters_texts_nodup`).  Every entry gets a field of its own name
(`bind_fieldNames_nodup`), whose type differs from that of the parameter exactly when a
provider was put around it (`IsField`).
-/
import JavaCompanion.Factory.Plan
import JavaCompanion.Proofs.Java.FreshName

namespace JavaCompanion
namespace Factory

open Java

/-! ## Which parameters are bound -/

theorem isAmong_eq_true {ps : List Parameter} {p : Parameter} :
    isAmong ps p = true ↔ ∃ q ∈ ps, q.text = p.text := by
  simp only [isAmong, List.any_eq_true, Parameter.same, beq_iff_eq]
  exact ⟨fun ⟨q, hq, h⟩ => ⟨q, hq, h.symm⟩, fun ⟨q, hq, h⟩ => ⟨q, hq, h.symm⟩⟩

theorem isAmong_eq_false {ps : List Parameter} {p : Parameter} :
    isAmong ps p = false ↔ ∀ q ∈ ps, q.text ≠ p.text := by
  rw [Bool.eq_false_iff, ne_eq, isAmong_eq_true]
  exact ⟨fun h q hq hqp => h ⟨q, hq, hqp⟩, fun h ⟨q, hq, hqp⟩ => h q hq hqp⟩

/-- A scan adds a parameter at the end, or finds it unbound or already there. -/
theorem addBound_cases (found : List Parameter) (p : Parameter) :
    (addBound found p = found ∧ (p.unbound = true ∨ isAmong found p = true))
      ∨ (addBound found p = found ++ [p] ∧ p.unbound = false ∧ isAmong found p = false) := by
  unfold addBound
  by_cases h : (p.unbound || isAmong found p) = true
  · rw [if_pos h]
    exact .inl ⟨rfl, by simpa using h⟩
  · rw [if_neg h]
    exact .inr ⟨rfl, by simpa using h⟩

theorem nodup_addBound {found : List Parameter} {p : Parameter}
    (h : (found.map Parameter.text).Nodup) : ((addBound found p).map Parameter.text).Nodup := by
  rcases addBound_cases found p with ⟨heq, -⟩ | ⟨heq, -, hnew⟩
  · rw [heq]
    exact h
  · rw [heq, List.map_append, List.nodup_append]
    refine ⟨h, by simp, fun a ha b hb hab => ?_⟩
    obtain ⟨q, hq, rfl⟩ := List.mem_map.mp ha
    rw [List.map_singleton, List.mem_singleton] at hb
    exact isAmong_eq_false.mp hnew q hq (hab.trans hb)

theorem foldl_addBound_nodup {ps found : List Parameter} (h : (found.map Parameter.text).Nodup) :
    ((ps.foldl addBound found).map Parameter.text).Nodup := by
  induction ps generalizing found with
  | nil => exact h
  | cons p rest ih => exact ih (nodup_addBound h)

/-- What a scan has found: the entries it began with, and unmarked parameters it passed. -/
theorem mem_foldl_addBound {ps found : List Parameter} {q : Parameter}
    (h : q ∈ ps.foldl addBound found) : q ∈ found ∨ (q ∈ ps ∧ q.unbound = false) := by
  induction ps generalizing found with
  | nil => exact .inl h
  | cons p rest ih =>
    rcases ih h with hfound | ⟨hrest, hq⟩
    · rcases addBound_cases found p with ⟨heq, -⟩ | ⟨heq, hp, -⟩
      · rw [heq] at hfound
        exact .inl hfound
      · rw [heq, List.mem_append, List.mem_singleton] at hfound
        rcases hfound with hold | rfl
        · exact .inl hold
        · exact .inr ⟨List.mem_cons_self, hp⟩
    · exact .inr ⟨List.mem_cons_of_mem p hrest, hq⟩

/-- A text that is found stays found. -/
theorem isAmong_foldl_addBound_of_isAmong {ps found : List Parameter} {q : Parameter}
    (h : isAmong found q = true) : isAmong (ps.foldl addBound found) q = true := by
  induction ps generalizing found with
  | nil => exact h
  | cons p rest ih =>
    apply ih
    rcases addBound_cases found p with ⟨heq, -⟩ | ⟨heq, -, -⟩
    · rw [heq]
      exact h
    · rw [heq, isAmong, List.any_append, Bool.or_eq_true]
      exact .inl h

/-- Every unmarked parameter that a scan passes is found by its text. -/
theorem isAmong_foldl_addBound {ps found : List Parameter} {q : Parameter} (hq : q ∈ ps)
    (hbound : q.unbound = false) : isAmong (ps.foldl addBound found) q = true := by
  induction ps generalizing found with
  | nil => exact absurd hq List.not_mem_nil
  | cons p rest ih =>
    rcases List.mem_cons.mp hq with rfl | hrest
    · rw [List.foldl_cons]
      refine isAmong_foldl_addBound_of_isAmong ?_
      rcases addBound_cases found q with ⟨heq, hmark | hold⟩ | ⟨heq, -, -⟩
      · rw [hbound] at hmark
        exact absurd hmark Bool.false_ne_true
      · rw [heq]
        exact hold
      · rw [heq]
        exact isAmong_eq_true.mpr ⟨q, by simp, rfl⟩
    · exact ih hrest

theorem boundParameters_texts_nodup (cs : List Constructor) :
    ((boundParameters cs).map Parameter.text).Nodup :=
  foldl_addBound_nodup List.nodup_nil

/-- An entry is an unmarked parameter of some constructor. -/
theorem mem_boundParameters {cs : List Constructor} {p : Parameter}
    (h : p ∈ boundParameters cs) : (∃ c ∈ cs, p ∈ c.parameters) ∧ p.unbound = false := by
  rcases mem_foldl_addBound h with hnil | ⟨hmem, hp⟩
  · exact absurd hnil List.not_mem_nil
  · exact ⟨List.mem_flatMap.mp hmem, hp⟩

/-- A text is that of an entry exactly if an unmarked parameter of some constructor has it. -/
theorem exists_mem_boundParameters {cs : List Constructor} {text : String} :
    (∃ b ∈ boundParameters cs, b.text = text)
      ↔ ∃ c ∈ cs, ∃ q ∈ c.parameters, q.text = text ∧ q.unbound = false := by
  constructor
  · rintro ⟨b, hb, rfl⟩
    obtain ⟨⟨c, hc, hbc⟩, hbound⟩ := mem_boundParameters hb
    exact ⟨c, hc, b, hbc, rfl, hbound⟩
  · rintro ⟨c, hc, q, hq, rfl, hbound⟩
    exact isAmong_eq_true.mp
      (isAmong_foldl_addBound (List.mem_flatMap.mpr ⟨c, hc, hq⟩) hbound)

/-! ## The fields -/

/-- A field holds the value of its parameter, or a provider that was put around its type, and
is asked for the value in the second case only. -/
structure IsField (providers : Bool) (providerType : Value) (b : Binding) : Prop where
  fieldType_eq : b.fieldType =
    if providers then wrapProvider b.parameter.type providerType else b.parameter.type
  reference_eq : b.reference =
    "this." ++ b.fieldName ++ if b.fieldType = b.parameter.type then "" else ".get()"

theorem box_eq_or_lt (type : String) : box type = type ∨ type.length < (box type).length := by
  unfold box
  split
  · next entry hfind =>
    right
    have hname : entry.1 = type := by simpa using List.find?_some hfind
    have hlonger : ∀ entry ∈ boxes, entry.1.length < entry.2.length := by decide
    rw [← hname]
    exact hlonger entry (List.mem_of_find?_eq_some hfind)
  · exact .inl rfl

/-- A type that is no provider becomes another one by being wrapped. -/
theorem wrapProvider_ne {type : String} {provider : Value}
    (h : isProvider type provider = false) : wrapProvider type provider ≠ type := by
  intro heq
  have hlen := congrArg String.length heq
  simp only [wrapProvider, h, Bool.false_eq_true, if_false, String.length_append] at hlen
  have hangle : "<".length = 1 := by decide
  rcases box_eq_or_lt type with hbox | hbox
  · rw [hbox] at hlen
    omega
  · omega

theorem fieldType_eq (providers : Bool) (providerType : Value) (type : String) :
    (fieldType providers providerType type).1 =
      if providers then wrapProvider type providerType else type := by
  unfold fieldType
  cases providers with
  | false => rfl
  | true =>
    by_cases h : isProvider type providerType = true
    · simp [h, wrapProvider]
    · simp [h]

theorem fieldType_snd_eq_true {providers : Bool} {providerType : Value} {type : String} :
    (fieldType providers providerType type).2 = true
      ↔ (fieldType providers providerType type).1 ≠ type := by
  unfold fieldType
  by_cases h : (providers && !isProvider type providerType) = true
  · rw [if_pos h]
    have hno : isProvider type providerType = false := by
      simp only [Bool.and_eq_true, Bool.not_eq_true'] at h
      exact h.2
    simp [wrapProvider_ne hno]
  · rw [if_neg h]
    simp

variable {providers : Bool} {providerType : Value}

theorem bind_parameters (scope : NameScope) (ps : List Parameter) :
    (bind providers providerType scope ps).map (·.parameter) = ps := by
  induction ps generalizing scope with
  | nil => rfl
  | cons p rest ih =>
    rw [bind, List.map_cons, ih]

theorem isField_of_mem_bind {scope : NameScope} {ps : List Parameter} {b : Binding}
    (h : b ∈ bind providers providerType scope ps) : IsField providers providerType b := by
  induction ps generalizing scope with
  | nil => exact absurd h List.not_mem_nil
  | cons p rest ih =>
    rw [bind, List.mem_cons] at h
    rcases h with rfl | hrest
    · refine ⟨fieldType_eq providers providerType p.type, ?_⟩
      show _ ++ (if (fieldType providers providerType p.type).2 then _ else _) = _
      by_cases hwrapped : (fieldType providers providerType p.type).1 = p.type
      · have hplain : (fieldType providers providerType p.type).2 = false :=
          Bool.eq_false_iff.mpr fun htrue => fieldType_snd_eq_true.mp htrue hwrapped
        simp [hwrapped, hplain]
      · simp [hwrapped, fieldType_snd_eq_true.mpr hwrapped]
    · exact ih hrest

/-- The names of fields are free in the scope they are claimed from. -/
theorem isUsed_of_mem_bind {scope : NameScope} {ps : List Parameter} {b : Binding}
    (h : b ∈ bind providers providerType scope ps) : scope.isUsed b.fieldName = false := by
  induction ps generalizing scope with
  | nil => exact absurd h List.not_mem_nil
  | cons p rest ih =>
    rw [bind, List.mem_cons] at h
    rcases h with rfl | hrest
    · exact NameScope.isUsed_claim_fst scope p.name ""
    · exact (NameScope.isUsed_claim_snd_eq_false.mp (ih hrest)).2

theorem bind_fieldNames_nodup (scope : NameScope) (ps : List Parameter) :
    ((bind providers providerType scope ps).map (·.fieldName)).Nodup := by
  induction ps generalizing scope with
  | nil => exact List.nodup_nil
  | cons p rest ih =>
    rw [bind, List.map_cons, List.nodup_cons]
    refine ⟨fun hmem => ?_, ih _⟩
    obtain ⟨b, hb, hname⟩ := List.mem_map.mp hmem
    exact (NameScope.isUsed_claim_snd_eq_false.mp (isUsed_of_mem_bind hb)).1 hname

end Factory
end JavaCompanion
