/-
Wrapped methods and the names in their wrappers.

A method is wrapped with all of its mutators, observed in one scope in which its parameter is
taken (`mem_wrapped`).  The local names of a wrapper are therefore pairwise different, and
none of them hides the parameter or is a word of the language (`locals_nodup`,
`ne_parameter_of_mem_locals`, `not_reserved_of_mem_locals`).
-/
import JavaCompanion.Observable.Plan
import JavaCompanion.Proofs.Extraction.Mutators
import JavaCompanion.Proofs.Generation.Groups
import JavaCompanion.Proofs.Java.FreshName

namespace JavaCompanion
namespace Observable

open Descriptor Extraction Java

/-! ## Local names -/

/-- The names that an observed mutator has in its wrapper. -/
def Observed.locals (o : Observed) : List String :=
  [o.oldValueName, o.newValueName, o.resultName]

/-- Observing takes three names that were free and differ from each other, and leaves every
other name as it was. -/
theorem observe_spec (s : NameScope) (m : Mutator) :
    ((observe s m).1.locals).Nodup ∧ (∀ n ∈ (observe s m).1.locals, s.isUsed n = false)
      ∧ ∀ n, (observe s m).2.isUsed n = false ↔
        n ∉ (observe s m).1.locals ∧ s.isUsed n = false := by
  let first := s.claim "oldValue" NameScope.defaultSeparator
  let second := first.2.claim "newValue" NameScope.defaultSeparator
  let third := second.2.claim "result" NameScope.defaultSeparator
  have hlocals : (observe s m).1.locals = [first.1, second.1, third.1] := rfl
  have hscope : (observe s m).2 = third.2 := rfl
  have hfirst : s.isUsed first.1 = false := NameScope.isUsed_claim_fst s _ _
  have hsecond : first.2.isUsed second.1 = false := NameScope.isUsed_claim_fst _ _ _
  have hthird : second.2.isUsed third.1 = false := NameScope.isUsed_claim_fst _ _ _
  have hsecond' : second.1 ≠ first.1 ∧ s.isUsed second.1 = false :=
    NameScope.isUsed_claim_snd_eq_false.mp hsecond
  have hthird' : third.1 ≠ second.1 ∧ first.2.isUsed third.1 = false :=
    NameScope.isUsed_claim_snd_eq_false.mp hthird
  have hthird'' : third.1 ≠ first.1 ∧ s.isUsed third.1 = false :=
    NameScope.isUsed_claim_snd_eq_false.mp hthird'.2
  rw [hlocals, hscope]
  refine ⟨?_, ?_, fun n => ?_⟩
  · simp [hsecond'.1.symm, hthird'.1.symm, hthird''.1.symm]
  · simp [hfirst, hsecond'.2, hthird''.2]
  · rw [NameScope.isUsed_claim_snd_eq_false, NameScope.isUsed_claim_snd_eq_false,
      NameScope.isUsed_claim_snd_eq_false]
    simp only [List.mem_cons, List.not_mem_nil, or_false, not_or]
    exact ⟨fun ⟨h₃, h₂, h₁, h⟩ => ⟨⟨h₁, h₂, h₃⟩, h⟩, fun ⟨⟨h₁, h₂, h₃⟩, h⟩ => ⟨h₃, h₂, h₁, h⟩⟩

/-- The names of all mutators that are observed in one scope differ from each other, and were
free in it. -/
theorem locals_nodup (s : NameScope) (ms : List Mutator) :
    ((observeAll s ms).flatMap Observed.locals).Nodup
      ∧ ∀ n ∈ (observeAll s ms).flatMap Observed.locals, s.isUsed n = false := by
  induction ms generalizing s with
  | nil => exact ⟨List.nodup_nil, nofun⟩
  | cons m rest ih =>
    obtain ⟨hnodup, hfree, hscope⟩ := observe_spec s m
    obtain ⟨hrest, hrestFree⟩ := ih (observe s m).2
    have hold : ∀ n ∈ (observeAll (observe s m).2 rest).flatMap Observed.locals,
        n ∉ (observe s m).1.locals ∧ s.isUsed n = false :=
      fun n hn => (hscope n).mp (hrestFree n hn)
    show ((observe s m).1.locals ++ _).Nodup ∧ ∀ n ∈ (observe s m).1.locals ++ _, _
    refine ⟨List.nodup_append.mpr ⟨hnodup, hrest, fun a ha b hb hab => ?_⟩, fun n hn => ?_⟩
    · rw [hab] at ha
      exact (hold b hb).1 ha
    · rcases List.mem_append.mp hn with hn | hn
      · exact hfree n hn
      · exact (hold n hn).2

/-- No name in a wrapper hides its parameter. -/
theorem ne_parameter_of_mem_locals {m : Method} {ms : List Mutator} {n : String}
    (hn : n ∈ (observeAll (wrapperScope m) ms).flatMap Observed.locals) :
    n ∉ m.parameters.map (·.name) := by
  intro hmem
  have hfree := (locals_nodup (wrapperScope m) ms).2 n hn
  have hused : (wrapperScope m).isUsed n = true := NameScope.isUsed_foldl_add.mpr (.inl hmem)
  rw [hfree] at hused
  exact Bool.false_ne_true hused

/-- The names from which the local ones are made. -/
def localNames : List String := ["oldValue", "newValue", "result"]

theorem locals_begin (s : NameScope) (ms : List Mutator) {n : String}
    (hn : n ∈ (observeAll s ms).flatMap Observed.locals) :
    ∃ start ∈ localNames, ∃ more, n.toList = start.toList ++ more := by
  induction ms generalizing s with
  | nil => exact absurd hn List.not_mem_nil
  | cons m rest ih =>
    rw [observeAll, List.flatMap_cons, List.mem_append] at hn
    rcases hn with hn | hn
    · simp only [Observed.locals, observe, List.mem_cons, List.not_mem_nil, or_false] at hn
      rcases hn with rfl | rfl | rfl
      · exact ⟨"oldValue", by decide, NameScope.claim_begins _ _ _⟩
      · exact ⟨"newValue", by decide, NameScope.claim_begins _ _ _⟩
      · exact ⟨"result", by decide, NameScope.claim_begins _ _ _⟩
    · exact ih _ hn

/-- No word of the language begins as the local names do. -/
theorem not_reserved_of_mem_locals {s : NameScope} {ms : List Mutator} {n : String}
    (hn : n ∈ (observeAll s ms).flatMap Observed.locals) : n ∉ reservedWords := by
  intro hreserved
  have hwords : ∀ word ∈ reservedWords, ∀ start ∈ localNames,
      start.toList.isPrefixOf word.toList = false := by decide
  obtain ⟨start, hstart, more, hmore⟩ := locals_begin s ms hn
  have hno := hwords n hreserved start hstart
  rw [hmore, List.isPrefixOf_iff_prefix.mpr (List.prefix_append _ _)] at hno
  exact nomatch hno

/-! ## Groups -/

theorem method_eq_of_sameMethod {methods : List Method} {verbs : List String} {policy : Policy}
    {ms : List Mutator} (hms : AreMutatorsOf methods verbs policy ms) {m n : Mutator}
    (hm : m ∈ ms) (hn : n ∈ ms) (h : sameMethod m n = true) : m.method = n.method := by
  obtain ⟨s, hs, -⟩ := (hms.each m hm).named
  obtain ⟨t, ht, -⟩ := (hms.each n hn).named
  refine hms.method_eq m hm n hn ?_
  rw [sameMethod, hs, ht] at h
  have hst : s = t := by simpa [Value.same] using h
  rw [hs, ht, hst]

theorem map_mutator_observeAll (s : NameScope) (ms : List Mutator) :
    (observeAll s ms).map (·.mutator) = ms := by
  induction ms generalizing s with
  | nil => rfl
  | cons m rest ih => exact congrArg (m :: ·) (ih (observe s m).2)

theorem map_mutator_observedOf (ms : List Mutator) :
    (observedOf ms).map (·.mutator) = ms := by
  rw [observedOf, List.map_flatMap]
  simp only [map_mutator_observeAll]
  exact Generation.flatMap_groups sameMethod ms

theorem mutator_mem_of_mem_observedOf {ms : List Mutator} {o : Observed}
    (ho : o ∈ observedOf ms) : o.mutator ∈ ms := by
  rw [← map_mutator_observedOf ms]
  exact List.mem_map.mpr ⟨o, ho, rfl⟩

theorem length_observeAll (s : NameScope) (ms : List Mutator) :
    (observeAll s ms).length = ms.length := by
  rw [← List.length_map (·.mutator), map_mutator_observeAll]

/-- The members of a group, observed in the scope of their method. -/
def observedGroup (g : Mutator × List Mutator) : List Observed :=
  observeAll (wrapperScope g.1.method) (g.1 :: g.2)

/-- Grouping what has been observed gives back the groups in which it was observed. -/
theorem wrapped_eq {p : Plan} {ms : List Mutator} (h : p.observed = observedOf ms) :
    p.wrapped.map (fun w => w.1 :: w.2) = (Generation.groups sameMethod ms).map observedGroup := by
  have hmutators : Generation.groups sameMethod ms
      = p.wrapped.map fun w => (w.1.mutator, w.2.map (·.mutator)) := by
    rw [← map_mutator_observedOf ms, ← h]
    exact Generation.groups_map (·.mutator) sameMethod p.observed
  -- Both sides cut the same list into pieces of the same lengths.
  rw [List.eq_iff_flatten_eq]
  constructor
  · rw [← List.flatMap_def, ← List.flatMap_def]
    exact (Generation.flatMap_groups _ p.observed).trans h
  · rw [hmutators, List.map_map, List.map_map, List.map_map]
    refine List.map_congr_left fun w _ => ?_
    simp [observedGroup, length_observeAll]

theorem mem_wrapped {p : Plan} {ms : List Mutator} (h : p.observed = observedOf ms)
    {w : Observed × List Observed} (hw : w ∈ p.wrapped) :
    ∃ g ∈ Generation.groups sameMethod ms, w.1 :: w.2 = observedGroup g := by
  have hmem : w.1 :: w.2 ∈ (Generation.groups sameMethod ms).map observedGroup := by
    rw [← wrapped_eq h]
    exact List.mem_map.mpr ⟨w, hw, rfl⟩
  obtain ⟨g, hg, heq⟩ := List.mem_map.mp hmem
  exact ⟨g, hg, heq.symm⟩

theorem mutators_of_observedGroup {w : Observed × List Observed} {g : Mutator × List Mutator}
    (h : w.1 :: w.2 = observedGroup g) : (w.1 :: w.2).map (·.mutator) = g.1 :: g.2 := by
  rw [h]
  exact map_mutator_observeAll _ _

/-- The method of a wrapper has one parameter, which no local name hides, and the local names
differ. -/
theorem wrapper_locals {p : Plan} {methods : List Method} {verbs : List String} {policy : Policy}
    {ms : List Mutator} (hms : AreMutatorsOf methods verbs policy ms)
    (hp : p.observed = observedOf ms) {w : Observed × List Observed} (hw : w ∈ p.wrapped) :
    ∃ x, w.1.mutator.method.parameters = [x]
      ∧ x.name ∉ (w.1 :: w.2).flatMap Observed.locals
      ∧ ((w.1 :: w.2).flatMap Observed.locals).Nodup := by
  obtain ⟨g, hg, hgroup⟩ := mem_wrapped hp hw
  have hfirst : w.1.mutator = g.1 := List.head_eq_of_cons_eq (mutators_of_observedGroup hgroup)
  have hmem : g.1 ∈ ms := Generation.mem_of_mem_groups hg List.mem_cons_self
  have hparameters := (hms.each g.1 hmem).parameters_eq
  rw [hgroup]
  refine ⟨g.1.parameter, by rw [hfirst]; exact hparameters, fun hlocal => ?_,
    (locals_nodup (wrapperScope g.1.method) (g.1 :: g.2)).1⟩
  refine ne_parameter_of_mem_locals hlocal ?_
  rw [hparameters]
  exact List.mem_singleton.mpr rfl

/-! ## Plans -/

theorem plan_eq_ok {config : Config} {e : Element} {plan : Plan} :
    Observable.plan config e = .ok plan ↔ ∃ settings cs found, validate e = .ok ()
      ∧ Settings.ofValues ((e.annotationValues? "observable").getD []) config.generatorOptions
          = .ok settings
      ∧ constructors e config.controlNamespace none = .ok cs
      ∧ mutators e settings.verbs settings.policy config.controlNamespace = .ok found
      ∧ Plan.of e settings cs found = plan := by
  simp only [Observable.plan, bind_eq_ok, shaped_eq_ok, pure_eq_ok]
  constructor
  · rintro ⟨_, hv, settings, hs, cs, hc, found, hf, hp⟩
    exact ⟨settings, cs, found, hv, hs, hc, hf, hp⟩
  · rintro ⟨settings, cs, found, hv, hs, hc, hf, hp⟩
    exact ⟨(), hv, settings, hs, cs, hc, found, hf, hp⟩

end Observable
end JavaCompanion
