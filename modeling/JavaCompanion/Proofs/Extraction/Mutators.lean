/-
The mutators that an element is found to have.

Every one of them is a method of the element that takes the value and nothing else, with a
verb and a subject that make up its name, and an accessor for the subject (`IsMutatorOf`).
No two of them have the same subject, and mutators of one name come from one method, as a
second method of that name would be refused for its subject (`mutators_spec`).
-/
import JavaCompanion.Extraction.Mutators
import JavaCompanion.Proofs.Extraction.Signatures
import Mathlib.Data.List.Nodup

namespace JavaCompanion
namespace Extraction

open Descriptor Java

/-! ## Verbs and subjects -/

theorem remainder?_eq_some {name start rest : String} (h : remainder? name start = some rest) :
    name.toList = start.toList ++ rest.toList := by
  unfold remainder? at h
  split at h
  · next hprefix =>
    obtain ⟨more, hmore⟩ := List.isPrefixOf_iff_prefix.mp hprefix
    rw [← hmore, List.drop_left] at h
    split at h
    · exact nomatch h
    · cases h
      rw [← hmore, String.toList_ofList]
  · exact nomatch h

/-- A split cuts the name in two, and its second part is a subject. -/
theorem mem_splits {name : String} {verbs : List String} {split : String × String}
    (h : split ∈ splits name verbs) : split.1 ∈ verbs ∧ isSubject split.2 = true
      ∧ name.toList = split.1.toList ++ split.2.toList := by
  obtain ⟨verb, hverb, h⟩ := List.mem_filterMap.mp h
  obtain ⟨subject, hsubject, rfl⟩ := Option.map_eq_some_iff.mp h
  obtain ⟨hrest, his⟩ := Option.filter_eq_some_iff.mp hsubject
  exact ⟨hverb, his, remainder?_eq_some hrest⟩

/-! ## One mutator -/

/-- What makes a mutator one. -/
structure IsMutatorOf (methods : List Method) (verbs : List String) (m : Mutator) : Prop where
  method_mem : m.method ∈ methods
  parameters_eq : m.method.parameters = [m.parameter]
  overridable : m.method.isOverridable = true
  concrete : m.method.isAbstract = false
  named : ∃ name, m.method.name = .text name ∧ (m.verb, m.subject) ∈ splits name verbs
  accessor_eq : findAccessor methods m.subject m.parameter.type = some m.accessor
  accessible : m.accessor.modifiers.contains .«private» = false

/-- The splits of a name that count. -/
def Policy.choose (policy : Policy) (all : List (String × String)) : List (String × String) :=
  match policy with
  | .first => all.take 1
  | .all => all

/-- What one split of the name of a method makes of it. -/
def Made (methods : List Method) (m : Method) (p : Parameter) (split : String × String)
    (x : Mutator) : Prop :=
  x.method = m ∧ x.parameter = p ∧ (x.verb, x.subject) = split
    ∧ findAccessor methods x.subject p.type = some x.accessor
    ∧ x.accessor.modifiers.contains .«private» = false

variable {owner : String} {methods : List Method} {m : Method} {p : Parameter}
  {found found' : Found}

theorem pair_eq_ok {split : String × String} (h : pair owner methods m p found split = .ok found') :
    ∃ x, Made methods m p split x ∧ found'.mutators = found.mutators ++ [x]
      ∧ ∀ y ∈ found.mutators, y.subject ≠ x.subject := by
  obtain ⟨_, -, h⟩ := bind_eq_ok.mp h
  cases haccessor : findAccessor methods split.2 p.type with
  | none =>
    simp only [haccessor] at h
    exact nomatch h
  | some accessor =>
    simp only [haccessor] at h
    split at h
    · exact nomatch h
    · next hprivate =>
      split at h
      · exact nomatch h
      · next hnew =>
        cases h
        refine ⟨_, ⟨rfl, rfl, rfl, haccessor, Bool.eq_false_iff.mpr hprivate⟩, rfl,
          fun y hy hsubject => ?_⟩
        exact List.find?_eq_none.mp hnew y hy (beq_iff_eq.mpr hsubject)

/-- The pairs of one method, each new. -/
theorem foldlM_pair_eq_ok {chosen : List (String × String)}
    (hnodup : (found.mutators.map (·.subject)).Nodup)
    (h : chosen.foldlM (pair owner methods m p) found = .ok found') :
    ∃ added, found'.mutators = found.mutators ++ added
      ∧ List.Forall₂ (Made methods m p) chosen added
      ∧ (found'.mutators.map (·.subject)).Nodup := by
  induction chosen generalizing found with
  | nil =>
    rw [List.foldlM_nil, pure_eq_ok] at h
    subst h
    exact ⟨[], (List.append_nil _).symm, .nil, hnodup⟩
  | cons split rest ih =>
    rw [List.foldlM_cons] at h
    obtain ⟨middle, hfirst, hrest⟩ := bind_eq_ok.mp h
    obtain ⟨x, hx, hmiddle, hnew⟩ := pair_eq_ok hfirst
    have hnodup' : (middle.mutators.map (·.subject)).Nodup := by
      rw [hmiddle, List.map_append, List.nodup_append]
      refine ⟨hnodup, by simp, fun a ha b hb => ?_⟩
      obtain ⟨y, hy, rfl⟩ := List.mem_map.mp ha
      rw [List.map_singleton, List.mem_singleton] at hb
      rw [hb]
      exact hnew y hy
    obtain ⟨added, hfound', hadded, hnodup''⟩ := ih hnodup' hrest
    refine ⟨x :: added, ?_, .cons hx hadded, hnodup''⟩
    rw [hfound', hmiddle, List.append_assoc]
    rfl

/-! ## One method -/

theorem splitsOf_eq_ok {name : Value} {verbs : List String} {all : List (String × String)}
    (h : splitsOf name verbs = .ok all) (hsome : all ≠ []) :
    ∃ s, name = .text s ∧ all = splits s verbs := by
  unfold splitsOf at h
  split at h
  · cases h
    exact absurd rfl hsome
  · obtain ⟨s, hs, hall⟩ := bind_eq_ok.mp h
    rw [pure_eq_ok] at hall
    cases name with
    | text t =>
      cases hs
      exact ⟨_, rfl, hall.symm⟩
    | _ => exact nomatch hs

variable {verbs : List String} {policy : Policy}

theorem addMethod_eq_ok (h : addMethod owner methods verbs policy found m = .ok found') :
    found'.mutators = found.mutators
      ∨ (m.isOverridable = true ∧ m.isAbstract = false
        ∧ ∃ name p start, m.name = .text name ∧ m.parameters = [p] ∧ splits name verbs ≠ []
          ∧ start.mutators = found.mutators
          ∧ (policy.choose (splits name verbs)).foldlM (pair owner methods m p) start
            = .ok found') := by
  obtain ⟨all, hall, h⟩ := bind_eq_ok.mp h
  rw [shaped_eq_ok] at hall
  split at h
  · cases h
    exact .inl rfl
  · next hsome =>
    have hne : all ≠ [] := fun hnil => hsome (by rw [hnil]; rfl)
    obtain ⟨name, hname, rfl⟩ := splitsOf_eq_ok hall hne
    let start : Found := if 1 < (splits name verbs).length then
        { found with warnings := found.warnings
            ++ [severalVerbs owner m.name.display policy (splits name verbs)] }
      else found
    have hstart : start.mutators = found.mutators := by
      simp only [start]
      split <;> rfl
    cases hover : m.isOverridable with
    | false =>
      simp only [hover, Bool.not_false, if_true] at h
      cases h
      exact .inl hstart
    | true =>
      cases habstract : m.isAbstract with
      | true =>
        simp only [hover, habstract, Bool.not_true, Bool.false_eq_true, if_false, if_true] at h
        cases h
        exact .inl hstart
      | false =>
        simp only [hover, habstract, Bool.not_true, Bool.false_eq_true, if_false] at h
        split at h
        · next p hp => exact .inr ⟨rfl, rfl, name, p, start, hname, hp, hne, hstart, h⟩
        · exact nomatch h

/-! ## All methods -/

/-- What has been found is sound, and complete for the methods that have been looked at. -/
structure AreMutatorsOf (methods : List Method) (verbs : List String) (policy : Policy)
    (ms : List Mutator) : Prop where
  each : ∀ x ∈ ms, IsMutatorOf methods verbs x
  subjects_nodup : (ms.map (·.subject)).Nodup
  chosen : ∀ x ∈ ms, ∀ name, x.method.name = .text name →
    ∀ split ∈ policy.choose (splits name verbs), ∃ y ∈ ms, y.subject = split.2
  method_eq : ∀ x ∈ ms, ∀ y ∈ ms, x.method.name = y.method.name → x.method = y.method

theorem choose_ne_nil (policy : Policy) {all : List (String × String)} (h : all ≠ []) :
    policy.choose all ≠ [] := by
  cases all with
  | nil => exact absurd rfl h
  | cons split rest => cases policy <;> exact List.cons_ne_nil _ _

theorem mem_of_mem_choose {all : List (String × String)} {split : String × String}
    (h : split ∈ policy.choose all) : split ∈ all := by
  cases policy with
  | first => exact List.mem_of_mem_take h
  | all => exact h

theorem areMutatorsOf_add {ms added : List Mutator} {name : String} (hm : m ∈ methods)
    (hover : m.isOverridable = true) (hconcrete : m.isAbstract = false)
    (hname : m.name = .text name) (hp : m.parameters = [p]) (hsplits : splits name verbs ≠ [])
    (hms : AreMutatorsOf methods verbs policy ms)
    (hadded : List.Forall₂ (Made methods m p) (policy.choose (splits name verbs)) added)
    (hnodup : ((ms ++ added).map (·.subject)).Nodup) :
    AreMutatorsOf methods verbs policy (ms ++ added) := by
  have hmethod : ∀ x ∈ added, x.method = m := fun x hx =>
    (exists_of_forall₂ hadded hx).choose_spec.2.1
  have hsubject : ∀ split ∈ policy.choose (splits name verbs),
      ∃ y ∈ added, y.subject = split.2 := by
    intro split hsplit
    obtain ⟨y, hy, hmade⟩ := exists_of_forall₂ hadded.flip hsplit
    exact ⟨y, hy, congrArg Prod.snd hmade.2.2.1⟩
  -- A method found before has its subjects among `ms`, where none of the added ones is.
  have hfresh : ∀ x ∈ ms, x.method.name ≠ m.name := by
    intro x hx hsame
    obtain ⟨split, hsplit⟩ := List.exists_mem_of_ne_nil _ (choose_ne_nil policy hsplits)
    obtain ⟨y, hy, hysub⟩ := hms.chosen x hx name (hsame.trans hname) split hsplit
    obtain ⟨z, hz, hzsub⟩ := hsubject split hsplit
    rw [List.map_append, List.nodup_append] at hnodup
    exact hnodup.2.2 y.subject (List.mem_map.mpr ⟨y, hy, rfl⟩) z.subject
      (List.mem_map.mpr ⟨z, hz, rfl⟩) (hysub.trans hzsub.symm)
  refine ⟨fun x hx => ?_, hnodup, fun x hx text htext split hsplit => ?_, fun x hx y hy hsame => ?_⟩
  · rcases List.mem_append.mp hx with hx | hx
    · exact hms.each x hx
    · obtain ⟨split, hsplit, hxm, hxp, hxsplit, haccessor, haccess⟩ := exists_of_forall₂ hadded hx
      subst hxm hxp
      refine ⟨hm, hp, hover, hconcrete, ⟨name, hname, ?_⟩, haccessor, haccess⟩
      rw [hxsplit]
      exact mem_of_mem_choose hsplit
  · rcases List.mem_append.mp hx with hx | hx
    · obtain ⟨y, hy, hysub⟩ := hms.chosen x hx text htext split hsplit
      exact ⟨y, List.mem_append_left added hy, hysub⟩
    · rw [hmethod x hx, hname] at htext
      cases htext
      obtain ⟨y, hy, hysub⟩ := hsubject split hsplit
      exact ⟨y, List.mem_append_right ms hy, hysub⟩
  · rcases List.mem_append.mp hx with hx | hx <;> rcases List.mem_append.mp hy with hy | hy
    · exact hms.method_eq x hx y hy hsame
    · rw [hmethod y hy] at hsame
      exact absurd hsame (hfresh x hx)
    · rw [hmethod x hx] at hsame
      exact absurd hsame.symm (hfresh y hy)
    · rw [hmethod x hx, hmethod y hy]

theorem mutators_spec {e : Element} {control : Value}
    (h : mutators e verbs policy control = .ok found) :
    ∃ methods, Extraction.methods e control = .ok methods
      ∧ AreMutatorsOf methods verbs policy found.mutators := by
  obtain ⟨methods, hmethods, h⟩ := bind_eq_ok.mp h
  refine ⟨methods, shaped_eq_ok.mp hmethods, ?_⟩
  refine foldlM_keeps (P := fun f => AreMutatorsOf methods verbs policy f.mutators) ?_ ?_ h
  · intro m hm start next hstart hadd
    rcases addMethod_eq_ok hadd with heq | ⟨hover, hconcrete, name, p, begun, hname, hp, hsplits,
      hbegun, hfold⟩
    · rw [heq]
      exact hstart
    · have hnodup : (begun.mutators.map (·.subject)).Nodup := by
        rw [hbegun]
        exact hstart.subjects_nodup
      obtain ⟨added, hnext, hadded, hnodup'⟩ := foldlM_pair_eq_ok hnodup hfold
      rw [hbegun] at hnext
      rw [hnext] at hnodup' ⊢
      exact areMutatorsOf_add hm hover hconcrete hname hp hsplits hstart hadded hnodup'
  · exact ⟨nofun, List.nodup_nil, nofun, nofun⟩

end Extraction
end JavaCompanion
