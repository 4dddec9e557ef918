/-
Settings that a generator accepts.

Annotation values pass the check of their names exactly when every one of them names an option
of the generator.
-/
import JavaCompanion.Config.Settings
import Mathlib.Data.List.Sort

namespace JavaCompanion
namespace Config

theorem mem_unknownOptions {known : List String} {values : Fields} {name : String} :
    name ∈ unknownOptions known values ↔ name ∈ Fields.names values ∧ name ∉ known := by
  simp [unknownOptions, List.mem_mergeSort]

theorem checkOptions_eq_ok {generator : String} {known : List String} {values : Fields} :
    checkOptions generator known values = .ok () ↔ ∀ name ∈ Fields.names values, name ∈ known := by
  unfold checkOptions
  split
  · next hnone =>
    refine ⟨fun _ name hname => ?_, fun _ => rfl⟩
    by_contra hunknown
    have hmem := mem_unknownOptions.mpr ⟨hname, hunknown⟩
    rw [hnone] at hmem
    exact List.not_mem_nil hmem
  · next hsome =>
    refine ⟨fun h => (nomatch h), fun hall => absurd ?_ hsome⟩
    refine List.eq_nil_iff_forall_not_mem.mpr fun name hmem => ?_
    obtain ⟨hname, hunknown⟩ := mem_unknownOptions.mp hmem
    exact hunknown (hall name hname)

end Config
end JavaCompanion
