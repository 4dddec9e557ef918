/-
Modifiers in the order of the source.

A collection spells modifiers in any order and as often as it likes.  The source has each of them
once, in one order, and that leaves a single list (`modifierSet_eq_ok`).
-/
import JavaCompanion.Java.Modifier
import Mathlib.Data.List.Sort

namespace JavaCompanion
namespace Java

/-- The modifiers are those that a collection spells, each once, in the order of the source. -/
structure InSourceOrder (v : Value) (ms : List Modifier) : Prop where
  spelled : ∃ spellings given, v.items = .ok spellings
    ∧ spellings.mapM Modifier.parse = .ok given ∧ ∀ m, m ∈ ms ↔ m ∈ given
  sublist_all : ms.Sublist Modifier.all

/-- Only one list without repetition has given members in the order of the source. -/
theorem Modifier.eq_of_sublist_all {ms ns : List Modifier} (hms : ms.Sublist all)
    (hns : ns.Sublist all) (h : ∀ m, m ∈ ms ↔ m ∈ ns) : ms = ns := by
  let before : Modifier → Modifier → Prop := fun m n => all.idxOf m < all.idxOf n
  have hall : all.Pairwise before := by decide
  have : Std.Irrefl before := ⟨fun m => Nat.lt_irrefl _⟩
  have : Std.Antisymm before := ⟨fun m n hm hn => absurd hm (Nat.lt_asymm hn)⟩
  exact (hall.sublist hms).eq_of_mem_iff (hall.sublist hns) h

theorem modifierSet_eq_ok {v : Value} {ms : List Modifier} :
    modifierSet v = .ok ms ↔ InSourceOrder v ms := by
  unfold modifierSet
  constructor
  · intro h
    split at h
    · exact nomatch h
    · next spellings hitems =>
      split at h
      · exact nomatch h
      · next given hgiven =>
        cases h
        exact ⟨⟨spellings, given, hitems, hgiven, fun _ => Modifier.mem_toSet⟩,
          List.filter_sublist⟩
  · rintro ⟨⟨spellings, given, hitems, hgiven, hmem⟩, hsublist⟩
    have hset : Modifier.toSet given = ms :=
      Modifier.eq_of_sublist_all List.filter_sublist hsublist fun m => by
        rw [hmem, Modifier.mem_toSet]
    simp only [hitems, hgiven, hset]

end Java
end JavaCompanion
