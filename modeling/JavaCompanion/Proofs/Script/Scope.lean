/-
Scopes of raw values that hold texts only.

Such a scope stands for a scope of names, and every operation on it gives what the operation on
the scope of names gives (`claim_ofNames`).  The searches of the two begin at different
candidates, the second and the first, and end at the same.
-/
import JavaCompanion.Proofs.Java.FreshName
import JavaCompanion.Script.Scope

namespace JavaCompanion
namespace Script
namespace Scope

open Java

/-- The scope of the same words and names, as texts. -/
def ofNames (s : NameScope) : Scope where
  reserved := s.reserved.map .text
  used := s.used.map .text

theorem any_same_texts (names : List String) (name : String) :
    (names.map Value.text).any (·.same (.text name)) = names.contains name := by
  rw [Bool.eq_iff_iff, List.any_eq_true, List.contains_iff_mem]
  constructor
  · rintro ⟨v, hv, hsame⟩
    obtain ⟨n, hn, rfl⟩ := List.mem_map.mp hv
    have heq : n = name := by simpa [Value.same] using hsame
    rwa [← heq]
  · intro hmem
    exact ⟨_, List.mem_map.mpr ⟨name, hmem, rfl⟩, by simp [Value.same]⟩

variable (s : NameScope)

@[simp] theorem isUsed_ofNames (name : String) :
    (ofNames s).isUsed (.text name) = s.isUsed name :=
  any_same_texts s.used name

theorem used_texts_ofNames : (ofNames s).texts.used = s.used := by
  show (s.used.map Value.text).filterMap Value.text? = s.used
  rw [List.filterMap_map]
  exact List.filterMap_some

theorem add_ofNames (name : String) : (ofNames s).add (.text name) = ofNames (s.add name) := by
  unfold add NameScope.add
  rw [isUsed_ofNames]
  split <;> rfl

/-- Where the base is in use, the search may begin behind it. -/
theorem free_ofNames (base separator : String) :
    (ofNames s).free (.text base) separator
      = .text (s.firstFree base separator s.used.length 0) := by
  have hcandidates : ∀ name, (ofNames s).texts.isUsed name = s.isUsed name := fun name => by
    rw [NameScope.isUsed, used_texts_ofNames]
    rfl
  obtain ⟨k, -, hbound, hval, hbefore, -⟩ := s.firstFree_spec base separator s.used.length 0
  have hfree := s.isUsed_firstFree base separator
  rw [hval] at hfree
  rw [free, isUsed_ofNames, hval]
  cases k with
  | zero =>
    have hbase : s.isUsed base = false := hfree
    rw [hbase]
    rfl
  | succ k =>
    have hbase : s.isUsed base = true := hbefore 0 (Nat.le_refl 0) (Nat.succ_pos k)
    rw [hbase, if_pos rfl]
    refine congrArg Value.text ?_
    rw [used_texts_ofNames]
    refine NameScope.firstFree_eq_candidate (by omega) (by omega)
      ((hcandidates _).trans hfree) fun j _ hj => ?_
    exact (hcandidates _).trans (hbefore j (Nat.zero_le j) hj)

theorem claim_ofNames (name separator : String) :
    (ofNames s).claim (.text name) separator
      = (.text (s.claim name separator).1, ofNames (s.claim name separator).2) := by
  have hreserved : (ofNames s).reserved.any (·.same (.text name)) = s.reserved.contains name :=
    any_same_texts s.reserved name
  have hbase : (if (ofNames s).reserved.any (·.same (.text name))
        then Value.text ((Value.text name).display ++ separator) else .text name)
      = .text (s.base name separator) := by
    rw [hreserved, NameScope.base]
    split <;> rfl
  rw [claim, hbase, free_ofNames]
  exact congrArg (Prod.mk _) (add_ofNames s _)

theorem mapM_asName_texts (names : List String) :
    (names.map Value.text).mapM asName = .ok (names.map Value.text) := by
  induction names with
  | nil => rfl
  | cons name rest ih =>
    rw [List.map_cons, List.mapM_cons, ih]
    rfl

/-- A scope that is made from lists of texts. -/
theorem of_texts (reserved used : List String) :
    of (.list (reserved.map .text)) (.list (used.map .text)) = .ok (ofNames ⟨reserved, used⟩) := by
  have hof : of (.list (reserved.map .text)) (.list (used.map .text)) = (do
      let names ← (used.map Value.text).mapM asName
      return { reserved := ← (reserved.map Value.text).mapM asName, used := names }) := by
    cases used <;> rfl
  rw [hof, mapM_asName_texts, mapM_asName_texts]
  rfl

end Scope
end Script
end JavaCompanion
