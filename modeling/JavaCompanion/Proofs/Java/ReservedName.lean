/-
Words that a scope avoids.

The reserved words are looked up once, for the preferred name.  What a claim builds from it with the
separator and a counter is not looked up again, so whether a claim can end in a reserved word depends
on the words and the separator: it cannot if no reserved word is another one with the separator
behind it, or a name with the separator and a counter behind it, and for any other words there are
names in use with which it does (`claims_avoid_reserved`).
-/
import JavaCompanion.Proofs.Java.FreshName

namespace JavaCompanion
namespace Java
namespace NameScope

variable {reserved used : List String} {name stem separator : String}

/-- No reserved word is among the candidates for a name. -/
structure Separates (separator : String) (reserved : List String) : Prop where
  word : ∀ word ∈ reserved, word ++ separator ∉ reserved
  counted : ∀ stem ∉ reserved, ∀ n, candidate stem separator (n + 1) ∉ reserved

theorem base_notMem (h : ∀ word ∈ reserved, word ++ separator ∉ reserved) :
    base { reserved, used } name separator ∉ reserved := by
  unfold base
  split
  · next hmem => exact h name (List.contains_iff_mem.mp hmem)
  · next hmem => exact fun hname => hmem (List.contains_iff_mem.mpr hname)

theorem Separates.claim_notMem (h : Separates separator reserved) :
    (claim { reserved, used } name separator).1 ∉ reserved := by
  obtain ⟨k, -, hclaim, -⟩ := claim_spec { reserved, used } name separator
  have hbase : base { reserved, used } name separator ∉ reserved := base_notMem h.word
  rw [hclaim]
  cases k with
  | zero => exact hbase
  | succ n => exact h.counted _ hbase n

/-! ## Names in use that make a claim end where it is wanted -/

theorem claim_of_nothing_used :
    (claim { reserved, used := [] } name separator).1
      = base { reserved, used := [] } name separator := rfl

def candidatesBefore (stem separator : String) (n : Nat) : List String :=
  (List.range n).map (candidate stem separator)

theorem candidate_mem_candidatesBefore {k n : Nat} :
    candidate stem separator k ∈ candidatesBefore stem separator n ↔ k < n := by
  rw [candidatesBefore, List.mem_map]
  constructor
  · rintro ⟨j, hj, heq⟩
    rw [← candidate_injective stem separator heq]
    exact List.mem_range.mp hj
  · exact fun hk => ⟨k, List.mem_range.mpr hk, rfl⟩

/-- Where the candidates before it are in use and no other name is, a candidate is claimed. -/
theorem claim_of_candidatesBefore (hstem : stem ∉ reserved) (n : Nat) :
    (claim { reserved, used := candidatesBefore stem separator n } stem separator).1
      = candidate stem separator n := by
  have hbase : base { reserved, used := candidatesBefore stem separator n } stem separator = stem :=
    if_neg fun hmem => hstem (List.contains_iff_mem.mp hmem)
  obtain ⟨k, -, hclaim, hbefore⟩ :=
    claim_spec { reserved, used := candidatesBefore stem separator n } stem separator
  have hfree :=
    isUsed_claim_fst { reserved, used := candidatesBefore stem separator n } stem separator
  rw [hbase] at hclaim hbefore
  rw [hclaim] at hfree ⊢
  have hge : n ≤ k := by
    by_contra hlt
    have hmem : candidate stem separator k ∈ candidatesBefore stem separator n :=
      candidate_mem_candidatesBefore.mpr (by omega)
    rw [isUsed, List.contains_iff_mem.mpr hmem] at hfree
    exact Bool.false_ne_true hfree.symm
  have hle : k ≤ n := by
    by_contra hlt
    have hused := List.contains_iff_mem.mp (hbefore n (by omega))
    have := candidate_mem_candidatesBefore.mp hused
    omega
  rw [Nat.le_antisymm hle hge]

theorem separates_of_claims
    (h : ∀ used name, (claim { reserved, used } name separator).1 ∉ reserved) :
    Separates separator reserved where
  word word hword := by
    have hbase : base { reserved, used := [] } word separator = word ++ separator :=
      if_pos (List.contains_iff_mem.mpr hword)
    rw [← hbase, ← claim_of_nothing_used]
    exact h [] word
  counted stem hstem n := by
    rw [← claim_of_candidatesBefore hstem (n + 1)]
    exact h _ stem

/-! ## The words of the language -/

/-- A counter ends in a digit, and no word of the language does. -/
theorem candidate_succ_notMem_reservedWords (stem separator : String) (n : Nat) :
    candidate stem separator (n + 1) ∉ reservedWords := by
  have hwords : (reservedWords.all fun word => word.toList.getLast?.all (!·.isDigit)) = true := by
    decide
  intro hmem
  have hlast := List.all_eq_true.mp hwords _ hmem
  have hne : Nat.toDigits 10 (n + 1) ≠ [] := Nat.toDigits_ne_nil
  rw [candidate_succ_toList, ← List.append_assoc, List.getLast?_append,
    List.getLast?_eq_some_getLast hne, Option.some_or, Option.all_some,
    Nat.isDigit_of_mem_toDigits (by decide) (by decide) (List.getLast_mem hne)] at hlast
  exact nomatch hlast

theorem separates_reservedWords : Separates defaultSeparator reservedWords where
  word := by decide
  counted stem _ n := candidate_succ_notMem_reservedWords stem defaultSeparator n

/-- Claims avoid the reserved words, whatever names are in use, exactly where the separator keeps
the words apart from what is built with it.  The default separator does so for the words of the
language, and from a name that is none of them no separator makes one. -/
theorem claims_avoid_reserved (reserved : List String) (separator : String) :
    ((∀ used name, (claim { reserved, used } name separator).1 ∉ reserved)
        ↔ Separates separator reserved)
      ∧ (∀ used name, (claim { used } name defaultSeparator).1 ∉ reservedWords)
      ∧ ∀ used name, name ∉ reservedWords →
        (claim { used } name separator).1 ∉ reservedWords := by
  refine ⟨⟨separates_of_claims, fun h used name => h.claim_notMem⟩,
    fun used name => separates_reservedWords.claim_notMem, fun used name hname => ?_⟩
  obtain ⟨k, -, hclaim, -⟩ := claim_spec { used } name separator
  have hbase : base { used } name separator = name :=
    if_neg fun hmem => hname (List.contains_iff_mem.mp hmem)
  rw [hclaim, hbase]
  cases k with
  | zero => exact hname
  | succ n => exact candidate_succ_notMem_reservedWords name separator n

/-- A field for a second parameter `id`, with nothing between the name and the counter. -/
theorem claim_beside_id : "id" ∉ reservedWords
    ∧ (claim { used := ["id"] } "id" "").1 = "id1"
    ∧ (claim { used := ["id"] } "id" "").1 ∉ reservedWords :=
  ⟨by decide, rfl, (claims_avoid_reserved reservedWords "").2.2 ["id"] "id" (by decide)⟩

/-- Without a separator a reserved word is claimed as it is. -/
theorem reserved_word_claimed :
    ¬ ∀ reserved used name separator, (claim { reserved, used } name separator).1 ∉ reserved :=
  fun h => h reservedWords [] "class" "" (by decide)

end NameScope
end Java
end JavaCompanion
