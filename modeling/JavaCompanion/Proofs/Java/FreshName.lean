/-
Names that a scope hands out are free.

The candidates for a name are the name itself and then the name with the separator and a
counter.  No two of them are equal, so among the first `n + 1` one is free when `n` names
are in use, and the bounded search of a scope ends at the first free one.  What everything
built on scopes needs is `isUsed_claim_fst`, by which a claimed name was not in use before,
and `isUsed_claim_snd_eq_false`, by which whatever is free afterwards is another name that
was free before.
-/
import JavaCompanion.Java.NameScope
import Mathlib.Data.List.Nodup
import Mathlib.Data.List.Perm.Subperm

namespace JavaCompanion
namespace Java
namespace NameScope

/-! ## Candidates -/

theorem candidate_succ_toList (base separator : String) (n : Nat) :
    (candidate base separator (n + 1)).toList
      = base.toList ++ (separator.toList ++ Nat.toDigits 10 (n + 1)) := by
  simp [candidate, String.toList_append, List.append_assoc]

/-- A candidate with a counter is longer than the name it is built from. -/
theorem candidate_succ_ne_zero (base separator : String) (n : Nat) :
    candidate base separator (n + 1) ≠ candidate base separator 0 := by
  intro h
  have hlen := congrArg (fun s => s.toList.length) h
  simp only [candidate_succ_toList, List.length_append] at hlen
  have hpos : 0 < (Nat.toDigits 10 (n + 1)).length := Nat.length_toDigits_pos
  show False
  simp only [candidate] at hlen
  omega

theorem candidate_injective (base separator : String) :
    Function.Injective (candidate base separator) := by
  intro m n h
  cases m with
  | zero =>
    cases n with
    | zero => rfl
    | succ n => exact absurd h.symm (candidate_succ_ne_zero base separator n)
  | succ m =>
    cases n with
    | zero => exact absurd h (candidate_succ_ne_zero base separator m)
    | succ n =>
      have hlist := congrArg String.toList h
      rw [candidate_succ_toList, candidate_succ_toList] at hlist
      have hdigits := List.append_cancel_left (List.append_cancel_left hlist)
      have hvalue := congrArg (fun ds => Nat.ofDigitChars 10 ds 0) hdigits
      simpa using hvalue

/-! ## The search -/

/-- The search ends at some candidate within its fuel.  All candidates before that one are
in use, and it is free unless the fuel has run out. -/
theorem firstFree_spec (s : NameScope) (base separator : String) (fuel n : Nat) :
    ∃ k, n ≤ k ∧ k ≤ n + fuel ∧ s.firstFree base separator fuel n = candidate base separator k
      ∧ (∀ j, n ≤ j → j < k → s.isUsed (candidate base separator j) = true)
      ∧ (k < n + fuel → s.isUsed (candidate base separator k) = false) := by
  induction fuel generalizing n with
  | zero => exact ⟨n, by omega, by omega, rfl, fun j _ _ => by omega, fun _ => by omega⟩
  | succ fuel ih =>
    rw [firstFree]
    by_cases hused : s.isUsed (candidate base separator n) = true
    · obtain ⟨k, hle, hbound, hval, hbefore, hfree⟩ := ih (n + 1)
      rw [if_pos hused]
      refine ⟨k, by omega, by omega, hval, fun j hj hjk => ?_, fun hk => hfree (by omega)⟩
      rcases Nat.eq_or_lt_of_le hj with rfl | hlt
      · exact hused
      · exact hbefore j hlt hjk
    · rw [if_neg hused]
      exact ⟨n, by omega, by omega, rfl, fun j _ _ => by omega, fun _ => by simpa using hused⟩

/-- With fuel to get there the search ends at the first candidate that is free. -/
theorem firstFree_eq_candidate {s : NameScope} {base separator : String} {fuel n k : Nat}
    (hn : n ≤ k) (hfuel : k < n + fuel) (hfree : s.isUsed (candidate base separator k) = false)
    (hused : ∀ j, n ≤ j → j < k → s.isUsed (candidate base separator j) = true) :
    s.firstFree base separator fuel n = candidate base separator k := by
  obtain ⟨m, hm, -, hval, hbefore, hfree'⟩ := s.firstFree_spec base separator fuel n
  have hle : m ≤ k := by
    by_contra hlt
    have := hbefore k hn (by omega)
    rw [hfree] at this
    exact Bool.false_ne_true this
  have hge : k ≤ m := by
    by_contra hlt
    have := hused m hm (by omega)
    rw [hfree' (by omega)] at this
    exact Bool.false_ne_true this
  rw [hval, Nat.le_antisymm hle hge]

/-- As many candidates as there are names in use, and one more, cannot all be in use. -/
theorem exists_free_candidate (s : NameScope) (base separator : String) :
    ∃ k, k ≤ s.used.length ∧ s.isUsed (candidate base separator k) = false := by
  by_contra hnone
  have hall : ∀ k, k ≤ s.used.length → candidate base separator k ∈ s.used := by
    intro k hk
    by_contra hmem
    exact hnone ⟨k, hk, by simpa [isUsed] using hmem⟩
  have hnodup : ((List.range (s.used.length + 1)).map (candidate base separator)).Nodup :=
    List.nodup_range.map (candidate_injective base separator)
  have hsub : (List.range (s.used.length + 1)).map (candidate base separator) ⊆ s.used := by
    intro c hc
    obtain ⟨k, hk, rfl⟩ := List.mem_map.mp hc
    exact hall k (by have := List.mem_range.mp hk; omega)
  have hlen := (hnodup.subperm hsub).length_le
  simp only [List.length_map, List.length_range] at hlen
  omega

theorem isUsed_firstFree (s : NameScope) (base separator : String) :
    s.isUsed (s.firstFree base separator s.used.length 0) = false := by
  obtain ⟨k, -, hbound, hval, hbefore, hfree⟩ := s.firstFree_spec base separator s.used.length 0
  rw [hval]
  rcases Nat.lt_or_ge k s.used.length with hlt | hge
  · exact hfree (by omega)
  · -- With the fuel used up every earlier candidate is in use, and one has to be free.
    obtain ⟨j, hj, hjfree⟩ := s.exists_free_candidate base separator
    rcases Nat.lt_or_ge j k with hjk | hjk
    · have hused := hbefore j (Nat.zero_le j) hjk
      rw [hjfree] at hused
      exact absurd hused Bool.false_ne_true
    · have hkj : k = j := by omega
      rw [hkj]
      exact hjfree

/-! ## Claims -/

/-- A claim takes the first candidate that is free, and passes over no more of them than there are
names in use. -/
theorem claim_spec (s : NameScope) (name separator : String) :
    ∃ k ≤ s.used.length,
      (s.claim name separator).1 = candidate (s.base name separator) separator k
        ∧ ∀ j < k, s.isUsed (candidate (s.base name separator) separator j) = true := by
  obtain ⟨k, -, hbound, hval, hbefore, -⟩ :=
    s.firstFree_spec (s.base name separator) separator s.used.length 0
  exact ⟨k, by omega, hval, fun j hj => hbefore j (Nat.zero_le j) hj⟩

/-- Whatever is put behind it, a claimed name begins as the preferred one. -/
theorem claim_begins (s : NameScope) (name separator : String) :
    ∃ more, (s.claim name separator).1.toList = name.toList ++ more := by
  obtain ⟨k, -, hval, -⟩ := s.claim_spec name separator
  have hbase : ∃ more, (s.base name separator).toList = name.toList ++ more := by
    unfold base
    split
    · exact ⟨separator.toList, String.toList_append⟩
    · exact ⟨[], (List.append_nil _).symm⟩
  obtain ⟨more, hmore⟩ := hbase
  rw [hval]
  cases k with
  | zero => exact ⟨more, hmore⟩
  | succ k =>
    rw [candidate_succ_toList, hmore, List.append_assoc]
    exact ⟨_, rfl⟩

/-- Only the separator and digits are put behind the preferred name. -/
theorem mem_claim {s : NameScope} {name separator : String} {c : Char}
    (hc : c ∈ (s.claim name separator).1.toList) :
    c ∈ name.toList ∨ c ∈ separator.toList ∨ c.isDigit = true := by
  obtain ⟨k, -, hval, -⟩ := s.claim_spec name separator
  have hbase : c ∈ (s.base name separator).toList → c ∈ name.toList ∨ c ∈ separator.toList := by
    intro hmem
    unfold base at hmem
    split at hmem
    · rwa [String.toList_append, List.mem_append] at hmem
    · exact .inl hmem
  rw [hval] at hc
  cases k with
  | zero => exact (hbase hc).imp_right .inl
  | succ k =>
    rw [candidate_succ_toList, List.mem_append, List.mem_append] at hc
    rcases hc with hc | hc | hc
    · exact (hbase hc).imp_right .inl
    · exact .inr (.inl hc)
    · exact .inr (.inr (Nat.isDigit_of_mem_toDigits (by decide) (by decide) hc))

theorem isUsed_claim_fst (s : NameScope) (name separator : String) :
    s.isUsed (s.claim name separator).1 = false :=
  s.isUsed_firstFree (s.base name separator) separator

theorem isUsed_add {s : NameScope} {name other : String} :
    (s.add name).isUsed other = true ↔ other = name ∨ s.isUsed other = true := by
  by_cases h : other = name
  · subst h
    simp [isUsed_add_self]
  · rw [isUsed_add_of_ne h]
    simp [h]

/-- What is free after a claim was free before it, and is not the claimed name. -/
theorem isUsed_claim_snd_eq_false {s : NameScope} {name separator other : String} :
    (s.claim name separator).2.isUsed other = false
      ↔ other ≠ (s.claim name separator).1 ∧ s.isUsed other = false := by
  have hused : (s.claim name separator).2.isUsed other = true
      ↔ other = (s.claim name separator).1 ∨ s.isUsed other = true := isUsed_add
  rw [← Bool.not_eq_true, hused, not_or, Bool.not_eq_true]

theorem isUsed_foldl_add {s : NameScope} {names : List String} {name : String} :
    (names.foldl add s).isUsed name = true ↔ name ∈ names ∨ s.isUsed name = true := by
  induction names generalizing s with
  | nil => simp
  | cons first rest ih =>
    rw [List.foldl_cons, ih, isUsed_add, List.mem_cons, or_left_comm, or_assoc]

end NameScope
end Java
end JavaCompanion
